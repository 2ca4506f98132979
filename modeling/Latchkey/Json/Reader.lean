import Latchkey.Json.Draft
import Latchkey.Json.Lexer
/-!
# Reading JSON

The tokens are read by a machine with a stack of the arrays and objects that are still open. What
it expects next decides which tokens it takes. It makes a draft, which is then given its meaning:
as a value, or as a record of which only the fields matter.
-/

namespace Latchkey.Json

/-- An array or object that is still open, with its parts in reverse. -/
inductive Frame where
  | array (items : List Draft)
  /-- Here `name` is the name of the entry that is being read. -/
  | object (entries : List (Option String × Draft)) (name : Option String)

inductive Expected where
  | value
  /-- A value, or the end of an array that has just been opened. -/
  | valueOrClose
  /-- A name, or the end of an object that has just been opened. -/
  | nameOrClose
  | name
  | colon
  | commaOrClose
  /-- Nothing: the value is complete. -/
  | done (draft : Draft)

structure Reader where
  stack : List Frame
  expected : Expected

namespace Reader

/-- The machine after a complete value. -/
def put (draft : Draft) (stack : List Frame) : Reader :=
  match stack with
  | [] => ⟨[], .done draft⟩
  | .array items :: rest => ⟨.array (draft :: items) :: rest, .commaOrClose⟩
  | .object entries name :: rest => ⟨.object ((name, draft) :: entries) none :: rest, .commaOrClose⟩

/-- The machine after the start of a value. -/
def startValue? (stack : List Frame) : Token → Option Reader
  | .plain value => some (put (.plain value) stack)
  | .string text => some (put (.string text) stack)
  | .openBracket => some ⟨.array [] :: stack, .valueOrClose⟩
  | .openBrace => some ⟨.object [] none :: stack, .nameOrClose⟩
  | _ => none

def closeArray? : List Frame → Option Reader
  | .array items :: rest => some (put (.array items.reverse) rest)
  | _ => none

def closeObject? : List Frame → Option Reader
  | .object entries _ :: rest => some (put (.object entries.reverse) rest)
  | _ => none

def setName? (name : Option String) : List Frame → Option Reader
  | .object entries _ :: rest => some ⟨.object entries name :: rest, .colon⟩
  | _ => none

def step? (r : Reader) (token : Token) : Option Reader :=
  match r.expected, token with
  | .value, t => startValue? r.stack t
  | .valueOrClose, .closeBracket => closeArray? r.stack
  | .valueOrClose, t => startValue? r.stack t
  | .nameOrClose, .closeBrace => closeObject? r.stack
  | .nameOrClose, .string name => setName? name r.stack
  | .name, .string name => setName? name r.stack
  | .colon, .colon => some ⟨r.stack, .value⟩
  | .commaOrClose, .comma =>
    match r.stack with
    | .array _ :: _ => some ⟨r.stack, .value⟩
    | .object _ _ :: _ => some ⟨r.stack, .name⟩
    | [] => none
  | .commaOrClose, .closeBracket => closeArray? r.stack
  | .commaOrClose, .closeBrace => closeObject? r.stack
  | _, _ => none

end Reader

/-- What a text says, if it is one well-formed value and nothing else. -/
def Draft.read? (text : String) : Option Draft := do
  let tokens ← tokens? text
  let r ← tokens.foldlM Reader.step? ⟨[], .value⟩
  match r.expected with
  | .done draft => some draft
  | _ => none

/-- The value that a text writes. -/
def read? (text : String) : Option Json := (Draft.read? text).bind (Draft.value? Draft.depthLimit)

/-- The record of the given fields that a text writes. -/
def readRecord? (names : List String) (text : String) : Option Json :=
  (Draft.read? text).bind (Draft.record? names)

end Latchkey.Json
