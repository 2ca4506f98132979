import Latchkey.Json.Number
import Latchkey.Text.Hex
/-!
# The tokens of a JSON text

One pass over the characters. The lexer is between tokens, inside a string, or inside a run of
other characters, which is a number or one of the words `true`, `false` and `null`. A string whose
escapes make no text, and a number too large for a double, are tokens without a value.
-/

namespace Latchkey.Json

inductive Token where
  | openBrace | closeBrace | openBracket | closeBracket | colon | comma
  /-- A number or a word. -/
  | plain (value : Option Json)
  | string (text : Option String)

/-- Where the lexer is. Characters of the current token are kept in reverse; there are none once
the escapes of a string have made no text. -/
inductive Mode where
  | between
  | run (seen : List Char)
  /-- In a string; `high` is the first half of a surrogate pair that waits for the second. -/
  | string (seen : Option (List Char)) (high : Option Nat)
  | escape (seen : Option (List Char)) (high : Option Nat)
  /-- In `\u`, with the value of the digits so far and how many are to come. -/
  | unicode (seen : Option (List Char)) (high : Option Nat) (value : Nat) (left : Nat)

/-- What a run of characters other than strings and punctuation says, if it is well formed. -/
def ofRun? (run : List Char) : Option (Option Json) :=
  match String.ofList run with
  | "true" => some (some (.bool true))
  | "false" => some (some (.bool false))
  | "null" => some (some .null)
  | _ => (NumberText.read? run).map NumberText.value?

/-- The token of a punctuation mark. -/
def punctuation? : Char → Option Token
  | '{' => some .openBrace
  | '}' => some .closeBrace
  | '[' => some .openBracket
  | ']' => some .closeBracket
  | ':' => some .colon
  | ',' => some .comma
  | _ => none

/-- The only blanks between tokens. -/
def isSpace (c : Char) : Bool := c == ' ' || c == '\n' || c == '\r' || c == '\t'

/-- What a character does between tokens: the token it is, and the mode after it. -/
def start (c : Char) : List Token × Mode :=
  match punctuation? c with
  | some t => ([t], .between)
  | none =>
    if c == '"' then ([], .string (some []) none)
    else if isSpace c then ([], .between)
    else ([], .run [c])

/-- The character of an escape that is not `\u`. -/
def escaped? : Char → Option Char
  | '"' => some '"'
  | '\\' => some '\\'
  | '/' => some '/'
  | 'b' => some '\x08'
  | 'f' => some '\x0c'
  | 'n' => some '\n'
  | 'r' => some '\r'
  | 't' => some '\t'
  | _ => none

/-- What has been seen of a string when anything but `\u` comes next: no text, if half of a
surrogate pair is left alone. -/
def seenAfter (seen : Option (List Char)) (high : Option Nat) : Option (List Char) :=
  if high.isSome then none else seen

/-- The mode after a complete `\u`: a character, or the first half of a surrogate pair. -/
def endUnicode (seen : Option (List Char)) (high : Option Nat) (unit : Nat) : Mode :=
  let isSecond := 0xdc00 ≤ unit && unit ≤ 0xdfff
  match high with
  | some h =>
    let pair := Char.ofNat (0x10000 + (h - 0xd800) * 0x400 + (unit - 0xdc00))
    .string (if isSecond then seen.map (pair :: ·) else none) none
  | none =>
    if 0xd800 ≤ unit && unit ≤ 0xdbff then .string seen (some unit)
    else .string (if isSecond then none else seen.map (Char.ofNat unit :: ·)) none

/-- One character: the tokens that it ends, and the mode after it. -/
def step? (mode : Mode) (c : Char) : Option (List Token × Mode) :=
  match mode with
  | .between => some (start c)
  | .run seen =>
    if (punctuation? c).isSome || isSpace c || c == '"' then do
      let value ← ofRun? seen.reverse
      let (tokens, mode) := start c
      some (.plain value :: tokens, mode)
    else some ([], .run (c :: seen))
  | .string seen high =>
    if c == '\\' then some ([], .escape seen high)
    else if c.toNat < 0x20 then none
    else
      let seen := seenAfter seen high
      if c == '"' then
        some ([.string (seen.map fun seen => String.ofList seen.reverse)], .between)
      else some ([], .string (seen.map (c :: ·)) none)
  | .escape seen high =>
    if c == 'u' then some ([], .unicode seen high 0 4)
    else (escaped? c).map fun d => ([], .string ((seenAfter seen high).map (d :: ·)) none)
  | .unicode seen high value left => do
    let value := value * 16 + (← Hex.digitValue? c)
    if left ≤ 1 then some ([], endUnicode seen high value)
    else some ([], .unicode seen high value (left - 1))

/-- The tokens of a text that is read on from a mode. -/
def tokensFrom? (mode : Mode) : List Char → Option (List Token)
  | [] =>
    match mode with
    | .between => some []
    | .run seen => (ofRun? seen.reverse).map fun value => [.plain value]
    | _ => none
  | c :: rest => do
    let (tokens, mode) ← step? mode c
    let more ← tokensFrom? mode rest
    some (tokens ++ more)

def tokens? (text : String) : Option (List Token) := tokensFrom? .between text.toList

end Latchkey.Json
