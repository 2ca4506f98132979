import Latchkey.Command.Generate
import Latchkey.Decimal.Read
/-!
# Command lines

A command line is a command and its arguments: options with one value each, and for one command a
word. An option keeps its value back until the next argument that is known, or the end, settles it;
so an argument that is not known is reported before a value that is wrong. After `--` every argument
is a word.
-/

namespace Latchkey

structure SweepArgs where
  batchSize : Nat := 100
  /-- Spare what expired less than so many seconds ago. -/
  olderThanSecs : Option Nat := none
deriving DecidableEq

inductive Command where
  /-- Mints keys and shows them with their digests. -/
  | generate (o : GenerateOptions)
  /-- Shows the digest of a key. -/
  | hash (key : String) (secret : Option String)
  /-- Removes one batch of expired keys. -/
  | sweep (a : SweepArgs)
deriving DecidableEq

/-- What there is help about. -/
inductive Topic where
  | program
  | generate
  | hash
  | sweep
  | help
deriving DecidableEq

/-- Why a command line is no command. -/
inductive Usage where
  | help (topic : Topic)
  | version
  | noCommand
  | unknownCommand
  | unknownArgument
  /-- An option without its value. -/
  | noValue
  | badValue
  | repeated
  | missingWord
  /-- A value for an option that takes none. -/
  | surplusValue
deriving DecidableEq

namespace Usage

def name : Usage → String
  | help _ => "DisplayHelp"
  | version => "DisplayVersion"
  | noCommand => "DisplayHelpOnMissingArgumentOrSubcommand"
  | unknownCommand => "InvalidSubcommand"
  | unknownArgument => "UnknownArgument"
  | noValue => "InvalidValue"
  | badValue => "ValueValidation"
  | repeated => "ArgumentConflict"
  | missingWord => "MissingRequiredArgument"
  | surplusValue => "TooManyValues"

end Usage

/-! ## Arguments of a command -/

/-- What a command takes: options, each with what its value has to be, and a word or none. -/
structure Shape where
  topic : Topic
  options : List (String × (String → Bool))
  takesWord : Bool

namespace Shape

def isCount (text : String) : Bool := (readUInt64? text).isSome

def isAge (text : String) : Bool := (readInt64? text).any (0 ≤ ·)

def generate : Shape where
  topic := .generate
  options := [("kind", fun _ => true), ("length", isCount), ("prefix", fun _ => true),
    ("count", isCount)]
  takesWord := false

def hash : Shape := ⟨.hash, [("secret", fun _ => true)], true⟩

def sweep : Shape := ⟨.sweep, [("batch-size", isCount), ("older-than-secs", isAge)], false⟩

end Shape

/-- One argument by its form. -/
inductive Argument where
  /-- Two hyphens alone. -/
  | dashes
  | long (name : String) (value : Option String)
  /-- One hyphen and the letter after it. -/
  | short (letter : Char)
  | word (text : String)
deriving DecidableEq

/-- What comes before the first equals sign, and what comes after it. -/
def splitEquals : List Char → List Char × Option (List Char)
  | [] => ([], none)
  | '=' :: rest => ([], some rest)
  | c :: rest =>
    let (name, value) := splitEquals rest
    (c :: name, value)

def Argument.of (text : String) : Argument :=
  match text.toList with
  | ['-', '-'] => .dashes
  | '-' :: '-' :: rest =>
    let (name, value) := splitEquals rest
    .long (String.ofList name) (value.map String.ofList)
  | '-' :: letter :: _ => .short letter
  | _ => .word text

/-- What has been read of the arguments. -/
structure Collected where
  settled : List (String × String) := []
  /-- An option that is not settled yet, and its value if that has come. -/
  pending : Option (String × Option String) := none
  word : Option String := none
  /-- Whether `--` has come. -/
  wordsOnly : Bool := false

namespace Collected

/-- Settles the pending option. -/
def settle (shape : Shape) (c : Collected) : Except Usage Collected :=
  match c.pending with
  | none => .ok c
  | some (_, none) => .error .noValue
  | some (name, some value) =>
    if (c.settled.lookup name).isSome then .error .repeated
    else if (shape.options.lookup name).all (fun valid => valid value) then
      .ok { c with settled := c.settled ++ [(name, value)], pending := none }
    else .error .badValue

def addWord (shape : Shape) (text : String) (c : Collected) : Except Usage Collected := do
  if shape.takesWord && c.word.isNone then
    let c ← c.settle shape
    .ok { c with word := some text }
  else .error .unknownArgument

/-- Begins an option; one with its value attached is settled at once. -/
def addOption (shape : Shape) (name : String) (value : Option String) (c : Collected) :
    Except Usage Collected := do
  let c ← c.settle shape
  let c := { c with pending := some (name, value) }
  if value.isSome then c.settle shape else .ok c

def add (shape : Shape) (c : Collected) (text : String) : Except Usage Collected :=
  if c.wordsOnly then c.addWord shape text
  else
    match Argument.of text with
    | .dashes => .ok { c with wordsOnly := true }
    | .long name value =>
      if (shape.options.lookup name).isSome then c.addOption shape name value
      else if name = "help" then
        if value.isSome then .error .surplusValue
        else do
          let _ ← c.settle shape
          .error (.help shape.topic)
      else .error .unknownArgument
    | .short letter =>
      if letter = 'h' then do
        let _ ← c.settle shape
        .error (.help shape.topic)
      else .error .unknownArgument
    | .word text =>
      match c.pending with
      | some (name, none) => .ok { c with pending := some (name, some text) }
      | _ => c.addWord shape text

/-- The arguments of a command. -/
def ofArgs (shape : Shape) (args : List String) : Except Usage Collected := do
  let c ← (← args.foldlM (add shape) {}).settle shape
  if shape.takesWord && c.word.isNone then .error .missingWord else .ok c

/-- The value of an option. -/
def value? (c : Collected) (name : String) : Option String := c.settled.lookup name

def count? (c : Collected) (name : String) : Option Nat := (c.value? name).bind readUInt64?

end Collected

/-! ## Commands -/

namespace Command

def topic? : String → Option Topic
  | "generate" => some .generate
  | "hash" => some .hash
  | "sweep" => some .sweep
  | "help" => some .help
  | _ => none

def ofGenerate (c : Collected) : Command :=
  .generate {
    kind := c.value? "kind"
    length := c.count? "length"
    label := c.value? "prefix"
    count := (c.count? "count").getD 1 }

def ofHash (c : Collected) : Command := .hash (c.word.getD "") (c.value? "secret")

def ofSweep (c : Collected) : Command :=
  .sweep {
    batchSize := (c.count? "batch-size").getD 100
    olderThanSecs := ((c.value? "older-than-secs").bind readInt64?).map Int.toNat }

/-- Help about the command that the words name: one command, or none. -/
def helpOn : List String → Usage
  | [] => .help .program
  | [name] => ((topic? name).map Usage.help).getD .unknownCommand
  | _ => .unknownCommand

/-- An argument in the place of a command. -/
def notNamed (text : String) (rest : List String) : Usage :=
  match Argument.of text with
  | .dashes =>
    match rest with
    | [] => .noCommand
    | name :: _ => if (topic? name).isSome then .unknownArgument else .unknownCommand
  | .long name value =>
    if name = "help" ∨ name = "version" then
      if value.isSome then .surplusValue
      else if name = "help" then .help .program else .version
    else .unknownArgument
  | .short 'h' => .help .program
  | .short 'V' => .version
  | .short _ => .unknownArgument
  | .word _ => .unknownCommand

/-- The command of a command line. -/
def ofArgs : List String → Except Usage Command
  | [] => .error .noCommand
  | name :: args =>
    match topic? name with
    | some .generate => (Collected.ofArgs .generate args).map ofGenerate
    | some .hash => (Collected.ofArgs .hash args).map ofHash
    | some .sweep => (Collected.ofArgs .sweep args).map ofSweep
    | some .help => .error (helpOn args)
    | _ => .error (notNamed name args)

end Command

end Latchkey
