import Latchkey.Text.Pad
/-!
# Paths to settings

A path leads from a table to a setting: a name, and then names after points and positions in
brackets, as in `keys.label` and `keys[0]`. A text that is no path stands for one name.
-/

namespace Latchkey

open Text

/-- A step on the way to a setting. -/
inductive PathPart where
  | entry (name : String)
  /-- A position in a list; a negative one counts from the end. -/
  | item (index : Int)
deriving DecidableEq

namespace PathPart

/-- The path that `parts` lead along. -/
def pathText : List PathPart → String
  | [] => ""
  | entry name :: rest =>
    match rest with
    | entry _ :: _ => name ++ "." ++ pathText rest
    | _ => name ++ pathText rest
  | item index :: rest => "[" ++ toString index ++ "]" ++
    match rest with
    | entry _ :: _ => "." ++ pathText rest
    | _ => pathText rest

/-- Letters and digits of ASCII, hyphen, underscore and blank. -/
def isNameChar (c : Char) : Bool := c.isAlphanum || c == '-' || c == '_' || c == ' '

/-- A name, and what follows it. -/
def readName? (text : List Char) : Option (PathPart × List Char) :=
  match text.takeWhile isNameChar with
  | [] => none
  | name => some (.entry (String.ofList name), text.dropWhile isNameChar)

/-- Blanks and tabs, which may stand inside brackets. -/
def isGap (c : Char) : Bool := c == ' ' || c == '\t'

/-- A position of 64 bits up to its closing bracket, and what follows that. -/
def readItem? (text : List Char) : Option (PathPart × List Char) :=
  let (negative, text) := match text.dropWhile isGap with
    | '-' :: rest => (true, rest)
    | rest => (false, rest)
  let digits := text.takeWhile Char.isDigit
  let size : Int := natOfDigits digits
  let index := if negative then -size else size
  match (text.dropWhile Char.isDigit).dropWhile isGap with
  | ']' :: rest =>
    if digits ≠ [] ∧ -9223372036854775808 ≤ index ∧ index ≤ 9223372036854775807 then
      some (.item index, rest)
    else none
  | _ => none

/-- The parts of a path after its first, of which there are at most `most`. -/
def readRest? : Nat → List Char → Option (List PathPart)
  | _, [] => some []
  | 0, _ => none
  | most + 1, c :: text => do
    let (part, rest) ← match c with
      | '.' => readName? text
      | '[' => readItem? text
      | _ => none
    let others ← readRest? most rest
    some (part :: others)

/-- The path that a text writes. -/
def readPath (text : String) : List PathPart :=
  let chars := text.toList
  let parts := do
    let (first, rest) ← readName? chars
    let others ← readRest? chars.length rest
    some (first :: others)
  parts.getD [.entry text]

end PathPart

end Latchkey
