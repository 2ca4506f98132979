import Latchkey.Time.Calendar
import Latchkey.Text.Pad
import Latchkey.Text.Blank
/-!
# Instants as text

An instant is written as an RFC 3339 timestamp in universal time, with the fewest of 0, 3, 6 or 9
fraction digits that lose nothing, and with a sign on years outside 0 to 9999. Reading is more
generous: blanks around the parts, numbers without leading zeros, any offset below a day, a blank
for the `T`, and fraction digits past the ninth, which are dropped.
-/

namespace Latchkey

open Text

/-- Years 0 to 9999 have four digits; others have a sign and at least four. -/
def Date.yearText (year : Int) : String :=
  if year < 0 then "-" ++ padded 4 year.natAbs
  else if year ≤ 9999 then padded 4 year.toNat
  else "+" ++ padded 4 year.toNat

def Date.text (d : Date) : String :=
  Date.yearText d.year ++ "-" ++ padded 2 d.month ++ "-" ++ padded 2 d.day

/-- A fraction of a second in the fewest of 0, 3, 6 or 9 digits that show it exactly. -/
def fractionText (nano : Nat) : String :=
  if nano = 0 then ""
  else if nano % 1000000 = 0 then "." ++ padded 3 (nano / 1000000)
  else if nano % 1000 = 0 then "." ++ padded 6 (nano / 1000)
  else "." ++ padded 9 nano

def DateTime.text (t : DateTime) : String :=
  t.date.text ++ "T" ++ padded 2 t.hour ++ ":" ++ padded 2 t.minute ++ ":" ++ padded 2 t.second
    ++ fractionText t.nano

namespace Instant

def text (t : Instant) : String := (DateTime.ofInstant t).text ++ "Z"

/-- Passes over blanks and then the character `c`. -/
def skipMark? (c : Char) (text : List Char) : Option (List Char) :=
  match skipBlanks text with
  | d :: rest => if d = c then some rest else none
  | [] => none

/-- A year: up to four digits, or a sign and any number of them. -/
def readYear? (text : List Char) : Option (Int × List Char) :=
  match skipBlanks text with
  | '-' :: rest => (readNat? rest.length rest).map fun (n, after) => (-(n : Int), after)
  | '+' :: rest => (readNat? rest.length rest).map fun (n, after) => ((n : Int), after)
  | rest => (readNat? 4 rest).map fun (n, after) => ((n : Int), after)

/-- One or two digits after blanks. -/
def readTwo? (text : List Char) : Option (Nat × List Char) := readNat? 2 (skipBlanks text)

/-- The nanoseconds that the digits of a fraction write; those past the ninth are dropped. -/
def nanoOfDigits (digits : List Char) : Nat :=
  natOfDigits (digits.take 9) * Nat.pow 10 (9 - digits.length)

/-- An optional fraction of a second, in nanoseconds. -/
def readFraction? (text : List Char) : Option (Nat × List Char) :=
  match text with
  | '.' :: rest =>
    match rest.takeWhile Char.isDigit with
    | [] => none
    | digits => some (nanoOfDigits digits, rest.dropWhile Char.isDigit)
  | rest => some (0, rest)

/-- Two digits, the first of them no more than `top`. -/
def readPair? (top : Char) (text : List Char) : Option (Nat × List Char) :=
  match text with
  | a :: b :: rest =>
    if a.isDigit && b.isDigit && a ≤ top then some (natOfDigits [a, b], rest) else none
  | _ => none

/-- Hours and minutes of an offset, with any colons and blanks between them, in minutes. -/
def readOffsetSize? (text : List Char) : Option (Int × List Char) := do
  let (hours, text) ← readPair? '9' text
  let (minutes, text) ← readPair? '5' (text.dropWhile fun c => c == ':' || isBlank c)
  let offset := hours * 60 + minutes
  if offset < 1440 then some (offset, text) else none

/-- The offset from universal time, in minutes: `Z`, `UTC`, or a sign with hours and minutes. -/
def readOffset? (text : List Char) : Option (Int × List Char) :=
  match text with
  | 'Z' :: rest | 'z' :: rest => some (0, rest)
  | '+' :: rest => readOffsetSize? rest
  | '-' :: rest | '\u2212' :: rest => (readOffsetSize? rest).map fun (m, after) => (-m, after)
  | a :: b :: c :: rest =>
    if [a, b, c].map Char.toUpper = ['U', 'T', 'C'] then some (0, rest) else none
  | _ => none

def readDate? (text : List Char) : Option (Date × List Char) := do
  let (year, text) ← readYear? text
  let text ← skipMark? '-' text
  let (month, text) ← readTwo? text
  let text ← skipMark? '-' text
  let (day, text) ← readTwo? text
  let date : Date := ⟨year, month, day⟩
  if date.Valid then some (date, text) else none

/-- The time of day on `date`. Second 60 is a leap second. -/
def readTime? (date : Date) (text : List Char) : Option (DateTime × List Char) := do
  let (hour, text) ← readTwo? text
  let text ← skipMark? ':' text
  let (minute, text) ← readTwo? text
  let text ← skipMark? ':' text
  let (second, text) ← readTwo? text
  let (nano, text) ← readFraction? text
  if hour ≤ 23 ∧ minute ≤ 59 ∧ second ≤ 60 then some (⟨date, hour, minute, second, nano⟩, text)
  else none

/-- The instant that a timestamp names. -/
def ofText? (text : String) : Option Instant := do
  let (date, rest) ← readDate? text.toList
  let rest ← match rest with
    | 'T' :: rest | 't' :: rest | ' ' :: rest => some rest
    | _ => none
  let (shown, rest) ← readTime? date rest
  let (offset, rest) ← readOffset? (skipBlanks rest)
  if rest.all isBlank then shown.instant? offset else none

end Instant

end Latchkey
