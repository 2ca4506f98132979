/-!
# Fixed-width numbers

Decimal numbers padded with zeros on the left, and their reading from a list of characters.
-/

namespace Latchkey.Text

/-- The decimal digits of `n`, at least `width` of them. -/
def padded (width n : Nat) : String :=
  let digits := toString n
  String.ofList (List.replicate (width - digits.length) '0') ++ digits

def digitValue (c : Char) : Nat := c.toNat - '0'.toNat

/-- The number that a list of decimal digits writes. -/
def natOfDigits (digits : List Char) : Nat :=
  digits.foldl (fun n c => n * 10 + digitValue c) 0

/-- The run of at most `most` digits at the start, and the rest. -/
def digitsUpTo : Nat → List Char → List Char × List Char
  | most + 1, c :: rest =>
    if c.isDigit then
      let (digits, after) := digitsUpTo most rest
      (c :: digits, after)
    else ([], c :: rest)
  | _, rest => ([], rest)

/-- A number of one to `most` digits, and what follows it. -/
def readNat? (most : Nat) (text : List Char) : Option (Nat × List Char) :=
  match digitsUpTo most text with
  | ([], _) => none
  | (digits, rest) => some (natOfDigits digits, rest)

end Latchkey.Text
