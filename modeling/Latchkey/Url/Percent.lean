import Latchkey.Text.Hex
import Latchkey.Text.Utf8
/-!
# Percent signs in URLs

A percent sign with two hexadecimal digits after it stands for a byte. In a query there is also `+`
for a blank; its entries are names and values with `=` between them and `&` around them.
-/

namespace Latchkey.Percent

/-- The bytes of a text. A percent sign without two digits after it stands for itself. -/
def bytes : List Char → Bytes
  | '%' :: a :: b :: rest =>
    match Hex.natOfDigits? [a, b] with
    | some n => UInt8.ofNat n :: bytes rest
    | none => utf8 "%" ++ bytes (a :: b :: rest)
  | c :: rest => utf8 c.toString ++ bytes rest
  | [] => []

/-- A name or value of a query. -/
def queryText (text : List Char) : String :=
  String.ofList (Utf8.lenient (bytes (text.map fun c => if c = '+' then ' ' else c)))

/-- A name with its value, which is empty without an `=`. -/
def queryEntry (entry : List Char) : String × String :=
  (queryText (entry.takeWhile (· ≠ '=')), queryText ((entry.dropWhile (· ≠ '=')).drop 1))

/-- The entries of a query, in order. -/
def queryEntries (query : List Char) : List (String × String) :=
  ((query.splitOn '&').filter (· ≠ [])).map queryEntry

end Latchkey.Percent
