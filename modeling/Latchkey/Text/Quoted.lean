import Latchkey.Text.Hex
import Latchkey.Text.Printable
/-!
# Quoted text

A text between double quotes in which every character can be seen: quotes and backslashes have a
backslash before them, and what is not shown as it is appears as an escape.
-/

namespace Latchkey.Text

/-- The hexadecimal digits of a number, without leading zeros. -/
def hexText (n : Nat) : String := String.ofList (Nat.toDigits 16 n)

def quotedChar (c : Char) : String :=
  match c with
  | '"' => "\\\""
  | '\\' => "\\\\"
  | '\n' => "\\n"
  | '\r' => "\\r"
  | '\t' => "\\t"
  | '\x00' => "\\0"
  | c => if isShown c then c.toString else "\\u\x7b" ++ hexText c.toNat ++ "\x7d"

def quoted (s : String) : String := "\"" ++ String.join (s.toList.map quotedChar) ++ "\""

end Latchkey.Text
