/-!
# Blank characters

The characters with the Unicode property `White_Space`.
-/

namespace Latchkey.Text

def isBlank (c : Char) : Bool :=
  c.toNat ∈ [0x09, 0x0a, 0x0b, 0x0c, 0x0d, 0x20, 0x85, 0xa0, 0x1680, 0x2028, 0x2029, 0x202f,
    0x205f, 0x3000] || (0x2000 ≤ c.toNat && c.toNat ≤ 0x200a)

/-- What is left when the blanks at the start are skipped. -/
def skipBlanks (text : List Char) : List Char := text.dropWhile isBlank

end Latchkey.Text
