import Latchkey.Bytes
/-!
# Crockford's base 32

Digits and capital letters without I, L, O and U. Each byte gives one character, by its low five
bits.
-/

namespace Latchkey.Crockford

def alphabet : List Char := "0123456789ABCDEFGHJKMNPQRSTVWXYZ".toList

/-- The character of a number below 32. -/
def digit (n : Nat) : Char := alphabet.getD n '0'

def chars (bytes : Bytes) : List Char := bytes.map fun b => digit (b.toNat % 32)

end Latchkey.Crockford
