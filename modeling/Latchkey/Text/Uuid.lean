import Latchkey.Text.Hex
/-!
# Random UUIDs

Sixteen random bytes in which the version bits are set to 4 and the variant bits to binary 10,
written as 32 hexadecimal digits in groups of 8, 4, 4, 4 and 12.
-/

namespace Latchkey.Uuid

/-- The bytes with version and variant set. -/
def stamp : Bytes → Bytes
  | b₀ :: b₁ :: b₂ :: b₃ :: b₄ :: b₅ :: b₆ :: b₇ :: b₈ :: rest =>
    b₀ :: b₁ :: b₂ :: b₃ :: b₄ :: b₅ :: (b₆ &&& 0x0f ||| 0x40) :: b₇ :: (b₈ &&& 0x3f ||| 0x80)
      :: rest
  | bytes => bytes

/-- The sixteen bytes in their groups, with hyphens between. -/
def grouped (bytes : Bytes) : List Char :=
  Hex.chars (bytes.take 4) ++ '-' :: Hex.chars ((bytes.drop 4).take 2)
    ++ '-' :: Hex.chars ((bytes.drop 6).take 2) ++ '-' :: Hex.chars ((bytes.drop 8).take 2)
    ++ '-' :: Hex.chars (bytes.drop 10)

def chars (bytes : Bytes) : List Char := grouped (stamp bytes)

end Latchkey.Uuid
