/-!
# Key identifiers and labels

An identifier names a key record and a label is the visible start of a key, such as `sk_live_`.
Lengths are measured in bytes of UTF-8, and the first rule that a text breaks is the one reported.
-/

namespace Latchkey

/-- An identifier of a key. `KeyId.ofText` accepts the texts fit for one. -/
structure KeyId where
  text : String
deriving DecidableEq

/-- Why a text is not fit for an identifier or a label. -/
inductive NameFault where
  | emptyId
  | idTooLong
  | invalidIdCharacter (c : Char)
  | labelTooLong
  | invalidLabelCharacter (c : Char)
deriving DecidableEq

namespace KeyId

/-- The most bytes in an identifier. -/
def maxLength : Nat := 128

/-- ASCII letters and digits, hyphen and underscore. -/
def isIdChar (c : Char) : Bool := c.isAlphanum || c == '-' || c == '_'

/-- What is wrong with a text as an identifier. -/
def fault? (text : String) : Option NameFault :=
  if text.isEmpty then some .emptyId
  else if maxLength < text.utf8ByteSize then some .idTooLong
  else (text.toList.find? (!isIdChar ·)).map .invalidIdCharacter

def ofText (text : String) : Except NameFault KeyId :=
  match fault? text with
  | some f => .error f
  | none => .ok ⟨text⟩

end KeyId

namespace Label

/-- The most bytes in a label. -/
def maxLength : Nat := 32

/-- Visible ASCII characters: all but the blank and the control characters. -/
def isLabelChar (c : Char) : Bool := '!' ≤ c && c ≤ '~'

/-- What is wrong with a text as a label. -/
def fault? (text : String) : Option NameFault :=
  if maxLength < text.utf8ByteSize then some .labelTooLong
  else (text.toList.find? (!isLabelChar ·)).map .invalidLabelCharacter

end Label

namespace NameFault

def message : NameFault → String
  | emptyId => "Key ID cannot be empty"
  | idTooLong => "Key ID exceeds maximum length of 128 characters"
  | invalidIdCharacter c =>
    "Key ID contains invalid character: '" ++ c.toString
      ++ "'. Only alphanumeric characters, hyphens and underscores are allowed"
  | labelTooLong => "Key prefix exceeds maximum length of 32 characters"
  | invalidLabelCharacter c => "Key prefix contains invalid character: '" ++ c.toString ++ "'"

end NameFault

end Latchkey
