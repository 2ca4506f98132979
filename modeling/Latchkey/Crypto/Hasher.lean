import Latchkey.Crypto.Sha256
import Latchkey.Text.Hex
/-!
# Digests of keys

A key is stored and found by its digest: plain SHA-256, SHA-256 keyed with a secret, or a function
of the caller's. `matches` compares digests without stopping at the first difference.
-/

namespace Latchkey

inductive Hasher where
  | sha256
  | hmacSha256 (secret : Bytes)
  | custom (digest : String → String)

namespace Hasher

/-- Keyed if there is a secret and it is not empty. -/
def ofSecret (secret : Option String) : Hasher :=
  match secret with
  | some s => if s.isEmpty then sha256 else hmacSha256 (utf8 s)
  | none => sha256

/-- The digest under which a key is stored. -/
def hash (h : Hasher) (key : String) : String :=
  match h with
  | sha256 => Hex.encode (Sha256.digest (utf8 key))
  | hmacSha256 secret => Hex.encode (Sha256.hmac secret (utf8 key))
  | custom digest => digest key

/-- All the bits in which two byte strings differ, gathered over the shorter of them. -/
def differences (a b : Bytes) : UInt8 :=
  (a.zip b).foldl (fun acc (x, y) => acc ||| (x ^^^ y)) 0

/-- Equality of texts, found by looking at every byte. -/
def constantTimeEq (a b : String) : Bool :=
  (utf8 a).length == (utf8 b).length && differences (utf8 a) (utf8 b) == 0

/-- Whether a digest is that of a key. -/
def «matches» (h : Hasher) (key digest : String) : Bool := constantTimeEq (h.hash key) digest

/-- What a log may show of the hasher; never the secret. -/
def debugText : Hasher → String
  | sha256 => "Sha256"
  | hmacSha256 _ => "HmacSha256(<secret>)"
  | custom _ => "Custom(<fn>)"

end Hasher

end Latchkey
