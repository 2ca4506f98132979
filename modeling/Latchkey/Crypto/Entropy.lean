import Latchkey.Act
import Latchkey.Error
import Latchkey.Crypto.ChaCha
/-!
# Sources of random bytes

A source answers a request for a number of bytes or fails. Next to sources that are truly random
there are ones that repeat: a count, a given list of bytes, and a seeded stream.
-/

namespace Latchkey

inductive Entropy where
  /-- Bytes that follow from the number of the request. -/
  | counter (next : Nat)
  /-- The bytes of a list in order, over and over; `position` of them have been taken. -/
  | cycle (bytes : Bytes) (position : Nat)
  /-- The bytes of a list in order until they run out. -/
  | finite (bytes : Bytes)
  | seeded (stream : ChaCha.Stream)

namespace Entropy

def exhausted : Error := .keyGeneration "random source exhausted"

/-- The bytes of request number `c`: two bytes of the number, then its low byte plus the place. -/
def counterBytes (c n : Nat) : Bytes :=
  (List.range n).map fun j =>
    if j = 0 then UInt8.ofNat c else if j = 1 then UInt8.ofNat (c / 256) else UInt8.ofNat (c + j)

/-- The next `n` bytes of a list that is repeated without end, from a position on. -/
def cycleBytes (bytes : Bytes) (position n : Nat) : Bytes :=
  (List.range n).map fun j => bytes.getD ((position + j) % bytes.length) 0

/-- The next `n` bytes. A source that cannot give them all gives none and stays as it is. -/
def draw (n : Nat) : Act Entropy Error Bytes := fun source =>
  match source with
  | counter next => (.ok (counterBytes next n), counter (next + 1))
  | cycle bytes position =>
    if bytes.isEmpty then (.error (.error exhausted), source)
    else (.ok (cycleBytes bytes position n), cycle bytes (position + n))
  | finite bytes =>
    if bytes.isEmpty || bytes.length < n then (.error (.error exhausted), source)
    else (.ok (bytes.take n), finite (bytes.drop n))
  | seeded stream =>
    let (bytes, stream) := stream.take n
    (.ok bytes, seeded stream)

end Entropy

end Latchkey
