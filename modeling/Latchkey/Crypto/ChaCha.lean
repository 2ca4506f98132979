import Latchkey.Bytes
/-!
# A seeded stream of random bytes

ChaCha with twelve rounds as a generator of bytes. Its key comes from a 64-bit seed by a linear
congruence whose states are permuted into 32-bit words, and a counter of 64 bits numbers the blocks.
-/

namespace Latchkey.ChaCha

/-- The sixteen words of a block. -/
abbrev Block : Type := Array UInt32

def rotateLeft (x : UInt32) (n : UInt32) : UInt32 := (x <<< n) ||| (x >>> (32 - n))

/-- The quarter round on the words at four places. -/
def quarter (s : Block) (i j k l : Nat) : Block :=
  let word (n : Nat) : UInt32 := s.getD n 0
  let a := word i + word j
  let d := rotateLeft (word l ^^^ a) 16
  let c := word k + d
  let b := rotateLeft (word j ^^^ c) 12
  let a := a + b
  let d := rotateLeft (d ^^^ a) 8
  let c := c + d
  let b := rotateLeft (b ^^^ c) 7
  ((((s.setIfInBounds i a).setIfInBounds j b).setIfInBounds k c).setIfInBounds l d)

/-- A round on the columns and one on the diagonals. -/
def doubleRound (s : Block) : Block :=
  let s := quarter (quarter (quarter (quarter s 0 4 8 12) 1 5 9 13) 2 6 10 14) 3 7 11 15
  quarter (quarter (quarter (quarter s 0 5 10 15) 1 6 11 12) 2 7 8 13) 3 4 9 14

def rounds (s : Block) : Nat → Block
  | 0 => s
  | n + 1 => rounds (doubleRound s) n

/-- The block of a key before its rounds. -/
def start (key : List UInt32) (counter : Nat) : Block :=
  ([0x61707865, 0x3320646e, 0x79622d32, 0x6b206574] ++ key
    ++ [UInt32.ofNat counter, UInt32.ofNat (counter / UInt32.size), 0, 0]).toArray

def littleEndian (w : UInt32) : Bytes :=
  [w.toUInt8, (w >>> 8).toUInt8, (w >>> 16).toUInt8, (w >>> 24).toUInt8]

/-- The 64 bytes of a block. -/
def blockBytes (key : List UInt32) (counter : Nat) : Bytes :=
  let s := start key counter
  (s.toList.zip (rounds s 6).toList).flatMap fun (x, y) => littleEndian (x + y)

/-- So many words of a key from the state of the congruence. -/
def seedWords (state : UInt64) : Nat → List UInt32
  | 0 => []
  | count + 1 =>
    let state := state * 6364136223846793005 + 11634580027462260723
    let word := (((state >>> 18) ^^^ state) >>> 27).toUInt32
    let turn := (state >>> 59).toUInt32
    ((word >>> turn) ||| (word <<< ((32 - turn) % 32))) :: seedWords state count

/-- A stream: its key and how many of its bytes are used up. -/
structure Stream where
  key : List UInt32
  position : Nat

def Stream.ofSeed (seed : UInt64) : Stream := ⟨seedWords seed 8, 0⟩

/-- The bytes of `count` blocks from the given one on. -/
def blocksFrom (key : List UInt32) (counter : Nat) : Nat → Bytes
  | 0 => []
  | count + 1 => blockBytes key counter ++ blocksFrom key (counter + 1) count

/-- The next `n` bytes. What is used up is counted in whole words of four bytes. -/
def Stream.take (s : Stream) (n : Nat) : Bytes × Stream :=
  let offset := s.position % 64
  let bytes := blocksFrom s.key (s.position / 64) ((offset + n + 63) / 64)
  ((bytes.drop offset).take n, { s with position := s.position + (n + 3) / 4 * 4 })

end Latchkey.ChaCha
