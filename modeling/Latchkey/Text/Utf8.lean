import Latchkey.Bytes
/-!
# Texts in UTF-8

Bytes are read character by character. Where they stop making characters, `Utf8.firstFault?` says at
which byte and how many bytes are spoilt; `Utf8.lenient` reads on behind them and leaves the
replacement character in their place.
-/

namespace Latchkey.Utf8

/-- What stands at the start of some bytes. -/
inductive Lead where
  /-- A character, and the bytes after its first that belong to it. -/
  | char (c : Char) (more : Nat)
  /-- Bytes that begin no character: the first one and so many after it. -/
  | spoilt (more : Nat)
  /-- The start of a character that is cut off by the end of the bytes. -/
  | cut

/-- How many bytes follow a first byte; none if it begins no character. -/
def following? (first : Nat) : Option Nat :=
  if first < 0x80 then some 0
  else if 0xc2 ≤ first ∧ first ≤ 0xdf then some 1
  else if 0xe0 ≤ first ∧ first ≤ 0xef then some 2
  else if 0xf0 ≤ first ∧ first ≤ 0xf4 then some 3
  else none

/-- Whether a second byte may follow the first. Some may not, as there is a shorter form or no such
character. -/
def maySecond (first second : Nat) : Bool :=
  let low := if first = 0xe0 then 0xa0 else if first = 0xf0 then 0x90 else 0x80
  let high := if first = 0xed then 0x9f else if first = 0xf4 then 0x8f else 0xbf
  low ≤ second && second ≤ high

/-- Whether a byte may stand third or fourth. -/
def mayFollow (byte : UInt8) : Bool := 0x80 ≤ byte.toNat && byte.toNat ≤ 0xbf

/-- How many of the bytes at the start of `rest`, of which `count` are needed, follow `first`. -/
def followers (first count : Nat) (rest : Bytes) : Nat :=
  match rest.take count with
  | [] => 0
  | second :: others =>
    if maySecond first second.toNat then 1 + (others.takeWhile mayFollow).length else 0

/-- The character of a first byte and those that follow it, which add six bits each. -/
def charOf (first : Nat) (others : Bytes) : Char :=
  let top := if others = [] then first else first % Nat.pow 2 (6 - others.length)
  Char.ofNat (others.foldl (fun n b => n * 64 + b.toNat % 64) top)

def lead (first : UInt8) (rest : Bytes) : Lead :=
  match following? first.toNat with
  | none => .spoilt 0
  | some count =>
    let found := followers first.toNat count rest
    if found = count then .char (charOf first.toNat (rest.take count)) count
    else if found = rest.length then .cut
    else .spoilt found

/-- Where bytes stop being text. -/
inductive Fault where
  /-- So many bytes from `index` on begin no character. -/
  | spoilt (count index : Nat)
  /-- The character that begins at `index` is cut off. -/
  | cut (index : Nat)
deriving DecidableEq

def Fault.message : Fault → String
  | spoilt count index =>
    "invalid utf-8 sequence of " ++ toString count ++ " bytes from index " ++ toString index
  | cut index => "incomplete utf-8 byte sequence from index " ++ toString index

/-- The first fault of the bytes, the first of which has the given index. -/
def faultFrom? (index : Nat) : Bytes → Option Fault
  | [] => none
  | first :: rest =>
    match lead first rest with
    | .char _ more => faultFrom? (index + 1 + more) (rest.drop more)
    | .spoilt more => some (.spoilt (more + 1) index)
    | .cut => some (.cut index)
termination_by bytes => bytes.length
decreasing_by simp only [List.length_drop, List.length_cons]; omega

def firstFault? (bytes : Bytes) : Option Fault := faultFrom? 0 bytes

def replacement : Char := '\ufffd'

/-- The text of the bytes, with a replacement character for each run of spoilt bytes. -/
def lenient : Bytes → List Char
  | [] => []
  | first :: rest =>
    match lead first rest with
    | .char c more => c :: lenient (rest.drop more)
    | .spoilt more => replacement :: lenient (rest.drop more)
    | .cut => [replacement]
termination_by bytes => bytes.length
decreasing_by all_goals simp only [List.length_drop, List.length_cons]; omega

/-- The text of the bytes, if they are one. -/
def read? (bytes : Bytes) : Option (List Char) :=
  if (firstFault? bytes).isNone then some (lenient bytes) else none

end Latchkey.Utf8
