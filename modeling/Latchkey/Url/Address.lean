import Latchkey.Text.Hex
import Latchkey.Text.Pad
/-!
# Numeric addresses of hosts

The two kinds of addresses, as they are written anywhere, and the looser form of IPv4 addresses in
URLs: one to four numbers, also octal and hexadecimal ones, of which the last fills all the bytes
that are left.
-/

namespace Latchkey.Address

open Text

def isHexDigit (c : Char) : Bool := (Hex.digitValue? c).isSome

/-- A number of an IPv4 address: up to 255, without leading zeros. -/
def isOctet (digits : List Char) : Bool :=
  digits ≠ [] && digits.all Char.isDigit && digits.length ≤ 3 && natOfDigits digits ≤ 255
    && (digits.length == 1 || digits.head? ≠ some '0')

/-- Four numbers with points between them. -/
def isIpv4 (text : List Char) : Bool :=
  let octets := text.splitOn '.'
  octets.length == 4 && octets.all isOctet

/-- How many groups of sixteen bits a part of an IPv6 address between colons makes; only the last
may be an IPv4 address. -/
def groupSize? (isLast : Bool) (part : List Char) : Option Nat :=
  if part ≠ [] ∧ part.length ≤ 4 ∧ part.all isHexDigit then some 1
  else if isLast ∧ isIpv4 part then some 2
  else none

/-- How many groups the parts between colons make. -/
def groupCount? : List (List Char) → Option Nat
  | [] => some 0
  | part :: rest => do
    let size ← groupSize? rest.isEmpty part
    let count ← groupCount? rest
    some (size + count)

/-- How many groups a run of parts makes; an empty run makes none. -/
def runCount? (run : List Char) : Option Nat :=
  if run = [] then some 0 else groupCount? (run.splitOn ':')

/-- What comes before the first `::`, and what comes after it. -/
def splitGap? : List Char → Option (List Char × List Char)
  | ':' :: ':' :: rest => some ([], rest)
  | c :: rest => (splitGap? rest).map fun (before, after) => (c :: before, after)
  | [] => none

/-- Eight groups, or fewer with one `::` in the place of the others. -/
def isIpv6 (text : List Char) : Bool :=
  match splitGap? text with
  | none => runCount? text = some 8
  | some (before, after) =>
    match runCount? before, runCount? after with
    | some a, some b => a + b ≤ 7 && !before.contains '.'
    | _, _ => false

/-! ## IPv4 addresses in URLs -/

/-- A number as a URL may write it: `0x` for hexadecimal digits, which may be missing, `0` for
octal ones, and else decimal ones. -/
def number? (text : List Char) : Option Nat :=
  let ofDigits (base : Nat) (digits : List Char) : Option Nat :=
    digits.foldlM (fun n c => ((Hex.digitValue? c).filter (· < base)).map (base * n + ·)) 0
  match text with
  | [] => none
  | '0' :: 'x' :: digits | '0' :: 'X' :: digits => ofDigits 16 digits
  | '0' :: d :: digits => ofDigits 8 (d :: digits)
  | digits => ofDigits 10 digits

/-- The parts between points; a point at the end is dropped. -/
def numberParts (text : List Char) : List (List Char) :=
  let parts := text.splitOn '.'
  if parts.getLast? = some [] then parts.dropLast else parts

/-- Whether the last part of a name is a number, so that the whole has to be an IPv4 address. -/
def endsInNumber (text : List Char) : Bool :=
  match (numberParts text).getLast? with
  | some last => (last ≠ [] && last.all Char.isDigit) || (number? last).isSome
  | none => false

/-- Whether numbers make an IPv4 address: the last fits the bytes that the others leave. -/
def isNumericIpv4 (text : List Char) : Bool :=
  let parts := numberParts text
  match parts.mapM number? with
  | some numbers =>
    numbers.length ≤ 4 && numbers.dropLast.all (· ≤ 255)
      && numbers.getLast?.any (· < Nat.pow 256 (5 - numbers.length))
  | none => false

end Latchkey.Address
