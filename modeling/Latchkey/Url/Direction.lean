import Latchkey.Text.Printable
import Latchkey.Url.DomainCharacters
/-!
# Directions of writing in names of hosts

Most letters are written from left to right, some from right to left. If any label of a name holds
one of the latter, each label has to show its direction by its first and its last character and may
not hold letters of the other one, so that no two names look alike. The tables are of Unicode 17.
-/

namespace Latchkey.Domain

/-- The direction that a character gives to the text around it. -/
inductive Direction where
  | left
  | right
  /-- A digit that is written in this way in every direction. -/
  | digit
  /-- A digit of Arabic texts. -/
  | arabicDigit
  /-- A sign that takes the direction of what is around it. -/
  | neutral
  /-- A mark that takes the direction of the character before it. -/
  | mark
deriving DecidableEq

/-- The first and last of each run of letters that are written from right to left, in order. -/
def rightRanges : List (Nat × Nat) := [
  (0x5be, 0x5f4), (0x608, 0x608), (0x60b, 0x60b), (0x60d, 0x60d), (0x61b, 0x64a), (0x66d, 0x6d5),
  (0x6e5, 0x6e6), (0x6ee, 0x6ef), (0x6fa, 0x7f5), (0x7fa, 0x8c9), (0x2135, 0x2138),
  (0xfb20, 0xfbc2), (0xfbd3, 0xfd3b), (0xfd50, 0xfd8f), (0xfd92, 0xfdc7), (0xfdf0, 0xfdfc),
  (0xfe73, 0xfefc), (0x10800, 0x1091b), (0x10920, 0x10b35), (0x10b40, 0x10d23), (0x10d4a, 0x10d4f),
  (0x10d6f, 0x10d8f), (0x10e80, 0x10ed0), (0x10f00, 0x10ff6), (0x1e800, 0x1eebb)]

def arabicDigitRanges : List (Nat × Nat) :=
  [(0x660, 0x669), (0x66b, 0x66c), (0x10d30, 0x10d39), (0x10e60, 0x10e7e)]

/-- Digits beyond ASCII. -/
def digitRanges : List (Nat × Nat) :=
  [(0x6f0, 0x6f9), (0x102e1, 0x102fb), (0x10d40, 0x10d49)]

/-- The first and last of each run of signs beyond ASCII without a direction, in order. -/
def neutralRanges : List (Nat × Nat) := [
  (0xa1, 0xb1), (0xb6, 0xbf), (0xd7, 0xd7), (0xf7, 0xf7), (0x2b9, 0x2ba), (0x2c2, 0x2cf),
  (0x2d2, 0x2df), (0x2e5, 0x2ed), (0x2ef, 0x2ff), (0x374, 0x375), (0x387, 0x387), (0x3f6, 0x3f6),
  (0x58a, 0x58f), (0x606, 0x607), (0x609, 0x60a), (0x60c, 0x60c), (0x60e, 0x60f), (0x66a, 0x66a),
  (0x6de, 0x6de), (0x6e9, 0x6e9), (0x7f6, 0x7f9), (0x9f2, 0x9f3), (0x9fb, 0x9fb), (0xaf1, 0xaf1),
  (0xbf3, 0xbfa), (0xc78, 0xc7e), (0xe3f, 0xe3f), (0xf3a, 0xf3d), (0x1390, 0x1399),
  (0x1400, 0x1400), (0x169b, 0x169c), (0x17db, 0x17db), (0x17f0, 0x180a), (0x1940, 0x1945),
  (0x19de, 0x19ff), (0x200c, 0x208b), (0x20a0, 0x2104), (0x2108, 0x2108), (0x2114, 0x2125),
  (0x2127, 0x2129), (0x212e, 0x212e), (0x213a, 0x213a), (0x2140, 0x214d), (0x218a, 0x2335),
  (0x237b, 0x2394), (0x2396, 0x26ab), (0x26ad, 0x27ff), (0x2900, 0x2bff), (0x2ce5, 0x2cea),
  (0x2cf9, 0x2cff), (0x2e00, 0x2e9e), (0x2ea0, 0x2ef2), (0x3001, 0x3004), (0x3008, 0x3020),
  (0x3030, 0x3030), (0x3036, 0x3037), (0x303d, 0x303f), (0x30a0, 0x30a0), (0x30fb, 0x30fb),
  (0x31c0, 0x31e5), (0x4dc0, 0x4dff), (0xa490, 0xa4c6), (0xa60d, 0xa60f), (0xa673, 0xa67f),
  (0xa700, 0xa721), (0xa788, 0xa788), (0xa828, 0xa82b), (0xa838, 0xa839), (0xa874, 0xa877),
  (0xab6a, 0xab6b), (0xfbc3, 0xfbd2), (0xfd3e, 0xfd4f), (0xfd90, 0xfd91), (0xfdc8, 0xfdcf),
  (0xfdfd, 0xfe5e), (0xff5f, 0xff65), (0xffe0, 0xffee), (0x10101, 0x10101), (0x10140, 0x1018c),
  (0x10190, 0x101a0), (0x1091f, 0x1091f), (0x10b39, 0x10b3f), (0x10d6e, 0x10d6e),
  (0x10ed1, 0x10ed8), (0x11052, 0x11065), (0x11660, 0x1166c), (0x11fd5, 0x11ff1),
  (0x16fe2, 0x16fe2), (0x1cc00, 0x1cebf), (0x1d1e9, 0x1d245), (0x1d300, 0x1d356),
  (0x1d6c1, 0x1d6c1), (0x1d6db, 0x1d6db), (0x1d6fb, 0x1d6fb), (0x1d715, 0x1d715),
  (0x1d735, 0x1d735), (0x1d74f, 0x1d74f), (0x1d76f, 0x1d76f), (0x1d789, 0x1d789),
  (0x1d7a9, 0x1d7a9), (0x1d7c3, 0x1d7c3), (0x1e2ff, 0x1e2ff), (0x1eef0, 0x1f12f),
  (0x1f16d, 0x1f16f), (0x1f1ad, 0x1f1ad), (0x1f260, 0x1fbfa)]

def directionOf (c : Char) : Direction :=
  if c.toNat < 0x80 then if c.isAlpha then .left else if c.isDigit then .digit else .neutral
  else if isJoiner c then .neutral
  else if !Text.isShown c then .mark
  else if inRanges rightRanges c then .right
  else if inRanges arabicDigitRanges c then .arabicDigit
  else if inRanges digitRanges c then .digit
  else if inRanges neutralRanges c then .neutral
  else .left

/-- Whether the directions of a label's characters go together. -/
def agree (label : List Direction) : Bool :=
  let last := (label.reverse.dropWhile (· == .mark)).head?
  match label.head? with
  | none => true
  | some .left =>
    label.all [.left, .digit, .neutral, .mark].contains && last.all [.left, .digit].contains
  | some .right =>
    !label.contains .left && last.all [.right, .digit, .arabicDigit].contains
      && !(label.contains .digit && label.contains .arabicDigit)
  | some _ => false

/-- Whether the labels of a name may stand side by side. -/
def directionsFit (labels : List (List Char)) : Bool :=
  let directions := labels.map (·.map directionOf)
  let anyRight := directions.any fun label => label.contains .right || label.contains .arabicDigit
  !anyRight || directions.all agree

end Latchkey.Domain
