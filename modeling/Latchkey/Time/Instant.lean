/-!
# Instants and durations

An instant is a second counted from the start of 1970 in universal time and the nanoseconds passed
in it, kept within the years -262143 to 262142. The count of seconds knows no leap seconds, but the
last second of any minute may go on for a second more: what lies in that extra second has a
thousand million nanoseconds or more, and comes before the next second. Only the last second of the
range does not go on.

Every sum that could leave the range says so: `Instant.add?` has no value there, and `Instant.later`
stays at the last instant. A sum counts the leap second that it starts in, and no other.
-/

namespace Latchkey

/-- A signed span of time. -/
structure Duration where
  ns : Int
deriving DecidableEq

namespace Duration

def ofMillis (ms : Int) : Duration := ⟨ms * 1000000⟩

def ofSeconds (s : Int) : Duration := ⟨s * 1000000000⟩

/-- Whole milliseconds; a part of one is dropped toward zero. -/
def millis (d : Duration) : Int := d.ns.tdiv 1000000

/-- The longest span, 2^63 - 1 milliseconds; the shortest is its negative. -/
def longest : Duration := ofMillis 9223372036854775807

def shortest : Duration := ofMillis (-9223372036854775807)

/-- A span of `ms` milliseconds, if it is no longer than the longest in either direction. -/
def ofMillis? (ms : Int) : Option Duration :=
  if -9223372036854775807 ≤ ms ∧ ms ≤ 9223372036854775807 then some (ofMillis ms) else none

/-- A span of `s` seconds, if it is no longer than the longest in either direction. -/
def ofSeconds? (s : Int) : Option Duration := ofMillis? (s * 1000)

end Duration

/-- The first second of the range, the start of the year -262143. -/
def earliestSecond : Int := -8334601228800

/-- The last second of the range, the end of the year 262142. -/
def latestSecond : Int := 8210266876799

/-- The nanoseconds that a second may last: the last one of a minute has room for a leap second,
unless it is the last one of the range. -/
def secondLength (second : Int) : Nat :=
  if second % 60 = 59 ∧ second ≠ latestSecond then 2000000000 else 1000000000

theorem le_secondLength (second : Int) : 1000000000 ≤ secondLength second := by
  unfold secondLength; split <;> decide

/-- A point in universal time. -/
structure Instant where
  /-- Seconds since the start of 1970, leap seconds not counted. -/
  second : Int
  /-- Nanoseconds passed since `second` began. -/
  nanos : Nat
  earliestSecond_le : earliestSecond ≤ second
  le_latestSecond : second ≤ latestSecond
  nanos_lt : nanos < secondLength second
deriving DecidableEq

namespace Instant

@[ext] theorem ext {a b : Instant} (hs : a.second = b.second) (hn : a.nanos = b.nanos) : a = b := by
  cases a; cases b; cases hs; cases hn; rfl

instance : LE Instant := ⟨fun a b => a.second < b.second ∨ a.second = b.second ∧ a.nanos ≤ b.nanos⟩
instance : LT Instant := ⟨fun a b => a.second < b.second ∨ a.second = b.second ∧ a.nanos < b.nanos⟩

theorem le_def {a b : Instant} :
    a ≤ b ↔ a.second < b.second ∨ a.second = b.second ∧ a.nanos ≤ b.nanos := Iff.rfl

theorem lt_def {a b : Instant} :
    a < b ↔ a.second < b.second ∨ a.second = b.second ∧ a.nanos < b.nanos := Iff.rfl

instance (a b : Instant) : Decidable (a ≤ b) := decidable_of_iff' _ le_def
instance (a b : Instant) : Decidable (a < b) := decidable_of_iff' _ lt_def

theorem not_le {a b : Instant} : ¬a ≤ b ↔ b < a := by
  simp only [le_def, lt_def]; omega

/-- Whether the instant lies in a leap second. -/
def inLeapSecond (t : Instant) : Bool := 1000000000 ≤ t.nanos

/-- Nanoseconds since the start of 1970. A leap second counts on into the second after it. -/
def ns (t : Instant) : Int := t.second * 1000000000 + t.nanos

/-- The instant so many nanoseconds into a second, if there is one in range. -/
def ofSecond? (second : Int) (nanos : Nat) : Option Instant :=
  if h : earliestSecond ≤ second ∧ second ≤ latestSecond ∧ nanos < secondLength second then
    some ⟨second, nanos, h.1, h.2.1, h.2.2⟩
  else none

/-- The instant of a count of nanoseconds, if it is in range. It lies in no leap second. -/
def ofNs? (n : Int) : Option Instant := ofSecond? (n / 1000000000) (n % 1000000000).toNat

/-- The instant of a count of milliseconds, if it is in range. -/
def ofMillis? (ms : Int) : Option Instant := ofNs? (ms * 1000000)

def epoch : Instant := ⟨0, 0, by decide, by decide, by decide⟩

def earliest : Instant := ⟨earliestSecond, 0, by decide, by decide, by decide⟩

/-- The last instant of the range. -/
def latest : Instant := ⟨latestSecond, 999999999, by decide, by decide, by decide⟩

/-- Milliseconds since the start of 1970, rounded toward the past. -/
def unixMillis (t : Instant) : Int := t.second * 1000 + (t.nanos / 1000000 : Nat)

/-- The instant `d` after `t`, if it is in range. From a leap second the time until its end is
counted before the next second begins. -/
def add? (t : Instant) (d : Duration) : Option Instant :=
  let passed := t.nanos + d.ns
  if t.inLeapSecond ∧ 1000000000 ≤ passed then
    if passed < 2000000000 then ofSecond? t.second passed.toNat
    else ofNs? (t.ns + d.ns - 1000000000)
  else ofNs? (t.ns + d.ns)

def sub? (t : Instant) (d : Duration) : Option Instant := t.add? ⟨-d.ns⟩

/-- The sum, or the last instant where there is none. -/
def later (t : Instant) (d : Duration) : Instant := (t.add? d).getD latest

/-- The instant `ms` milliseconds on, or the last one. -/
def laterMillis (t : Instant) (ms : Int) : Instant := t.later (.ofMillis ms)

/-- The seconds of the day that have passed. -/
def secondOfDay (t : Instant) : Int := t.second % 86400

/-- How long `t` is after `u`; negative if it is before. A leap second that one of them lies in is
counted if the other one shows a later time of day. -/
def since (t u : Instant) : Duration :=
  let counted : Int :=
    if u.secondOfDay < t.secondOfDay ∧ u.inLeapSecond then 1000000000
    else if t.secondOfDay < u.secondOfDay ∧ t.inLeapSecond then -1000000000
    else 0
  ⟨t.ns - u.ns + counted⟩

/-- Whole milliseconds passed from `u` to `t`; none if `t` is not after `u`. -/
def millisSince (t u : Instant) : Nat := (t.since u).ns.toNat / 1000000

theorem ofSecond?_eq_some_iff {second : Int} {nanos : Nat} {t : Instant} :
    ofSecond? second nanos = some t ↔ t.second = second ∧ t.nanos = nanos := by
  constructor
  · intro h
    unfold ofSecond? at h
    split at h
    · cases h; exact ⟨rfl, rfl⟩
    · cases h
  · rintro ⟨rfl, rfl⟩
    simp [ofSecond?, t.earliestSecond_le, t.le_latestSecond, t.nanos_lt]

theorem ofNs?_eq_some_iff {n : Int} {t : Instant} :
    ofNs? n = some t ↔ t.ns = n ∧ t.inLeapSecond = false := by
  simp only [ofNs?, ofSecond?_eq_some_iff, ns, inLeapSecond, decide_eq_false_iff_not]
  omega

/-- Outside leap seconds a sum is the sum of the counts of nanoseconds. -/
theorem add?_eq_some_iff {t u : Instant} {d : Duration} (h : t.inLeapSecond = false) :
    t.add? d = some u ↔ u.ns = t.ns + d.ns ∧ u.inLeapSecond = false := by
  simp [add?, h, ofNs?_eq_some_iff]

end Instant

end Latchkey
