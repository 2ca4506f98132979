import Mathlib.Tactic.Ring
import Latchkey.Proofs.Limit.Refill
/-!
# What flows into a bucket

Counted in exact fractions, a fit limit lets so much flow into a bucket as the milliseconds since the
last request are worth, and no bucket ever holds less than nothing or more than its capacity. A bucket
that nothing was taken out of for 366 days is full, so a longer gap is worth no more than that.
-/

namespace Latchkey

namespace Instant

/-- The milliseconds that count between each reading and the one before it. -/
def gaps : List Instant → List Nat
  | t :: u :: ts => u.millisSince t :: gaps (u :: ts)
  | _ => []

@[simp] theorem gaps_nil : gaps [] = [] := rfl

@[simp] theorem gaps_singleton (t : Instant) : gaps [t] = [] := rfl

@[simp] theorem gaps_cons_cons (t u : Instant) (ts : List Instant) :
    gaps (t :: u :: ts) = u.millisSince t :: gaps (u :: ts) := rfl

theorem ns_le_of_le {t u : Instant} (h : t ≤ u) (ht : t.inLeapSecond = false)
    (hu : u.inLeapSecond = false) : t.ns ≤ u.ns :=
  (le_iff_ns_le (nanos_lt_of_not_leap ht) (nanos_lt_of_not_leap hu)).1 h

/-- No gap counts that the clock has not gone through, if it does not go back. -/
theorem sum_gaps_le {t latest : Instant} {ts : List Instant} (hordered : (t :: ts).Pairwise (· ≤ ·))
    (hleap : ∀ u ∈ t :: ts, u.inLeapSecond = false) (hlatest : ∀ u ∈ t :: ts, u ≤ latest)
    (hlast : latest.inLeapSecond = false) :
    ((gaps (t :: ts)).sum : Int) * 1000000 ≤ latest.ns - t.ns := by
  induction ts generalizing t with
  | nil =>
      have hle := ns_le_of_le (hlatest t List.mem_cons_self) (hleap t List.mem_cons_self) hlast
      simp
      omega
  | cons u ts ih =>
      obtain ⟨hle, hrest⟩ := List.pairwise_cons.1 hordered
      have hsum := ih hrest (fun v hv => hleap v (List.mem_cons_of_mem t hv))
        fun v hv => hlatest v (List.mem_cons_of_mem t hv)
      have ht := hleap t List.mem_cons_self
      have hu := hleap u (List.mem_cons_of_mem t List.mem_cons_self)
      have hgap := ns_le_of_le (hle u List.mem_cons_self) ht hu
      rw [gaps_cons_cons, List.sum_cons, millisSince_eq ht hu]
      omega

end Instant

namespace BucketLimit

variable {l : BucketLimit Rat}

theorem isCost_iff {cost : Rat} : isCost cost = true ↔ 0 ≤ cost := by
  change (true && decide (0 ≤ cost)) = true ↔ 0 ≤ cost
  rw [Bool.true_and, decide_eq_true_iff]

/-- The tokens that flow in within `n` milliseconds. -/
def flow (l : BucketLimit Rat) (n : Nat) : Rat := n / l.interval * l.refillTokens

@[simp] theorem flow_zero (l : BucketLimit Rat) : l.flow 0 = 0 := by simp [flow]

theorem flow_add (l : BucketLimit Rat) (m n : Nat) : l.flow (m + n) = l.flow m + l.flow n := by
  simp only [flow, Nat.cast_add]
  ring

theorem flow_eq (l : BucketLimit Rat) (n : Nat) : l.flow n = l.refillTokens * n / l.interval := by
  simp only [flow]
  ring

theorem flow_le_flow_iff (hfit : l.fault? = none) {m n : Nat} : l.flow m ≤ l.flow n ↔ m ≤ n := by
  obtain ⟨-, hrefill, hinterval⟩ := positive_of_fit hfit
  rw [flow, flow, mul_le_mul_iff_of_pos_right hrefill, div_le_div_iff_of_pos_right hinterval,
    Nat.cast_le]

theorem flow_nonneg (hfit : l.fault? = none) (n : Nat) : 0 ≤ l.flow n := by
  rw [← flow_zero l]
  exact (flow_le_flow_iff hfit).2 (Nat.zero_le n)

theorem millisToAccrue_capacity_le (hfit : l.fault? = none) :
    l.millisToAccrue l.capacity ≤ maxWindowMs := by
  obtain ⟨-, -, -, -, haccrue⟩ := fault?_eq_none_iff.1 hfit
  exact haccrue

/-- An empty bucket is full after the longest time that a limit may take for it. -/
theorem capacity_le_flow (hfit : l.fault? = none) : l.capacity ≤ l.flow maxWindowMs :=
  (millisToAccrue_le_iff hfit (by decide)).1 (millisToAccrue_capacity_le hfit)

end BucketLimit

namespace Bucket

open BucketLimit

variable {l : BucketLimit Rat} {b : Bucket Rat} {now : Instant} {cost : Rat}

/-- The bucket holds something from nothing to the capacity. -/
structure Within (b : Bucket Rat) (l : BucketLimit Rat) : Prop where
  nonneg : 0 ≤ b.tokens
  le_capacity : b.tokens ≤ l.capacity

theorem clampAmount_of_nonneg {high x : Rat} (hx : 0 ≤ x) : clampAmount 0 high x = min x high := by
  rw [clampAmount_eq, if_neg (not_lt.2 hx), min_def]
  split_ifs <;> grind

theorem clampAmount_bounds {high : Rat} (hhigh : 0 ≤ high) (x : Rat) :
    0 ≤ clampAmount 0 high x ∧ clampAmount 0 high x ≤ high := by
  rcases lt_or_ge x 0 with hx | hx
  · rw [clampAmount_eq, if_pos hx]
    exact ⟨le_rfl, hhigh⟩
  · rw [clampAmount_of_nonneg hx]
    exact ⟨le_min hx hhigh, min_le_right _ _⟩

theorem Within.refilled_eq (h : b.Within l) (hfit : l.fault? = none) (now : Instant) :
    refilled (some b) now l = min (b.tokens + l.flow (now.millisSince b.lastRefillAt)) l.capacity := by
  rw [refilled_some]
  exact clampAmount_of_nonneg (add_nonneg h.nonneg (flow_nonneg hfit _))

theorem refilled_none (now : Instant) (l : BucketLimit Rat) : refilled none now l = l.capacity := rfl

theorem refilled_within (hfit : l.fault? = none) (b : Option (Bucket Rat)) (now : Instant) :
    0 ≤ refilled b now l ∧ refilled b now l ≤ l.capacity := by
  have hcapacity := (positive_of_fit hfit).1.le
  cases b with
  | none => exact ⟨hcapacity, le_rfl⟩
  | some b =>
      rw [refilled_some]
      exact clampAmount_bounds hcapacity _

theorem success_iff {b : Option (Bucket Rat)} :
    (consume b now l cost).2.success = true ↔ 0 ≤ cost ∧ cost ≤ refilled b now l := by
  change (decide (0 ≤ cost) && decide (cost ≤ refilled b now l)) = true ↔ _
  rw [Bool.and_eq_true, decide_eq_true_iff, decide_eq_true_iff]

@[simp] theorem consume_lastRefillAt (b : Option (Bucket Rat)) :
    (consume b now l cost).1.lastRefillAt = now := rfl

theorem consume_tokens (b : Option (Bucket Rat)) :
    (consume b now l cost).1.tokens =
      if (consume b now l cost).2.success then refilled b now l - cost else refilled b now l := rfl

theorem consume_within (hfit : l.fault? = none) (b : Option (Bucket Rat)) (now : Instant) (cost : Rat) :
    (consume b now l cost).1.Within l := by
  obtain ⟨hnonneg, hle⟩ := refilled_within hfit b now
  constructor
  · rw [consume_tokens]
    split
    · exact sub_nonneg.2 (success_iff.1 ‹_›).2
    · exact hnonneg
  · rw [consume_tokens]
    split
    · exact (sub_le_self _ (success_iff.1 ‹_›).1).trans hle
    · exact hle

end Bucket

end Latchkey
