import Latchkey.Proofs.Limit.Flow
/-!
# Asking a bucket

A request that has no cost or is denied takes nothing out of a bucket, but it moves the reading from
which the next gap is counted, and what is left of a millisecond before it counts no more. So it goes
unseen just if the gaps around it count as many milliseconds as the time without it, or if the bucket is
full in spite of the loss.
-/

namespace Latchkey

namespace Instant

/-- Between instants that lie whole milliseconds after the first, the gaps lose nothing. -/
theorem sum_gaps_eq {t u : Instant} {ts : List Instant}
    (hordered : (t :: (ts ++ [u])).Pairwise (· ≤ ·))
    (hleap : ∀ v ∈ t :: (ts ++ [u]), v.inLeapSecond = false)
    (hwhole : ∀ v ∈ ts, 1000000 ∣ v.ns - t.ns) : (gaps (t :: (ts ++ [u]))).sum = u.millisSince t := by
  induction ts generalizing t with
  | nil => simp
  | cons v ts ih =>
      obtain ⟨hle, hrest⟩ := List.pairwise_cons.1 hordered
      have hv := hwhole v List.mem_cons_self
      have hsum := ih hrest (fun w hw => hleap w (List.mem_cons_of_mem t hw)) fun w hw => by
        have hw := hwhole w (List.mem_cons_of_mem v hw)
        omega
      have hleap_t := hleap t List.mem_cons_self
      have hleap_v := hleap v (by simp)
      have hleap_u := hleap u (by simp)
      have htv := ns_le_of_le (hle v (by simp)) hleap_t hleap_v
      have hvu := ns_le_of_le ((List.pairwise_cons.1 hrest).1 u (by simp)) hleap_v hleap_u
      rw [List.cons_append, gaps_cons_cons, List.sum_cons, hsum, millisSince_eq hleap_t hleap_v,
        millisSince_eq hleap_v hleap_u, millisSince_eq hleap_t hleap_u]
      omega

end Instant

namespace Bucket

open BucketLimit Instant

variable {l : BucketLimit Rat} {b : Bucket Rat} {polls : List (Instant × Rat)}

/-- The bucket after the requests of a run. -/
def after (l : BucketLimit Rat) : Bucket Rat → List (Instant × Rat) → Bucket Rat
  | b, [] => b
  | b, (now, cost) :: calls => after l (consume (some b) now l cost).1 calls

/-- None of the requests takes anything out: it has no cost, or it is denied. -/
def TakeNothing (l : BucketLimit Rat) : Bucket Rat → List (Instant × Rat) → Prop
  | _, [] => True
  | b, (now, cost) :: polls =>
    (cost = 0 ∨ (consume (some b) now l cost).2.success = false) ∧
      TakeNothing l (consume (some b) now l cost).1 polls

theorem consume_tokens_of_nothing {now : Instant} {cost : Rat}
    (h : cost = 0 ∨ (consume (some b) now l cost).2.success = false) :
    (consume (some b) now l cost).1.tokens = refilled (some b) now l := by
  rw [consume_tokens]
  rcases h with rfl | hdenied
  · simp
  · rw [hdenied, if_neg Bool.false_ne_true]

theorem min_min_add {x y c : Rat} (hy : 0 ≤ y) : min (min x c + y) c = min (x + y) c := by
  rcases le_total x c with hx | hx
  · rw [min_eq_left hx]
  · rw [min_eq_right hx, min_eq_right (le_add_of_nonneg_right hy),
      min_eq_right (hx.trans (le_add_of_nonneg_right hy))]

theorem refilled_after (hfit : l.fault? = none) (hb : b.Within l) (hpolls : TakeNothing l b polls)
    (t : Instant) :
    refilled (some (after l b polls)) t l =
      min (b.tokens + l.flow (gaps (b.lastRefillAt :: (polls.map Prod.fst ++ [t]))).sum) l.capacity := by
  -- To cut at the capacity at every request or only at the last one is the same.
  induction polls generalizing b with
  | nil => simpa [after] using hb.refilled_eq hfit t
  | cons poll polls ih =>
      obtain ⟨now, cost⟩ := poll
      obtain ⟨hnothing, hpolls⟩ := hpolls
      have hrest := ih (consume_within hfit (some b) now cost) hpolls
      rw [consume_lastRefillAt, consume_tokens_of_nothing hnothing, hb.refilled_eq hfit,
        min_min_add (flow_nonneg hfit _), add_assoc, ← flow_add] at hrest
      exact hrest

/-- Two buckets let the same requests pass just if they are refilled to the same. -/
theorem success_eq_iff {b b' : Bucket Rat} (hfit : l.fault? = none) (t : Instant) :
    (∀ cost, (consume (some b) t l cost).2.success = (consume (some b') t l cost).2.success) ↔
      refilled (some b) t l = refilled (some b') t l := by
  have hnonneg := (refilled_within hfit (some b) t).1
  have hnonneg' := (refilled_within hfit (some b') t).1
  constructor
  · intro h
    refine le_antisymm ?_ ?_
    · have hpass := success_iff.2 ⟨hnonneg, le_refl (refilled (some b) t l)⟩
      rw [h] at hpass
      exact (success_iff.1 hpass).2
    · have hpass := success_iff.2 ⟨hnonneg', le_refl (refilled (some b') t l)⟩
      rw [← h] at hpass
      exact (success_iff.1 hpass).2
  · intro h cost
    rw [Bool.eq_iff_iff, success_iff, success_iff, h]

theorem min_add_flow_eq_iff (hfit : l.fault? = none) {x : Rat} {m n : Nat} :
    min (x + l.flow m) l.capacity = min (x + l.flow n) l.capacity ↔
      m = n ∨ l.capacity ≤ x + l.flow (min m n) := by
  wlog hle : m ≤ n generalizing m n
  · rw [eq_comm, this (Nat.le_of_not_le hle), Nat.min_comm, eq_comm (a := m)]
  have hflow : l.flow m ≤ l.flow n := (flow_le_flow_iff hfit).2 hle
  rw [Nat.min_eq_left hle]
  constructor
  · intro h
    rcases le_or_gt l.capacity (x + l.flow m) with hfull | hshort
    · exact .inr hfull
    · rw [min_eq_left hshort.le] at h
      have hn : l.flow n ≤ l.flow m := by
        rcases min_choice (x + l.flow n) l.capacity with hmin | hmin <;> rw [hmin] at h <;> linarith
      exact .inl (Nat.le_antisymm hle ((flow_le_flow_iff hfit).1 hn))
  · rintro (rfl | hfull)
    · rfl
    · rw [min_eq_right hfull, min_eq_right (hfull.trans (by linarith))]

/-- Requests that take nothing go unseen just if no millisecond is lost between them, or if the bucket
is full all the same. In order and away from leap seconds they never gain one, and they lose none if they
are made whole milliseconds after the last refill. -/
theorem asking_unseen_iff (hfit : l.fault? = none) (hb : b.Within l) (hpolls : TakeNothing l b polls)
    (t : Instant) :
    let counted := (gaps (b.lastRefillAt :: (polls.map Prod.fst ++ [t]))).sum
    ((∀ cost, (consume (some (after l b polls)) t l cost).2.success =
        (consume (some b) t l cost).2.success) ↔
      counted = t.millisSince b.lastRefillAt ∨
        l.capacity ≤ b.tokens + l.flow (min counted (t.millisSince b.lastRefillAt))) ∧
      ((b.lastRefillAt :: (polls.map Prod.fst ++ [t])).Pairwise (· ≤ ·) →
        (∀ u ∈ b.lastRefillAt :: (polls.map Prod.fst ++ [t]), u.inLeapSecond = false) →
        counted ≤ t.millisSince b.lastRefillAt ∧
          ((∀ u ∈ polls.map Prod.fst, 1000000 ∣ u.ns - b.lastRefillAt.ns) →
            counted = t.millisSince b.lastRefillAt)) := by
  intro counted
  constructor
  · rw [success_eq_iff hfit, refilled_after hfit hb hpolls,
      hb.refilled_eq hfit, min_add_flow_eq_iff hfit]
  · intro hordered hleap
    refine ⟨?_, sum_gaps_eq hordered hleap⟩
    have hlatest : ∀ u ∈ b.lastRefillAt :: (polls.map Prod.fst ++ [t]), u ≤ t := by
      rw [← List.cons_append] at hordered ⊢
      intro u hu
      rcases List.mem_append.1 hu with hu | hu
      · exact (List.pairwise_append.1 hordered).2.2 u hu t List.mem_cons_self
      · rw [List.mem_singleton.1 hu]
        exact Instant.le_refl t
    have hsum := sum_gaps_le hordered hleap hlatest (hleap t (by simp))
    rw [millisSince_eq (hleap _ List.mem_cons_self) (hleap t (by simp))]
    omega

/-- An empty bucket with room for five, asked twice after a second and then after another one. -/
theorem asked_on_the_second :
    let l : BucketLimit Rat := ⟨5, 1, 1000⟩
    let b : Bucket Rat := ⟨0, .epoch⟩
    let polls := [(Instant.epoch.later (.ofSeconds 1), 2), (Instant.epoch.later (.ofSeconds 1), 0)]
    b.Within l ∧ TakeNothing l b polls ∧
      ∀ cost, (consume (some (after l b polls)) (.later .epoch (.ofSeconds 2)) l cost).2.success =
        (consume (some b) (.later .epoch (.ofSeconds 2)) l cost).2.success := by
  intro l b polls
  have hb : b.Within l := ⟨by decide +kernel, by decide +kernel⟩
  have hpolls : TakeNothing l b polls := ⟨.inr (by decide +kernel), .inl rfl, trivial⟩
  obtain ⟨hunseen, hordered⟩ := asking_unseen_iff (t := .later .epoch (.ofSeconds 2))
    (by decide +kernel) hb hpolls
  exact ⟨hb, hpolls, hunseen.2 (.inl ((hordered (by decide) (by decide)).2 (by decide)))⟩

/-- A token flows in every millisecond. Asked for nothing after half of one, the bucket is still empty
when the millisecond is over. -/
theorem asking_slows_down :
    ¬∀ (l : BucketLimit Rat) (b : Bucket Rat) (t₁ t₂ : Instant) (cost₁ cost₂ : Rat),
      l.fault? = none → b.Within l → b.lastRefillAt ≤ t₁ → t₁ ≤ t₂ →
      cost₁ = 0 ∨ (consume (some b) t₁ l cost₁).2.success = false →
      (consume (some (consume (some b) t₁ l cost₁).1) t₂ l cost₂).2.success =
        (consume (some b) t₂ l cost₂).2.success := by
  intro h
  have hsame := h ⟨1, 1, 1⟩ ⟨0, .epoch⟩ (.later .epoch ⟨500000⟩) (.later .epoch ⟨1000000⟩) 0 1
    (by decide +kernel) ⟨by decide +kernel, by decide +kernel⟩ (by decide) (by decide) (.inl rfl)
  revert hsame
  decide +kernel

end Bucket

end Latchkey
