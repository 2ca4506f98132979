import Latchkey.Proofs.Limit.Flow
/-!
# What a bucket gives away in a run

A run starts with a full bucket, and every gap between two readings of the clock is credited to it, up
to the 366 days after which any bucket is full. A clock that goes back is not charged for it, so time
that it goes through a second time is credited a second time. The time between the earliest and the
latest reading bounds what is given away just if it bounds what is credited.
-/

namespace Latchkey

namespace Instant

/-- The milliseconds that a bucket can be credited with in a run with these readings. -/
def credited (ts : List Instant) : Nat := ((gaps ts).map (min · maxWindowMs)).sum

@[simp] theorem credited_cons_cons (t u : Instant) (ts : List Instant) :
    credited (t :: u :: ts) = min (u.millisSince t) maxWindowMs + credited (u :: ts) := rfl

theorem credited_le_sum_gaps (ts : List Instant) : credited ts ≤ (gaps ts).sum := by
  unfold credited
  induction gaps ts with
  | nil => exact Nat.le_refl 0
  | cons n ns ih =>
      simp only [List.map_cons, List.sum_cons]
      omega

/-- The milliseconds from `earliest` to `latest`, parts of one included. -/
def millisBetween (earliest latest : Instant) : Rat := ((latest.since earliest).ns : Rat) / 1000000

/-- The readings lie between two of them. -/
structure Spans (ts : List Instant) (earliest latest : Instant) : Prop where
  earliest_mem : earliest ∈ ts
  latest_mem : latest ∈ ts
  between : ∀ t ∈ ts, earliest ≤ t ∧ t ≤ latest

variable {ts : List Instant} {earliest latest : Instant}

theorem millisBetween_eq (h : earliest.inLeapSecond = false) (h' : latest.inLeapSecond = false) :
    millisBetween earliest latest = ((latest.ns - earliest.ns : Int) : Rat) / 1000000 := by
  simp [millisBetween, since, h, h']

/-- A clock that does not go back is not credited with more time than it goes through. -/
theorem Spans.credited_le (h : Spans ts earliest latest) (hordered : ts.Pairwise (· ≤ ·))
    (hleap : ∀ t ∈ ts, t.inLeapSecond = false) :
    (credited ts : Rat) ≤ millisBetween earliest latest := by
  have hlast := hleap _ h.latest_mem
  have hfirst := hleap _ h.earliest_mem
  rw [millisBetween_eq hfirst hlast, le_div_iff₀ (by norm_num)]
  cases ts with
  | nil => cases h.earliest_mem
  | cons t ts =>
      have hsum := sum_gaps_le hordered hleap (fun u hu => (h.between u hu).2) hlast
      have hle := ns_le_of_le (h.between t List.mem_cons_self).1 hfirst (hleap t List.mem_cons_self)
      have hcredited := credited_le_sum_gaps (t :: ts)
      have hint : (credited (t :: ts) : Int) * 1000000 ≤ latest.ns - earliest.ns := by omega
      exact_mod_cast hint

end Instant

namespace Bucket

open BucketLimit Instant

variable {l : BucketLimit Rat}

/-- What the requests of a run, each with its reading and its cost, take out of a bucket. -/
def taken (l : BucketLimit Rat) : Option (Bucket Rat) → List (Instant × Rat) → Rat
  | _, [] => 0
  | b, (now, cost) :: calls =>
    (if (consume b now l cost).2.success then cost else 0) +
      taken l (some (consume b now l cost).1) calls

theorem taken_cons_eq (b : Option (Bucket Rat)) (now : Instant) (cost : Rat)
    (calls : List (Instant × Rat)) :
    taken l b ((now, cost) :: calls) = refilled b now l - (consume b now l cost).1.tokens +
      taken l (some (consume b now l cost).1) calls := by
  rw [taken, consume_tokens]
  split <;> simp

theorem Within.refilled_le {b : Bucket Rat} (h : b.Within l) (hfit : l.fault? = none) (now : Instant) :
    refilled (some b) now l ≤ b.tokens + l.flow (min (now.millisSince b.lastRefillAt) maxWindowMs) := by
  rw [h.refilled_eq hfit]
  rcases Nat.le_total (now.millisSince b.lastRefillAt) maxWindowMs with hle | hle
  · rw [Nat.min_eq_left hle]
    exact min_le_left _ _
  · rw [Nat.min_eq_right hle]
    exact (min_le_right _ _).trans ((capacity_le_flow hfit).trans (le_add_of_nonneg_left h.nonneg))

theorem taken_le_of_within (hfit : l.fault? = none) {b : Bucket Rat} (hb : b.Within l)
    (calls : List (Instant × Rat)) :
    taken l (some b) calls ≤ b.tokens + l.flow (credited (b.lastRefillAt :: calls.map Prod.fst)) := by
  -- What is left in the bucket carries the bound from each request to the next.
  induction calls generalizing b with
  | nil => simpa [taken, credited] using hb.nonneg
  | cons call calls ih =>
      obtain ⟨now, cost⟩ := call
      have hrest := ih (consume_within hfit (some b) now cost)
      have hrefilled := hb.refilled_le hfit now
      rw [consume_lastRefillAt] at hrest
      rw [taken_cons_eq, List.map_cons, credited_cons_cons, flow_add]
      linarith

theorem taken_le_credited (hfit : l.fault? = none) (calls : List (Instant × Rat)) :
    taken l none calls ≤ l.capacity + l.flow (credited (calls.map Prod.fst)) := by
  cases calls with
  | nil => simpa [taken, credited] using (positive_of_fit hfit).1.le
  | cons call calls =>
      obtain ⟨now, cost⟩ := call
      have hfirst := consume_within hfit none now cost
      have hrest := taken_le_of_within hfit hfirst calls
      rw [consume_lastRefillAt] at hrest
      rw [taken_cons_eq, refilled_none, List.map_cons]
      linarith

/-! ### Taking all there is -/

/-- One token flows in every millisecond, and a bucket takes as long to fill as it may. -/
def slowest : BucketLimit Rat := ⟨31622400000, 1, 1⟩

/-- Requests for just what has been credited since the one before. -/
def drains : Instant → List Instant → List (Instant × Rat)
  | _, [] => []
  | t, u :: ts => (u, (min (u.millisSince t) maxWindowMs : Nat)) :: drains u ts

theorem slowest_fit : slowest.fault? = none := by decide +kernel

theorem slowest_flow (n : Nat) : slowest.flow n = n := by
  have hinterval : slowest.interval = 1 := by decide +kernel
  rw [flow, hinterval]
  simp [slowest]

theorem drains_fst (t : Instant) (ts : List Instant) : (drains t ts).map Prod.fst = ts := by
  induction ts generalizing t with
  | nil => rfl
  | cons u ts ih => simp [drains, ih]

theorem isCost_of_mem_drains {t : Instant} {ts : List Instant} {call : Instant × Rat}
    (h : call ∈ drains t ts) : isCost call.2 := by
  induction ts generalizing t with
  | nil => cases h
  | cons u ts ih =>
      rcases List.mem_cons.1 h with rfl | h
      · exact isCost_iff.2 (Nat.cast_nonneg _)
      · exact ih h

theorem taken_drains {b : Bucket Rat} (hb : b.tokens = 0) (ts : List Instant) :
    taken slowest (some b) (drains b.lastRefillAt ts) = credited (b.lastRefillAt :: ts) := by
  induction ts generalizing b with
  | nil => simp [drains, taken, credited]
  | cons u ts ih =>
      have hwithin : b.Within slowest := ⟨hb.ge, by rw [hb]; decide +kernel⟩
      have hrefilled : refilled (some b) u slowest =
          (min (u.millisSince b.lastRefillAt) maxWindowMs : Nat) := by
        rw [hwithin.refilled_eq slowest_fit, hb, slowest_flow, zero_add, Nat.cast_min]
        rfl
      have hsuccess : (consume (some b) u slowest
          (min (u.millisSince b.lastRefillAt) maxWindowMs : Nat)).2.success = true :=
        success_iff.2 ⟨Nat.cast_nonneg _, hrefilled.ge⟩
      have hempty : (consume (some b) u slowest
          (min (u.millisSince b.lastRefillAt) maxWindowMs : Nat)).1.tokens = 0 := by
        rw [consume_tokens, if_pos hsuccess, hrefilled, sub_self]
      have hrest := ih hempty
      rw [consume_lastRefillAt] at hrest
      rw [drains, taken, if_pos hsuccess, hrest, credited_cons_cons, Nat.cast_add]

/-- Some run with these readings takes all that is credited. -/
theorem exists_taken_eq_credited {t : Instant} (ts : List Instant) :
    ∃ calls : List (Instant × Rat), calls.map Prod.fst = t :: ts ∧ (∀ call ∈ calls, isCost call.2) ∧
      taken slowest none calls = slowest.capacity + credited (t :: ts) := by
  refine ⟨(t, slowest.capacity) :: drains t ts, by rw [List.map_cons, drains_fst], ?_, ?_⟩
  · intro call hcall
    rcases List.mem_cons.1 hcall with rfl | hcall
    · exact isCost_iff.2 (positive_of_fit slowest_fit).1.le
    · exact isCost_of_mem_drains hcall
  · have hsuccess : (consume none t slowest slowest.capacity).2.success = true :=
      success_iff.2 ⟨by decide +kernel, le_rfl⟩
    have hempty : (consume none t slowest slowest.capacity).1.tokens = 0 := by
      rw [consume_tokens, if_pos hsuccess, refilled_none, sub_self]
    have hrest := taken_drains hempty ts
    rw [consume_lastRefillAt] at hrest
    rw [taken, if_pos hsuccess, hrest]

/-- A run takes out no more than the capacity and what is credited for its readings. So the time between
the earliest and the latest of them bounds what any limit gives away just if no more is credited, and no
more is if the clock does not go back. -/
theorem taken_bounded_iff_credited_le {ts : List Instant} {earliest latest : Instant}
    (h : Spans ts earliest latest) :
    (∀ l : BucketLimit Rat, l.fault? = none → ∀ calls, calls.map Prod.fst = ts →
        taken l none calls ≤ l.capacity + l.refillTokens * credited ts / l.interval) ∧
      ((∀ l : BucketLimit Rat, l.fault? = none → ∀ calls, calls.map Prod.fst = ts →
          (∀ call ∈ calls, isCost call.2) →
          taken l none calls ≤
            l.capacity + l.refillTokens * millisBetween earliest latest / l.interval) ↔
        (credited ts : Rat) ≤ millisBetween earliest latest) ∧
      (ts.Pairwise (· ≤ ·) → (∀ t ∈ ts, t.inLeapSecond = false) →
        (credited ts : Rat) ≤ millisBetween earliest latest) := by
  have hcredited : ∀ l : BucketLimit Rat, l.fault? = none → ∀ calls, calls.map Prod.fst = ts →
      taken l none calls ≤ l.capacity + l.refillTokens * credited ts / l.interval := by
    rintro l hfit calls rfl
    rw [← flow_eq]
    exact taken_le_credited hfit calls
  refine ⟨hcredited, ⟨fun hbounded => ?_, fun hle l hfit calls hcalls _ => ?_⟩, h.credited_le⟩
  · cases ts with
    | nil => cases h.earliest_mem
    | cons t ts =>
        obtain ⟨calls, hcalls, hcosts, htaken⟩ := exists_taken_eq_credited (t := t) ts
        have hbound := hbounded slowest slowest_fit calls hcalls hcosts
        have hinterval : slowest.interval = 1 := by decide +kernel
        have hrefill : slowest.refillTokens = 1 := rfl
        rw [htaken, hinterval, hrefill, one_mul, div_one] at hbound
        exact le_of_add_le_add_left hbound
  · obtain ⟨-, hrefill, hinterval⟩ := positive_of_fit hfit
    refine (hcredited l hfit calls hcalls).trans ?_
    gcongr

/-- A second after the start of 1970. -/
def second : Instant := Instant.epoch.later (.ofSeconds 1)

theorem taken_bounded_over_a_second :
    Spans [.epoch, second] .epoch second ∧
      ∀ l : BucketLimit Rat, l.fault? = none → ∀ calls, calls.map Prod.fst = [.epoch, second] →
        (∀ call ∈ calls, isCost call.2) →
        taken l none calls ≤ l.capacity + l.refillTokens * millisBetween .epoch second / l.interval := by
  have hspans : Spans [.epoch, second] .epoch second := ⟨by decide, by decide, by decide⟩
  obtain ⟨-, hiff, hordered⟩ := taken_bounded_iff_credited_le hspans
  exact ⟨hspans, hiff.2 (hordered (by decide) (by decide))⟩

/-- A token a second, and a clock that twice goes back by one. -/
def twiceBack : List (Instant × Rat) :=
  [(second, 1), (.epoch, 1), (second, 1), (.epoch, 1), (second, 1)]

/-- The second that the clock goes through twice is credited twice, so three tokens are taken where two
are the most for one second. -/
theorem credited_twice :
    ¬∀ (l : BucketLimit Rat) (calls : List (Instant × Rat)) (earliest latest : Instant),
      l.fault? = none → Spans (calls.map Prod.fst) earliest latest →
      (∀ call ∈ calls, isCost call.2) →
      taken l none calls ≤ l.capacity + l.refillTokens * millisBetween earliest latest / l.interval := by
  intro h
  have hbound := h ⟨1, 1, 1000⟩ twiceBack .epoch second (by decide +kernel)
    ⟨by decide, by decide, by decide⟩ (by decide +kernel)
  revert hbound
  decide +kernel

end Bucket

end Latchkey
