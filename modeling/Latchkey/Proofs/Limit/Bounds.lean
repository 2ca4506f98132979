import Latchkey.Proofs.Limit.Flow
import Latchkey.Proofs.Limit.Reached
/-!
# Bounds on buckets

Counted in exact fractions, a request leaves between nothing and the capacity in a bucket, whatever was
in it before, and the time that it names is neither in the past nor more than 366 days away. What passes
also passes at a lower cost, and also later, unless a leap second comes in: the time passed since the last
request may count less when the leap second is over than within it.
-/

namespace Latchkey

namespace Instant

variable {t u v : Instant}

theorem millisSince_mono (h : u ≤ v) (ht : t.inLeapSecond = false) (hu : u.inLeapSecond = false)
    (hv : v.inLeapSecond = false) : u.millisSince t ≤ v.millisSince t := by
  have hns := ns_le_of_le h hu hv
  rw [millisSince_eq ht hu, millisSince_eq ht hv]
  omega

end Instant

namespace BucketLimit

variable {l : BucketLimit Rat}

/-- No more than the capacity takes longer to flow in than a limit may take. -/
theorem millisToAccrue_le (hfit : l.fault? = none) {tokens : Rat} (h : tokens ≤ l.capacity) :
    l.millisToAccrue tokens ≤ maxWindowMs :=
  (millisToAccrue_le_iff hfit (by decide)).2 (h.trans (capacity_le_flow hfit))

end BucketLimit

namespace Bucket

open BucketLimit

variable {l : BucketLimit Rat} {b : Option (Bucket Rat)} {now later : Instant} {cost cost' : Rat}

theorem clampAmount_mono {high x y : Rat} (hhigh : 0 ≤ high) (h : x ≤ y) :
    clampAmount 0 high x ≤ clampAmount 0 high y := by
  rcases lt_or_ge x 0 with hx | hx
  · rw [clampAmount_eq high x, if_pos hx]
    exact (clampAmount_bounds hhigh y).1
  · rw [clampAmount_of_nonneg hx, clampAmount_of_nonneg (hx.trans h)]
    exact min_le_min_right _ h

/-- Neither the readings nor the last refill lie in a leap second. -/
def OutOfLeap (b : Option (Bucket Rat)) (now later : Instant) : Prop :=
  ∀ v, b = some v → v.lastRefillAt.inLeapSecond = false ∧ now.inLeapSecond = false ∧
    later.inLeapSecond = false

theorem refilled_mono (hfit : l.fault? = none) (h : now ≤ later) (hleap : OutOfLeap b now later) :
    refilled b now l ≤ refilled b later l := by
  cases b with
  | none => exact le_rfl
  | some v =>
      obtain ⟨hv, hnow, hlater⟩ := hleap v rfl
      rw [refilled_some, refilled_some]
      refine clampAmount_mono (positive_of_fit hfit).1.le (add_le_add_right ?_ _)
      exact (flow_le_flow_iff hfit).2 (Instant.millisSince_mono h hv hnow hlater)

theorem success_of_cheaper (hcost : 0 ≤ cost') (h : cost' ≤ cost)
    (hpassed : (consume b now l cost).2.success = true) :
    (consume b now l cost').2.success = true :=
  success_iff.2 ⟨hcost, h.trans (success_iff.1 hpassed).2⟩

theorem success_of_later (hfit : l.fault? = none) (h : now ≤ later) (hleap : OutOfLeap b now later)
    (hpassed : (consume b now l cost).2.success = true) :
    (consume b later l cost).2.success = true := by
  obtain ⟨hcost, hle⟩ := success_iff.1 hpassed
  exact success_iff.2 ⟨hcost, hle.trans (refilled_mono hfit h hleap)⟩

theorem recovery_nonneg (hfit : l.fault? = none) (b : Bucket Rat) (success : Bool) (cost : Rat) :
    0 ≤ b.recovery success l cost := by
  unfold recovery
  split <;> exact millisToAccrue_nonneg hfit _

theorem Within.recovery_le {b : Bucket Rat} (h : b.Within l) (hfit : l.fault? = none)
    (hcost : cost ≤ l.capacity) (success : Bool) : b.recovery success l cost ≤ maxWindowMs := by
  have hnonneg := h.nonneg
  unfold recovery
  split <;> exact millisToAccrue_le hfit (by linarith)

theorem toNat_ofNat_floorWithin (x : Rat) :
    ((UInt64.ofNat (Amount.floorWithin 0 18446744073709551615 x).toNat).toNat : Int) =
      max 0 (min x.floor (UInt64.size - 1)) := by
  have hsize : UInt64.size = 18446744073709551616 := rfl
  have hclamp : Amount.floorWithin 0 18446744073709551615 x =
      clampInt 0 18446744073709551615 x.floor := rfl
  rw [hclamp, UInt64.toNat_ofNat', hsize]
  unfold clampInt
  omega

/-- What a request makes of a bucket and what it answers, whatever was there before. -/
structure Bounded (b : Option (Bucket Rat)) (now : Instant) (l : BucketLimit Rat) (cost : Rat) :
    Prop where
  within : (consume b now l cost).1.Within l
  lastRefillAt : (consume b now l cost).1.lastRefillAt = now
  of_denied : (consume b now l cost).2.success = false →
    (consume b now l cost).1.tokens = refilled b now l
  of_passed : (consume b now l cost).2.success = true →
    (consume b now l cost).1.tokens = refilled b now l - cost
  remaining : ((consume b now l cost).2.remaining.toNat : Int) =
    min (consume b now l cost).1.tokens.floor (UInt64.size - 1)
  le_resetAt : now ≤ (consume b now l cost).2.resetAt
  resetAt_le : cost ≤ l.capacity →
    (consume b now l cost).2.resetAt ≤ now.laterMillis maxWindowMs

theorem consume_bounded (hfit : l.fault? = none) (b : Option (Bucket Rat)) (now : Instant)
    (cost : Rat) : Bounded b now l cost := by
  have hwithin := consume_within hfit b now cost
  have hresetAt : (consume b now l cost).2.resetAt =
      now.laterMillis ((consume b now l cost).1.recovery (consume b now l cost).2.success l cost) := rfl
  have hrecovery := recovery_nonneg hfit (consume b now l cost).1 (consume b now l cost).2.success cost
  have hns : ∀ m, 0 ≤ m → 0 ≤ (Duration.ofMillis m).ns := fun m hm => by
    unfold Duration.ofMillis
    dsimp only
    omega
  refine ⟨hwithin, rfl, fun hdenied => ?_, fun hpassed => ?_, ?_, ?_, fun hcost => ?_⟩
  · rw [consume_tokens, hdenied, if_neg Bool.false_ne_true]
  · rw [consume_tokens, if_pos hpassed]
  · have hfloor : 0 ≤ (consume b now l cost).1.tokens.floor := Rat.le_floor_iff.2 hwithin.nonneg
    have hremaining := toNat_ofNat_floorWithin (consume b now l cost).1.tokens
    have hsize : UInt64.size = 18446744073709551616 := rfl
    change ((consume b now l cost).2.remaining.toNat : Int) = _ at hremaining
    omega
  · rw [hresetAt]
    exact Instant.le_later (hns _ hrecovery)
  · rw [hresetAt]
    refine Instant.later_mono (hns _ hrecovery) ?_
    have hle := hwithin.recovery_le hfit hcost (consume b now l cost).2.success
    unfold Duration.ofMillis
    dsimp only
    omega

theorem within_of_reached {t : RateTable Rat} {written : String → Option (BucketLimit Rat)}
    (h : t.Reached written) {key : String} {v : StoredBucket Rat} (hv : t.buckets.get? key = some v) :
    ∃ l, written key = some l ∧ l.fault? = none ∧ v.bucket.Within l :=
  h.invariant (P := fun l b => b.Within l)
    (fun hfit _ b now _ => consume_within hfit b now _) hv

/-- A request under a fit limit keeps to its bounds, whatever was there before, and if it passes, so does
one that costs less, and so does the same one later, leap seconds aside. So all buckets of a table that
requests lead to are within the limit that wrote them last. -/
theorem requests_keep_bounds :
    (∀ (l : BucketLimit Rat) (b : Option (Bucket Rat)) (now : Instant) (cost : Rat), l.fault? = none →
      Bounded b now l cost ∧
        ((consume b now l cost).2.success = true →
          (∀ cost', 0 ≤ cost' → cost' ≤ cost → (consume b now l cost').2.success = true) ∧
            ∀ later, now ≤ later → OutOfLeap b now later →
              (consume b later l cost).2.success = true)) ∧
      ∀ (t : RateTable Rat) (written : String → Option (BucketLimit Rat)), t.Reached written →
        ∀ (key : String) (v : StoredBucket Rat), t.buckets.get? key = some v →
          ∃ l, written key = some l ∧ l.fault? = none ∧ v.bucket.Within l := by
  refine ⟨fun l b now cost hfit => ⟨consume_bounded hfit b now cost, fun hpassed => ⟨?_, ?_⟩⟩, ?_⟩
  · exact fun cost' hcost' h => success_of_cheaper hcost' h hpassed
  · exact fun later h hleap => success_of_later hfit h hleap hpassed
  · exact fun t written h key v hv => within_of_reached h hv

/-- A bucket that owes seven tokens and that a minute has filled, asked for twenty, and the bucket that is
stored when half a token is taken from one not seen before. -/
theorem requests_keep_bounds_after_minute :
    let l : BucketLimit Rat := ⟨100, 1, 1000⟩
    let b : Option (Bucket Rat) := some ⟨-7, .epoch⟩
    let minute := Instant.epoch.later (.ofSeconds 60)
    let t := (RateTable.consumeFit "api" "a" l (1 / 2) .epoch {}).2
    Bounded b minute l 20 ∧ (consume b minute l 20).2.success = true ∧
      (consume b (minute.later (.ofSeconds 1)) l 20).2.success = true ∧
      ∃ v, t.buckets.get? "api:a" = some v ∧ v.bucket.tokens = 199 / 2 ∧ v.bucket.Within l := by
  intro l b minute t
  have hfit : l.fault? = none := by decide +kernel
  have hpassed : (consume b minute l 20).2.success = true := by decide +kernel
  obtain ⟨hbounded, hmore⟩ := requests_keep_bounds.1 l b minute 20 hfit
  have hleap : OutOfLeap b minute (minute.later (.ofSeconds 1)) := fun v hv => by
    obtain rfl := Option.some.inj hv
    decide
  obtain ⟨r, hr⟩ : ∃ r, (RateTable.consumeFit "api" "a" l (1 / 2) .epoch {}) = (.ok r, t) := ⟨_, rfl⟩
  have hreached : t.Reached (Function.update (fun _ => none) "api:a" (some l)) :=
    .consume .empty hfit (by decide +kernel) (by decide +kernel) hr
  refine ⟨hbounded, hpassed, (hmore hpassed).2 _ (by decide) hleap, ?_⟩
  obtain ⟨l', hl', -, hwithin⟩ := requests_keep_bounds.2 t _ hreached "api:a" _ rfl
  rw [Function.update_self] at hl'
  cases hl'
  exact ⟨_, rfl, by decide +kernel, hwithin⟩

/-- One token flows in every second. In the leap second that ends the first minute of 1970 more time
counts than when it is over; seen from a leap second, less time counts after midnight than before; and in
the leap second before noon less counts than just before it. -/
theorem leap_seconds_break_bounds :
    let l : BucketLimit Rat := ⟨100000, 1, 1000⟩
    let moment (second : Int) (nanos : Nat) : Instant := (Instant.ofSecond? second nanos).getD .epoch
    let passes (cost : Rat) (last now : Instant) : Bool :=
      (consume (some ⟨0, last⟩) now l cost).2.success
    l.fault? = none ∧
      (moment 59 1500000000 ≤ moment 60 0 ∧ passes (121 / 2) .epoch (moment 59 1500000000) = true ∧
        passes (121 / 2) .epoch (moment 60 0) = false) ∧
      (moment 86399 900000000 ≤ moment 86400 0 ∧
        passes 43200 (moment 43199 1500000000) (moment 86399 900000000) = true ∧
        passes 43200 (moment 43199 1500000000) (moment 86400 0) = false) ∧
      moment 129599 900000000 ≤ moment 129599 1500000000 ∧
        passes (863999 / 10) (moment 43200 0) (moment 129599 900000000) = true ∧
        passes (863999 / 10) (moment 43200 0) (moment 129599 1500000000) = false := by
  intro l moment passes
  refine ⟨by decide +kernel, ⟨by decide, ?_, ?_⟩, ⟨by decide, ?_, ?_⟩, by decide, ?_, ?_⟩
  all_goals decide +kernel

end Bucket

end Latchkey
