import Latchkey.Proofs.Limit.Bounds
import Latchkey.Proofs.Limit.Retry
import Latchkey.Redis.Server
import Latchkey.Redis.Store
/-!
# How long state is kept in Redis

In best effort the server is given each state with a lifetime, and a state that it drops too early is one
that the next request does not find. The lifetime of a bucket is the time in which all of it fills up and
more, so that it is kept until it is full. The lifetime of a window is what is left of it in whole
milliseconds, the rest of one cut off, so that it is kept to its end just if that is a whole number of
milliseconds away, or no more than the one that a lifetime has at least.
-/

namespace Latchkey

open Act Binary64

namespace Instant

variable {t u v now last : Instant} {m ms : Int}

/-- What is given so many milliseconds at `now` is not gone before `last`. -/
def KeptUntil (now : Instant) (ms : Int) (last : Instant) : Prop :=
  ∀ gone, now.add? (.ofMillis ms) = some gone → last ≤ gone

instance (now : Instant) (ms : Int) (last : Instant) : Decidable (KeptUntil now ms last) :=
  decidable_of_iff ((now.add? (.ofMillis ms)).all fun gone => last ≤ gone) <| by
    simp [KeptUntil, Option.all_eq_true]

theorem later_le_of_add? {d d' : Duration} (hd : 0 ≤ d.ns) (hle : d.ns ≤ d'.ns)
    (hv : t.add? d' = some v) : t.later d ≤ v := by
  have hshort := later_cases (t := t) hd
  have hlong := add?_cases (Int.le_trans hd hle) hv
  have hshortnanos := (t.later d).nanos_lt_two_seconds
  have hlongnanos := v.nanos_lt_two_seconds
  rw [le_def]
  simp only [nsAfterLeap, ns, inLeapSecond_iff, Bool.eq_false_iff, ne_eq] at hshort hlong
  split at hshort <;> omega

theorem keptUntil_laterMillis (hm : 0 ≤ m) (hle : m ≤ ms) : KeptUntil now ms (now.laterMillis m) := by
  intro gone hgone
  apply later_le_of_add? _ _ hgone
  · simp only [Duration.ofMillis]
    omega
  · simp only [Duration.ofMillis]
    omega

theorem keptUntil_iff (hnow : now.inLeapSecond = false) (hlast : last.inLeapSecond = false)
    (hms : 0 ≤ ms) : KeptUntil now ms last ↔ last.ns - now.ns ≤ ms * 1000000 := by
  have hlastnanos := nanos_lt_of_not_leap hlast
  have hnanos := nanos_lt_of_not_leap hnow
  cases hgone : now.add? (.ofMillis ms) with
  | none =>
      -- what goes on beyond the range of instants is kept to every one of them
      refine iff_of_true (fun gone h => by rw [hgone] at h; cases h) ?_
      have hbeyond : latest.ns < now.ns + ms * 1000000 := by
        by_contra hle
        have hsome := add?_isSome (t := now) (d := .ofMillis ms) (Int.mul_nonneg hms (by decide))
          (Int.not_lt.1 hle)
        rw [hgone] at hsome
        cases hsome
      have hlatest : latest.ns = latestSecond * 1000000000 + 999999999 := rfl
      have hle := last.le_latestSecond
      unfold ns at *
      omega
  | some gone =>
      obtain ⟨hns, hleap⟩ := (add?_eq_some_iff hnow).1 hgone
      have hkept : KeptUntil now ms last ↔ last ≤ gone := by
        refine ⟨fun h => h gone hgone, fun h gone' hgone' => ?_⟩
        rw [hgone] at hgone'
        cases hgone'
        exact h
      rw [hkept, le_iff_ns_le hlastnanos (nanos_lt_of_not_leap hleap), hns]
      simp only [Duration.ofMillis]
      omega

end Instant

open Instant

/-! ### Windows -/

namespace Window

variable {w : Window} {now : Instant}

/-- Of what is left of a window its lifetime has the whole milliseconds. -/
theorem lifeMs_cases (hnow : now.inLeapSecond = false) (hend : w.resetAt.inLeapSecond = false) :
    w.resetAt.ns - now.ns ≤ 0 ∨ w.lifeMs now = (w.resetAt.ns - now.ns) / 1000000 := by
  have hmillis : w.lifeMs now = (w.resetAt.ns - now.ns).tdiv 1000000 := by
    simp [lifeMs, Duration.millis, since, hnow, hend]
  rw [hmillis]
  rcases Int.le_total (w.resetAt.ns - now.ns) 0 with hpast | hahead
  · exact .inl hpast
  · exact .inr (Int.tdiv_eq_ediv_of_nonneg hahead)

/-- A window is kept to its end just if that is at most a millisecond away, or so many whole ones. -/
theorem keptUntil_resetAt_iff (hnow : now.inLeapSecond = false) (hend : w.resetAt.inLeapSecond = false) :
    KeptUntil now (max 1 (w.lifeMs now)) w.resetAt ↔
      w.resetAt.ns - now.ns ≤ 1000000 ∨ 1000000 ∣ w.resetAt.ns - now.ns := by
  rw [keptUntil_iff hnow hend (by omega)]
  have hlife := lifeMs_cases hnow hend
  omega

/-- A millisecond more is always enough. -/
theorem keptUntil_resetAt_of_more (hnow : now.inLeapSecond = false)
    (hend : w.resetAt.inLeapSecond = false) :
    KeptUntil now (max 1 (w.lifeMs now) + 1) w.resetAt := by
  rw [keptUntil_iff hnow hend (by omega)]
  have hlife := lifeMs_cases hnow hend
  omega

end Window

/-! ### Buckets -/

namespace BucketLimit

/-- The lifetime of a bucket is what all of it takes to flow in, and one interval. -/
theorem lifeMs_eq {α : Type} [Amount α] {l : BucketLimit α} (hfit : l.fault? = none) :
    l.lifeMs = l.millisToAccrue l.capacity + l.intervalMs.toNat := by
  obtain ⟨hcapacity, -⟩ := fault?_eq_none_iff.1 hfit
  unfold lifeMs millisToAccrue
  rw [if_pos (Bool.and_eq_true_iff.1 hcapacity).2]

theorem IsFit.millisToAccrue_le_capacity {l : BucketLimit Float} {x : Float} (h : l.IsFit) (hx : 0 ≤ x)
    (hle : x ≤ l.capacity) : l.millisToAccrue x ≤ l.millisToAccrue l.capacity := by
  have hself := le_refl_of_nonneg h.capacity.nonneg
  rcases (value_nonneg x).lt_or_eq with hpos | hzero
  · rw [h.millisToAccrue_eq hx hle hpos, h.millisToAccrue_eq h.capacity.nonneg hself h.capacity.pos]
    apply Int.ceil_le_ceil
    exact (le_iff (h.accrual_rounds hx hle).nonneg (h.accrual_rounds h.capacity.nonneg hself).nonneg).1
      (h.accrual_le hx hle)
  · rw [millisToAccrue_of_not_pos fun hlt => ((zero_lt_iff hx).1 hlt).ne hzero]
    exact h.millisToAccrue_nonneg h.capacity.nonneg hself

end BucketLimit

namespace Bucket

open BucketLimit

variable {now : Instant}

/-- What is missing in a bucket takes no longer to flow in than all of it. -/
structure InReach {α : Type} [Amount α] (b : Bucket α) (l : BucketLimit α) : Prop where
  nonneg : 0 ≤ l.millisToAccrue (l.capacity - b.tokens)
  le_capacity : l.millisToAccrue (l.capacity - b.tokens) ≤ l.millisToAccrue l.capacity

theorem InReach.keptUntil_fullAt {α : Type} [Amount α] {b : Bucket α} {l : BucketLimit α}
    (h : b.InReach l) (hfit : l.fault? = none) :
    KeptUntil b.lastRefillAt (max 1 l.lifeMs) (b.fullAt l) := by
  have hle := h.le_capacity
  apply keptUntil_laterMillis h.nonneg
  rw [lifeMs_eq hfit]
  omega

theorem not_pos_of_isNaN {x y : Float} (h : y.isNaN = true) : ¬0 < x - y := by
  have hunpack : (x - y).toModel.unpack =
      (Float.Model.pack (x.toModel.unpack.sub .binary64 y.toModel.unpack)).unpack := rfl
  change y.toModel.unpack.isNaN = true at h
  cases hy : y.toModel.unpack with
  | notANumber =>
      have hsub : x.toModel.unpack.sub .binary64 .notANumber = .notANumber := by
        cases x.toModel.unpack <;> rfl
      rw [lt_iff_unpack, hunpack, hy, hsub, unpack_pack (u := .notANumber) trivial]
      exact nofun
  | infinity s => rw [hy] at h; cases h
  | zero s => rw [hy] at h; cases h
  | finite s m e hm => rw [hy] at h; cases h

/-- What has been stored may be no number at all, and then nothing is counted as missing. -/
theorem consume_inReach {l : BucketLimit Float} (hfit : l.fault? = none) (b : Option (Bucket Float))
    (now : Instant) (cost : Float) : (consume b now l cost).1.InReach l := by
  have h := isFit_of_fault? hfit
  cases hnan : (refilled b now l).isNaN with
  | true =>
      -- no comparison holds, so that the request is denied and nothing has to flow in
      have hdenied : ¬(consume b now l cost).2.success = true := by
        intro hpassed
        obtain ⟨hcost, hle⟩ := success_eq_true_iff.1 hpassed
        rw [isNaN_of_nonneg (nonneg_of_le hcost hle)] at hnan
        cases hnan
      have hmillis : l.millisToAccrue (l.capacity - (consume b now l cost).1.tokens) = 0 := by
        rw [consume_tokens_eq, if_neg hdenied]
        exact millisToAccrue_of_not_pos (not_pos_of_isNaN hnan)
      refine ⟨hmillis.ge, ?_⟩
      rw [hmillis]
      exact h.millisToAccrue_nonneg h.capacity.nonneg (le_refl_of_nonneg h.capacity.nonneg)
  | false =>
      obtain ⟨hnonneg, hle⟩ := refilled_bounds h b now hnan
      obtain ⟨hleft, hleft'⟩ := consume_bounds h hnonneg hle cost
      have hmissing := (sub_rounds hleft hleft' h.capacity.finite).nonneg
      have hmissing' := sub_le_self_of_nonneg hleft hleft' h.capacity.finite
      exact ⟨h.millisToAccrue_nonneg hmissing hmissing', h.millisToAccrue_le_capacity hmissing hmissing'⟩

theorem Within.inReach {l : BucketLimit Rat} {b : Bucket Rat} (h : b.Within l) (hfit : l.fault? = none) :
    b.InReach l where
  nonneg := millisToAccrue_nonneg hfit _
  le_capacity := by
    have hcapacity := millisToAccrue_nonneg hfit l.capacity
    have hmax := millisToAccrue_capacity_le hfit
    obtain ⟨n, hn⟩ := Int.eq_ofNat_of_zero_le hcapacity
    have hlt : n < 9223372036854775807 := by
      unfold maxWindowMs at hmax
      omega
    rw [hn, millisToAccrue_le_iff hfit hlt]
    exact (sub_le_self _ h.nonneg).trans ((millisToAccrue_le_iff hfit hlt).1 hn.le)

end Bucket

/-! ### What is sent -/

namespace RedisStore

variable {σ : Type} {config : RedisConfig} {c : RedisConnection σ} {now : σ → Instant}
  {partition subject key : String} {s s₁ : σ}

/-- A text is sent to be kept for so many milliseconds, and then comes the answer. -/
def sending (c : RedisConnection σ) (key text : String) (ms : Int) (r : LimitResult) :
    Act σ Error LimitResult := do
  ask ("Failed to write '" ++ key ++ "'") (c.send (.set key text ms)) RedisReply.anything
  pure r

theorem keyOf_ok (key : String) : (keyOf (.ok key) : Act σ Error String) = pure key := rfl

theorem increment_sends {l : WindowLimit} {current : Option Window} (hmode : config.mode = .bestEffort)
    (hfit : l.fault? = none) (hkey : config.windowKey partition subject = .ok key)
    (hread : readState c Window.fieldNames Window.ofJson? key s = (.ok current, s₁)) :
    let w := Window.next current (now s) l
    increment config c now partition subject l s =
      sending c key w.toJson.text (max 1 (w.lifeMs (now s))) (w.outcome l) s₁ := by
  intro w
  unfold increment refuse
  rw [hfit, hkey, hmode, keyOf_ok]
  exact bind_ok hread

theorem consume_sends {l : BucketLimit Float} {cost : Float} {current : Option (Bucket Float)}
    (hmode : config.mode = .bestEffort) (hfit : l.fault? = none) (hcost : costFault? cost = none)
    (hkey : config.bucketKey partition subject = .ok key)
    (hread : readState c Bucket.fieldNames Bucket.ofJson? key s = (.ok current, s₁)) :
    let x := Bucket.consume current (now s) l cost
    consume config c now partition subject l cost s =
      sending c key x.1.toJson.text (max 1 l.lifeMs) x.2 s₁ := by
  intro x
  unfold consume refuse
  rw [hfit, hcost, hkey, hmode, keyOf_ok]
  exact bind_ok hread

/-- In best effort a bucket is always sent with a lifetime until it is full. A window is sent with one to
its end, away from leap seconds, just if the end is at most a millisecond away or so many whole ones; a
millisecond more would always do. In exact fractions the lifetimes of buckets cover no less. -/
theorem kept_until_end_iff (hmode : config.mode = .bestEffort) (s : σ) :
    (∀ partition subject key (l : WindowLimit) current s₁, l.fault? = none →
        config.windowKey partition subject = .ok key →
        readState c Window.fieldNames Window.ofJson? key s = (.ok current, s₁) →
        let w := Window.next current (now s) l
        let ms := max 1 (w.lifeMs (now s))
        increment config c now partition subject l s =
            sending c key w.toJson.text ms (w.outcome l) s₁ ∧
          ((now s).inLeapSecond = false → w.resetAt.inLeapSecond = false →
            (KeptUntil (now s) ms w.resetAt ↔ w.resetAt.ns - (now s).ns ≤ 1000000 ∨
                1000000 ∣ w.resetAt.ns - (now s).ns) ∧
              KeptUntil (now s) (ms + 1) w.resetAt)) ∧
      (∀ partition subject key (l : BucketLimit Float) cost current s₁, l.fault? = none →
        costFault? cost = none → config.bucketKey partition subject = .ok key →
        readState c Bucket.fieldNames Bucket.ofJson? key s = (.ok current, s₁) →
        let x := Bucket.consume current (now s) l cost
        let ms := max 1 l.lifeMs
        consume config c now partition subject l cost s = sending c key x.1.toJson.text ms x.2 s₁ ∧
          KeptUntil (now s) ms (x.1.fullAt l)) ∧
      ∀ (l : BucketLimit Rat) b time cost, l.fault? = none →
        KeptUntil time (max 1 l.lifeMs) ((Bucket.consume b time l cost).1.fullAt l) := by
  refine ⟨?_, ?_, ?_⟩
  · intro partition subject key l current s₁ hfit hkey hread w ms
    refine ⟨increment_sends hmode hfit hkey hread, fun hnow hend => ⟨?_, ?_⟩⟩
    · exact Window.keptUntil_resetAt_iff hnow hend
    · exact Window.keptUntil_resetAt_of_more hnow hend
  · intro partition subject key l cost current s₁ hfit hcost hkey hread x ms
    refine ⟨consume_sends hmode hfit hcost hkey hread, ?_⟩
    exact (Bucket.consume_inReach hfit current (now s) cost).keptUntil_fullAt hfit
  · intro l b time cost hfit
    exact ((Bucket.consume_within hfit b time cost).inReach hfit).keptUntil_fullAt hfit

/-- One window for one request in a second, in best effort, on a server. -/
def countOnce (s : RedisServer) : Except (Failure Error) LimitResult × RedisServer :=
  increment { mode := .bestEffort } RedisServer.connection RedisServer.now "api" "a" ⟨1, 1000⟩ s

/-- A window that is opened at the epoch for a second is sent with a second to live, and kept to its end. -/
theorem opened_window_kept :
    let w : Window := ⟨1, .later .epoch (.ofSeconds 1)⟩
    (countOnce {}).2.received.map (·.command) =
        [.get "keyward:rl:fw:api:a", .set "keyward:rl:fw:api:a" w.toJson.text 1000] ∧
      KeptUntil .epoch 1000 w.resetAt := by
  intro w
  obtain ⟨hwindows, -⟩ := @kept_until_end_iff _ { mode := .bestEffort } RedisServer.connection
    RedisServer.now rfl {}
  obtain ⟨hsent, hkept⟩ := hwindows "api" "a" "keyward:rl:fw:api:a" ⟨1, 1000⟩ none _ (by decide) rfl rfl
  constructor
  · rw [countOnce, hsent]
    decide +kernel
  · exact (hkept rfl rfl).1.2 (.inr (by decide +kernel))

/-- Half a millisecond after a window was opened for a second it is sent with 999 milliseconds to live. And
one that is opened in the leap second before midnight is sent with a millisecond instead of a second. -/
theorem window_dropped_early :
    let half := Instant.epoch.later ⟨500000⟩
    let leap : Instant := ⟨86399, 1500000000, by decide, by decide, by decide⟩
    let again : Window := ⟨2, .later .epoch (.ofSeconds 1)⟩
    let opened : Window := ⟨1, leap.later (.ofSeconds 1)⟩
    let last (s : RedisServer) : Option RedisCommand := (countOnce s).2.received.getLast?.map (·.command)
    (last { (countOnce {}).2 with now := half } =
        some (.set "keyward:rl:fw:api:a" again.toJson.text 999) ∧ ¬KeptUntil half 999 again.resetAt) ∧
      last { now := leap } = some (.set "keyward:rl:fw:api:a" opened.toJson.text 1) ∧
        ¬KeptUntil leap 1 opened.resetAt := by
  refine ⟨⟨?_, ?_⟩, ?_, ?_⟩
  all_goals decide +kernel

end RedisStore

end Latchkey
