import Latchkey.Proofs.Limit.Served
import Latchkey.Proofs.Plugin.InMemory
/-!
# What checking a bucket foretells

To check a bucket is to ask it for nothing, which always passes, so the verdict on a check says nothing
about the next request. What it says of the tokens that are left does: the next request at the same time
passes just if there is one.
-/

namespace Latchkey

open Act Binary64 BucketLimit

namespace Bucket

variable {l : BucketLimit Float} {b : Option (Bucket Float)} {now : Instant}

/-- Asked for nothing, a bucket keeps what it is refilled to. -/
theorem consume_zero (h : l.IsFit) (hb : ∀ v, b = some v → 0 ≤ v.tokens) (now : Instant) :
    (consume b now l 0).2.success = true ∧ (consume b now l 0).1.lastRefillAt = now ∧
      0 ≤ (consume b now l 0).1.tokens ∧
      value (consume b now l 0).1.tokens = value (refilled b now l) := by
  obtain ⟨hnonneg, hle⟩ := refilled_within_capacity h hb now
  have hpassed : (consume b now l 0).2.success = true := success_eq_true_iff.2 ⟨zero_le_zero, hnonneg⟩
  have htokens : (consume b now l 0).1.tokens = refilled b now l - 0 := if_pos hpassed
  have hrounds := sub_rounds zero_le_zero hnonneg (isFinite_of_le hnonneg hle h.capacity.finite)
  have hnearest := hrounds.nearest
  rw [value_zero, sub_zero] at hnearest
  rw [htokens]
  exact ⟨hpassed, rfl, hrounds.nonneg, hnearest.eq_of_isDouble (isDouble_value _)⟩

/-- A request for one token that comes right after passes just if there is one. -/
theorem success_after_zero (h : l.IsFit) (hb : ∀ v, b = some v → 0 ≤ v.tokens) (now : Instant) :
    (consume (some (consume b now l 0).1) now l 1).2.success = true ↔ 1 ≤ refilled b now l := by
  obtain ⟨hnonneg, hle⟩ := refilled_within_capacity h hb now
  obtain ⟨-, hnow, htokens, hvalue⟩ := consume_zero h hb now
  have hle' : (consume b now l 0).1.tokens ≤ l.capacity := by
    rw [le_iff htokens h.capacity.nonneg, hvalue]
    exact (le_iff hnonneg h.capacity.nonneg).1 hle
  have hone : (0 : Float) ≤ 1 := by decide +kernel
  generalize consume b now l 0 = asked at *
  obtain ⟨⟨x, t⟩, answer⟩ := asked
  obtain rfl := hnow
  obtain ⟨hrefilled, hsame⟩ := value_refilled_now h htokens hle' t
  rw [success_eq_true_iff, and_iff_right hone, le_iff hone hrefilled, hsame, hvalue,
    le_iff hone hnonneg]

/-- Some of the tokens are named as left just if there is one. -/
theorem remaining_ne_zero_iff {b : Bucket Float} (hb : 0 ≤ b.tokens) (hfinite : b.tokens.isFinite = true)
    (success : Bool) (l : BucketLimit Float) (cost : Float) :
    (b.outcome success l cost).remaining ≠ 0 ↔ 1 ≤ value b.tokens := by
  have hremaining : (b.outcome success l cost).remaining =
      UInt64.ofNat (floorWithin 0 18446744073709551615 b.tokens).toNat := rfl
  rw [hremaining, floorWithin_eq hb hfinite, ne_eq, ← UInt64.toNat_inj, UInt64.toNat_ofNat',
    UInt64.toNat_zero, ← Int.cast_one, ← Int.le_floor]
  unfold clampInt
  omega

end Bucket

namespace RateLimits

open RateTable

variable {σ : Type} {rates : Lens σ (RateTable Float)} {now : σ → Instant} {l : BucketLimit Float}
  {limits : RateLimits σ} {partition subject : String} {s : σ}

theorem check_of_consume {t' : RateTable Float} {r : LimitResult}
    (hstore : limits.store = .memory rates now) (hrule : limits.rule = .bucket l)
    (h : RateTable.consume partition subject l 0 (now s) (rates.get s) = (.ok r, t')) :
    limits.check partition subject s = (.ok r, rates.set t' s) := by
  unfold check
  rw [hstore, hrule]
  dsimp only
  rw [RateStore.memory_consume_apply, onPart_apply, h]

theorem apply_of_consume {t t' : RateTable Float} {time : Instant} {r : LimitResult}
    (hstore : limits.store = .memory rates now) (hrule : limits.rule = .bucket l) (ht : rates.get s = t)
    (htime : now s = time) (h : RateTable.consume partition subject l 1 time t = (.ok r, t')) :
    limits.apply partition subject limits.rule s = (.ok r, rates.set t' s) := by
  unfold apply
  rw [hstore, hrule]
  dsimp only
  rw [RateStore.memory_consume_apply, onPart_apply, ht, htime, h]

/-- To check a bucket always succeeds, and the next request at the same time passes just if a token is
left. So the two agree just if the bucket is refilled to one token or more. -/
theorem check_agrees_iff (hstore : limits.store = .memory rates now) (hrule : limits.rule = .bucket l)
    (hfit : l.fault? = none) (hrates : rates.Lawful) (hnow : ∀ t s, now (rates.set t s) = now s)
    (hpartition : ':' ∉ partition.toList) (hserved : (rates.get s).Served)
    (hearly : now s ≤ .minuteBeforeLatest) :
    ∃ checked s₁ applied s₂, limits.check partition subject s = (.ok checked, s₁) ∧
      limits.apply partition subject limits.rule s₁ = (.ok applied, s₂) ∧
      checked.success = true ∧ (applied.success = true ↔ checked.remaining ≠ 0) ∧
      (checked.success = applied.success ↔
        1 ≤ Bucket.refilled ((rates.get s).found (now s) (partition ++ ":" ++ subject)) (now s) l) := by
  have hkey : storageKey partition subject = .ok (partition ++ ":" ++ subject) :=
    storageKey_eq_ok_iff.2 ⟨hpartition, rfl⟩
  have hl := isFit_of_fault? hfit
  have hb : ∀ b, (rates.get s).found (now s) (partition ++ ":" ++ subject) = some b → 0 ≤ b.tokens :=
    fun _ => hserved.found_nonneg
  obtain ⟨t₁, hchecked, hfound⟩ := consume_found hfit costFault?_zero hkey hearly (rates.get s)
  obtain ⟨t₂, happlied, -⟩ := consume_found hfit costFault?_one hkey hearly t₁
  obtain ⟨hpassed, -, hnonneg, hvalue⟩ := Bucket.consume_zero hl hb (now s)
  have hafter := Bucket.success_after_zero hl hb (now s)
  obtain ⟨hfull, hcapacity⟩ := Bucket.refilled_within_capacity hl hb (now s)
  have hone : (0 : Float) ≤ 1 := by decide +kernel
  rw [hfound] at happlied
  refine ⟨_, _, _, _, check_of_consume hstore hrule hchecked,
    apply_of_consume hstore hrule (hrates.get_set t₁ s) (hnow t₁ s) happlied, hpassed, ?_, ?_⟩
  · have hfinite := isFinite_of_le hfull hcapacity hl.capacity.finite
    rw [isFinite_iff hfull, ← hvalue, ← isFinite_iff hnonneg] at hfinite
    rw [hafter, le_iff hone hfull, value_one, ← hvalue]
    exact (Bucket.remaining_ne_zero_iff hnonneg hfinite _ l 0).symm
  · rw [hpassed, ← hafter, eq_comm]

/-- A limiter on a table by itself, at a fixed time. -/
def onTable (rule : LimitRule) (time : Instant) : RateLimits (RateTable Float) :=
  ⟨.memory ⟨id, fun t _ => t⟩ fun _ => time, rule, none, .key⟩

/-- A bucket for two tokens from which one has been taken: the check and the next request agree. -/
theorem check_agrees_with_one_left :
    let l : BucketLimit Float := ⟨2, 1, 1000⟩
    let t := ((Request.consume "api" "a" l 1).act .epoch {}).2
    ∃ checked t₁ applied t₂, (onTable (.bucket l) .epoch).check "api" "a" t = (.ok checked, t₁) ∧
      (onTable (.bucket l) .epoch).apply "api" "a" (.bucket l) t₁ = (.ok applied, t₂) ∧
      checked.success = applied.success ∧ checked.remaining ≠ 0 := by
  intro l t
  obtain ⟨checked, t₁, applied, t₂, hcheck, happly, hpassed, hremaining, hagree⟩ :=
    @check_agrees_iff _ _ _ l (onTable (.bucket l) .epoch) "api" "a" t rfl rfl (by decide +kernel)
      ⟨fun _ _ => rfl, fun _ => rfl⟩ (fun _ _ => rfl) (by decide) (.request .empty .epoch _) (by decide)
  have hsame := hagree.2 (by decide +kernel)
  exact ⟨checked, t₁, applied, t₂, hcheck, happly, hsame, hremaining.1 (hsame ▸ hpassed)⟩

/-- When the only token has been taken, a check still succeeds, but the next request is denied. -/
theorem check_succeeds_on_empty :
    ¬∀ (l : BucketLimit Float) (t : RateTable Float) (time : Instant) (partition subject : String),
      l.fault? = none → t.Served → time ≤ .minuteBeforeLatest → ':' ∉ partition.toList →
      let checked := (onTable (.bucket l) time).check partition subject t
      let applied := (onTable (.bucket l) time).apply partition subject (.bucket l) checked.2
      checked.1.toOption.map (·.success) = applied.1.toOption.map (·.success) := by
  intro h
  have hsame := h ⟨1, 1, 1000⟩ ((Request.consume "api" "a" ⟨1, 1, 1000⟩ 1).act .epoch {}).2 .epoch
    "api" "a" (by decide +kernel) (.request .empty .epoch _) (by decide) (by decide)
  revert hsame
  decide +kernel

end RateLimits

end Latchkey
