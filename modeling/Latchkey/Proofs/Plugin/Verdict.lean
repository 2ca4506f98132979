import Latchkey.Proofs.Limit.Recorded
import Latchkey.Proofs.Plugin.InMemory
/-!
# What the limiter makes of its store's answer

Over a store in memory the limiter makes one request to the table of rates for each record that it is
shown, under the rule that counts for the record, and its decision is made from the answer alone. A record
that carries no rule which can be read and is fit for use counts under the rule of the limiter.
-/

namespace Latchkey

open Act RateTable

variable {σ : Type} {rates : Lens σ (RateTable Float)} {now : σ → Instant}

/-! ### One request under a rule -/

namespace LimitRule

def request (partition subject : String) : LimitRule → Request
  | window l => .increment partition subject l
  | bucket l => .consume partition subject l 1

def count (partition subject : String) (time : Instant) :
    LimitRule → Act (RateTable Float) Error LimitResult
  | window l => RateTable.increment partition subject l time
  | bucket l => RateTable.consume partition subject l 1 time

variable {partition subject : String} {time : Instant} {rule : LimitRule} {t : RateTable Float}

theorem act_request (rule : LimitRule) (t : RateTable Float) :
    (rule.request partition subject).act time t =
      ((rule.count partition subject time t).1.map Reply.result,
        (rule.count partition subject time t).2) := by
  have hact : (rule.request partition subject).act time =
      rule.count partition subject time >>= fun r => pure (.result r) := by
    cases rule <;> rfl
  rw [hact]
  rcases hcount : rule.count partition subject time t with ⟨e | r, t'⟩
  · rw [bind_error hcount]
    rfl
  · rw [bind_ok hcount]
    rfl

theorem subject?_request (partition subject : String) (rule : LimitRule) :
    (rule.request partition subject).subject? = some (partition, subject) := by
  cases rule <;> rfl

theorem refusal?_request (hfit : rule.fault? = none) (hpartition : ':' ∉ partition.toList)
    (subject : String) : (rule.request partition subject).refusal? = none := by
  have hkey : Request.keyFault? partition subject = none :=
    Request.keyFault?_eq_none_iff.2 (storageKey_eq_ok_iff.2 ⟨hpartition, rfl⟩)
  cases rule with
  | window l => exact Option.or_eq_none_iff.2 ⟨hfit, hkey⟩
  | bucket l =>
      exact Option.or_eq_none_iff.2 ⟨hfit, Option.or_eq_none_iff.2 ⟨costFault?_one, hkey⟩⟩

/-- A fit rule always has an answer, and what it answers for is recorded. -/
theorem count_records (hfit : rule.fault? = none) (hpartition : ':' ∉ partition.toList)
    (hearly : time ≤ .minuteBeforeLatest) (subject : String) (t : RateTable Float) :
    ∃ result t', rule.count partition subject time t = (.ok result, t') ∧
      (rule.request partition subject).Records time t (.result result) t' := by
  have hminute : (rule.request partition subject).HasMinute time t := fun _ =>
    Instant.add?_minute_isSome_iff.1 (Instant.add?_minute_isSome hearly)
  obtain ⟨reply, t', hact, hrecords⟩ :=
    act_records (refusal?_request hfit hpartition subject) hminute
  rw [act_request] at hact
  rcases hcount : rule.count partition subject time t with ⟨e | result, t₁⟩
  · rw [hcount] at hact
    cases hact
  · rw [hcount] at hact
    cases hact
    exact ⟨result, t₁, rfl, hrecords⟩

end LimitRule

namespace RateLimits

variable {limits : RateLimits σ} {request : VerifyRequest} {r : KeyRecord} {partition : String}

/-! ### From the answer to the decision -/

/-- To reject where the answer is that the request does not pass, and to fail where the store fails. -/
def verdict : Except (Failure Error) LimitResult → Except (Failure PluginError) (Option Decision)
  | .ok result => .ok (if result.success then none else some (.rejecting Reason.rateLimited))
  | .error (.error e) => .error (.error (.passedOn e))
  | .error .outOfTime => .error .outOfTime

theorem apply_eq_count (hstore : limits.store = .memory rates now) (partition subject : String)
    (rule : LimitRule) (s : σ) :
    limits.apply partition subject rule s =
      (rule.count partition subject (now s)).onPart rates s := by
  unfold apply
  rw [hstore]
  cases rule with
  | window l => exact RateStore.memory_increment_apply partition subject l s
  | bucket l => exact RateStore.memory_consume_apply partition subject l 1 s

theorem answer_eq_verdict (hstore : limits.store = .memory rates now)
    (hpartition : limits.partitionFor request = some partition) (r : KeyRecord) (s : σ) :
    let x := (limits.ruleFor r).count partition (limits.subject r) (now s) (rates.get s)
    limits.answer request r s = (verdict x.1, rates.set x.2 s) := by
  intro x
  have happly : limits.apply partition (limits.subject r) (limits.ruleFor r) s =
      (x.1, rates.set x.2 s) := apply_eq_count hstore ..
  rw [answer_of_partition hpartition]
  rcases hx : x.1 with (e | _) | result
  · rw [hx] at happly
    exact bind_error (mapError_error happly)
  · rw [hx] at happly
    exact bind_error (mapError_outOfTime happly)
  · rw [hx] at happly
    exact bind_ok (mapError_ok happly)

/-! ### The rule for a record -/

/-- The record carries a rule that can be read and is fit for use. -/
def Carries (r : KeyRecord) (rule : LimitRule) : Prop :=
  ∃ j, r.metadata.get? metadataName = some j ∧ LimitRule.ofJson? j = some rule ∧ rule.fault? = none

/-- The rule that counts for a record: the one that it carries, or else the one of the limiter. -/
structure Governs (limits : RateLimits σ) (r : KeyRecord) (rule : LimitRule) : Prop where
  carried : ∀ own, Carries r own → rule = own
  common : (∀ own, ¬Carries r own) → rule = limits.rule

theorem override?_eq_some_iff {rule : LimitRule} : override? r = some rule ↔ Carries r rule := by
  simp only [override?, Option.bind_eq_bind, Option.bind_eq_some_iff, Option.ite_none_right_eq_some,
    Option.isNone_iff_eq_none, Option.some.injEq]
  constructor
  · rintro ⟨j, hj, own, hown, hfit, rfl⟩
    exact ⟨j, hj, hown, hfit⟩
  · rintro ⟨j, hj, hown, hfit⟩
    exact ⟨j, hj, rule, hown, hfit, rfl⟩

theorem governs_ruleFor (limits : RateLimits σ) (r : KeyRecord) : limits.Governs r (limits.ruleFor r) where
  carried own h := by rw [ruleFor, override?_eq_some_iff.2 h, Option.getD_some]
  common h := by
    rw [ruleFor, Option.eq_none_iff_forall_ne_some.2 fun own hown => h own (override?_eq_some_iff.1 hown),
      Option.getD_none]

theorem ruleFor_fit (hfit : limits.rule.fault? = none) (r : KeyRecord) :
    (limits.ruleFor r).fault? = none := by
  unfold ruleFor
  cases h : override? r with
  | none => exact hfit
  | some own =>
      obtain ⟨j, -, -, hown⟩ := override?_eq_some_iff.1 h
      exact hown

end RateLimits

end Latchkey
