import Latchkey.Proofs.Plugin.Verdict
import Latchkey.Proofs.Service.Course
import Latchkey.Proofs.Service.World
/-!
# No metadata lifts the limit

A failing plugin lets a request pass, so a limiter that could be made to fail through what a key carries
would be no limit at all. It cannot: a request that has the required fields names a partition, or the
limiter has one of its own, and the rule that counts for a record is always a fit one, whatever JSON stands
in its metadata. Then the request is counted, and the answer decides.
-/

namespace Latchkey

open Act RateTable

variable {σ : Type} {rates : Lens σ (RateTable Float)} {now : σ → Instant}

theorem Service.hasField_of_checkFields {svc : Service σ} {request : VerifyRequest} {p : Plugin σ}
    {field : VerifyField} {s s' : σ} (h : svc.checkFields request s = (.ok (), s')) (hp : p ∈ svc.plugins)
    (hfield : field ∈ p.requiredFields) : request.hasField field = true := by
  have hdemand : (p.name, field) ∈ svc.plugins.demands :=
    List.mem_flatMap.2 ⟨p, hp, List.mem_map.2 ⟨field, hfield, rfl⟩⟩
  cases hmissing : svc.missing? request with
  | some d =>
      rw [checkFields_of_missing? hmissing] at h
      cases h
  | none => simpa using List.find?_eq_none.1 hmissing _ hdemand

namespace RateLimits

variable {limits : RateLimits σ} {svc : Service σ} {request : VerifyRequest} {s₀ s₁ s : σ}

theorem exists_partitionFor
    (h : ∀ field ∈ (Plugin.rateLimit limits).requiredFields, request.hasField field = true) :
    ∃ partition, limits.partitionFor request = some partition := by
  cases hown : limits.partition with
  | some p =>
      cases hnamed : request.partition.filter (!·.isEmpty) with
      | some named => exact ⟨named, by simp [partitionFor, hnamed]⟩
      | none => exact ⟨p, by simp [partitionFor, hnamed, hown]⟩
  | none =>
      have hgiven := h .partition (by simp [Plugin.rateLimit, Plugin.onRecordLoaded, hown])
      cases hnamed : request.partition with
      | none => simp [VerifyRequest.hasField, hnamed] at hgiven
      | some p =>
          have hp : p.isEmpty = false := by simpa [VerifyRequest.hasField, hnamed] using hgiven
          exact ⟨p, by simp [partitionFor, hnamed, hp]⟩

/-- A record that is shown to the limiter is always counted, under the rule that it carries or else the
limiter's own, and it is rejected just if the store says that the request does not pass. -/
theorem limit_always_applied (hstore : limits.store = .memory rates now)
    (hfit : limits.rule.fault? = none) (hplugin : Plugin.rateLimit limits ∈ svc.plugins)
    (hfields : svc.checkFields request s₀ = (.ok (), s₁))
    (hpartition : ∀ partition, limits.partitionFor request = some partition → ':' ∉ partition.toList)
    (r : KeyRecord) (hearly : now s ≤ .minuteBeforeLatest) :
    ∃ partition rule result t', limits.partitionFor request = some partition ∧
      limits.Governs r rule ∧ rule.fault? = none ∧
      limits.apply partition (limits.subject r) rule s = (.ok result, rates.set t' s) ∧
      (rule.request partition (limits.subject r)).Records (now s) (rates.get s) (.result result) t' ∧
      (Plugin.rateLimit limits).answer (.recordLoaded request r) s =
        (.ok (if result.success then none else some (.rejecting Reason.rateLimited)),
          rates.set t' s) := by
  obtain ⟨partition, hnamed⟩ := exists_partitionFor fun field hfield =>
    Service.hasField_of_checkFields hfields hplugin hfield
  have hrule := ruleFor_fit hfit r
  obtain ⟨result, t', hcount, hrecords⟩ := LimitRule.count_records hrule (hpartition _ hnamed) hearly
    (limits.subject r) (rates.get s)
  refine ⟨partition, limits.ruleFor r, result, t', hnamed, governs_ruleFor limits r, hrule, ?_, hrecords,
    ?_⟩
  · rw [apply_eq_count hstore, onPart_apply, hcount]
  · refine (answer_eq_verdict hstore hnamed r s).trans ?_
    rw [hcount]
    rfl

end RateLimits

namespace World

/-- One request in a second for each key. -/
def oncePerSecond : RateLimits World := ⟨.memory ratesPart World.now, .window ⟨1, 1000⟩, some "api", .key⟩

/-- A key that carries a rule for a thousand requests in no time. -/
def overreaching : KeyRecord :=
  { KeyRecord.fresh firstId "" "k" .epoch with
    metadata := .ofList [("rate_limit", .object [("algorithm", .string "fixed_window"),
      ("limit", .int 1000), ("window_ms", .int 0)])] }

/-- What there is after a request with it. -/
def askedOnce : World :=
  ((Plugin.rateLimit oncePerSecond).answer (.recordLoaded { key := "k" } overreaching) {}).2

theorem overreaching_carries_none (rule : LimitRule) : ¬RateLimits.Carries overreaching rule := by
  have hnone : (RateLimits.override? overreaching).isNone = true := by decide
  intro h
  rw [RateLimits.override?_eq_some_iff.2 h] at hnone
  cases hnone

/-- The rule that the key carries has no effect: its second request is rejected. -/
theorem rejected_despite_override :
    ((Plugin.rateLimit oncePerSecond).answer (.recordLoaded { key := "k" } overreaching) askedOnce).1 =
      .ok (some (.rejecting Reason.rateLimited)) := by
  obtain ⟨partition, rule, result, t', hpartition, hgoverns, -, -, hrecords, hanswer⟩ :=
    @RateLimits.limit_always_applied _ ratesPart World.now oncePerSecond
      (service [Plugin.rateLimit oncePerSecond] sameKey) { key := "k" } {} {} askedOnce rfl (by decide)
      List.mem_cons_self rfl (fun p hp => by cases hp; decide) overreaching (by decide)
  cases hpartition
  rw [hgoverns.common overreaching_carries_none] at hrecords
  have hdenied : result.success = false := by
    cases (show Request.Records _ _ (.increment _ _ ⟨1, 1000⟩) _ _ from hrecords) with
    | increment w hw _ =>
        rw [← hw]
        decide
  rw [hanswer, hdenied]
  rfl

end World

end Latchkey
