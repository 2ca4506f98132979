import Latchkey.Plugin.BuiltIn
import Latchkey.Proofs.Limit.Memory
import Latchkey.Proofs.Plugin.Pipeline
/-!
# The rate limiter on windows in memory

What the plugin does to the window of one partition and key: a request in that partition with that key
is counted in it and let pass if the count is within the limit, and every other request leaves it
alone. A request in a partition that contains a colon fails without a trace, and a plugin that fails
does not reject.
-/

namespace Latchkey

open Act

variable {σ : Type}

/-- A limiter with a window rule for each key, counting in memory by the given clock. -/
def RateLimits.windowed (rates : Lens σ (RateTable Float)) (now : σ → Instant) (l : WindowLimit)
    (fallback : Option String) : RateLimits σ :=
  ⟨.memory rates now, .window l, fallback, .key⟩

/-- The window kept under a storage key. -/
def windowAt (rates : Lens σ (RateTable Float)) (key : String) (s : σ) : Option Window :=
  (rates.get s).windows.get? key

/-- The time, and the window kept under a storage key. -/
def clockAndWindow (rates : Lens σ (RateTable Float)) (now : σ → Instant) (key : String) (s : σ) :
    Instant × Option Window :=
  (now s, windowAt rates key s)

namespace RateLimits

variable {rates : Lens σ (RateTable Float)} {now : σ → Instant} {l : WindowLimit}
  {fallback : Option String} {request : VerifyRequest} {r : KeyRecord} {name : String} {s : σ}
  (hl : rates.Lawful) (hnow : ∀ t s, now (rates.set t s) = now s)

include hnow in
theorem windowed_keeps_now : ((windowed rates now l fallback).answer request r).Keeps now := by
  unfold answer
  split
  · exact Within.fail _
  · refine Within.then_pure (Within.mapError _ ?_) _
    unfold apply windowed
    split
    · exact Within.bind (Within.read _) fun _ => Keeps.onPart hnow _
    · exact Within.bind (Within.read _) fun _ => Keeps.onPart hnow _

theorem answer_of_partition {limits : RateLimits σ} (h : limits.partitionFor request = some name) :
    limits.answer request r =
      (limits.apply name (limits.subject r) (limits.ruleFor r)).mapError .passedOn >>= fun result =>
        pure (if result.success then none else some (.rejecting Reason.rateLimited)) := by
  unfold answer
  rw [h]

theorem windowed_apply_window (subject : String) (l' : WindowLimit) :
    (windowed rates now l fallback).apply name subject (.window l') s =
      (RateTable.increment name subject l' (now s)).onPart rates s :=
  bind_ok (read_apply now s)

theorem windowed_apply_bucket (subject : String) (b : BucketLimit Float) :
    (windowed rates now l fallback).apply name subject (.bucket b) s =
      (RateTable.consume name subject b 1 (now s)).onPart rates s :=
  bind_ok (read_apply now s)

include hl

theorem windowAt_set (key : String) (t : RateTable Float) :
    windowAt rates key (rates.set t s) = t.windows.get? key := by
  unfold windowAt
  rw [hl.get_set]

include hnow in
/-- A request in another partition or with another key. -/
theorem windowed_idle {subject : String} (hname : ':' ∉ name.toList)
    (hother : (windowed rates now l fallback).partitionFor request = some name →
      r.id.text ≠ subject) :
    ((windowed rates now l fallback).answer request r).Within
      (clockAndWindow rates now (name ++ ":" ++ subject)) Window.Idle := by
  cases hp : (windowed rates now l fallback).partitionFor request with
  | none =>
      unfold answer
      rw [hp]
      exact Within.fail _
  | some p =>
      have hkey : storageKey p r.id.text ≠ .ok (name ++ ":" ++ subject) := by
        intro hkey
        obtain ⟨hcolon, he⟩ := storageKey_eq_ok_iff.1 hkey
        obtain ⟨rfl, hsubject⟩ := storageKey_inj hname hcolon he
        exact hother hp hsubject.symm
      have hpart : ∀ {t : RateTable Float} {s : σ}, Window.LeftAlone (now s)
          (windowAt rates (name ++ ":" ++ subject) s) (t.windows.get? (name ++ ":" ++ subject)) →
          Window.Idle (clockAndWindow rates now (name ++ ":" ++ subject) s)
            (clockAndWindow rates now (name ++ ":" ++ subject) (rates.set t s)) := by
        intro t s ht
        unfold clockAndWindow
        rw [windowAt_set hl, hnow]
        exact ⟨Instant.le_refl _, ht⟩
      rw [answer_of_partition hp]
      refine Within.then_pure (Within.mapError _ fun s => ?_) _
      -- The rule may be one that the record carries, and even one for a bucket.
      cases (windowed rates now l fallback).ruleFor r with
      | window l' =>
          rw [windowed_apply_window, onPart_apply]
          exact hpart (RateTable.increment_within hkey (rates.get s))
      | bucket b =>
          rw [windowed_apply_bucket, onPart_apply]
          exact hpart (RateTable.consume_within (rates.get s))

include hnow in
/-- A request in the partition with the key. -/
theorem windowed_counts (hname : ':' ∉ name.toList) (hfit : l.fault? = none)
    (hpartition : (windowed rates now l fallback).partitionFor request = some name)
    (hplain : override? r = none) :
    (∃ s', (windowed rates now l fallback).answer request r s = (.error .outOfTime, s') ∧
        Window.Idle (clockAndWindow rates now (name ++ ":" ++ r.id.text) s)
          (clockAndWindow rates now (name ++ ":" ++ r.id.text) s')) ∨
      ∃ s' w, Window.next (windowAt rates (name ++ ":" ++ r.id.text) s) (now s) l = w ∧
        (windowed rates now l fallback).answer request r s =
          (.ok (if w.count ≤ l.limit then none else some (.rejecting Reason.rateLimited)), s') ∧
        clockAndWindow rates now (name ++ ":" ++ r.id.text) s' = (now s, some w) := by
  have hkey : storageKey name r.id.text = .ok (name ++ ":" ++ r.id.text) :=
    storageKey_eq_ok_iff.2 ⟨hname, rfl⟩
  have hrule : (windowed rates now l fallback).ruleFor r = .window l := by
    unfold ruleFor
    rw [hplain]
    rfl
  have happly : ∀ {result t}, RateTable.increment name r.id.text l (now s) (rates.get s) =
      (result, t) → (windowed rates now l fallback).apply name r.id.text (.window l) s =
        (result, rates.set t s) := by
    intro result t ht
    rw [windowed_apply_window, onPart_apply, ht]
  have hview : ∀ t : RateTable Float, clockAndWindow rates now (name ++ ":" ++ r.id.text)
      (rates.set t s) = (now s, t.windows.get? (name ++ ":" ++ r.id.text)) := by
    intro t
    unfold clockAndWindow
    rw [hnow, windowAt_set hl]
  rw [answer_of_partition hpartition, hrule]
  rcases RateTable.increment_cases (now s) hfit hkey (rates.get s) with
    ⟨t, ht, hleft⟩ | ⟨t, ht, hcounted⟩
  · left
    refine ⟨_, bind_error (mapError_outOfTime (happly ht)), ?_⟩
    rw [hview]
    exact ⟨Instant.le_refl _, hleft⟩
  · right
    refine ⟨rates.set t s, _, rfl, ?_, ?_⟩
    · refine (bind_ok (mapError_ok (happly ht))).trans ?_
      simp only [Window.outcome, decide_eq_true_eq]
      rfl
    · rw [hview, hcounted]
      rfl

theorem windowed_fails (hname : ':' ∈ name.toList)
    (hpartition : (windowed rates now l fallback).partitionFor request = some name) :
    ∃ e, (windowed rates now l fallback).answer request r s = (.error (.error e), s) := by
  have hfault := storageKey_of_colon r.id.text hname
  rw [answer_of_partition hpartition]
  have hfail : ∀ rule, ∃ e, (windowed rates now l fallback).apply name r.id.text rule s =
      (.error (.error e), s) := by
    intro rule
    cases rule with
    | window l' =>
        obtain ⟨e, he⟩ := RateTable.increment_of_fault l' (now s) (rates.get s) hfault
        rw [windowed_apply_window]
        exact ⟨e, onPart_eq_of_unchanged hl he⟩
    | bucket b =>
        obtain ⟨e, he⟩ := RateTable.consume_of_fault b 1 (now s) (rates.get s) hfault
        rw [windowed_apply_bucket]
        exact ⟨e, onPart_eq_of_unchanged hl he⟩
  obtain ⟨e, he⟩ := hfail ((windowed rates now l fallback).ruleFor r)
  exact ⟨.passedOn e, bind_error (mapError_error he)⟩

end RateLimits

end Latchkey
