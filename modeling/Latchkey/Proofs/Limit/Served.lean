import Latchkey.Proofs.Limit.Doubles
import Latchkey.Proofs.Limit.Footprint
import Latchkey.Proofs.Limit.Reached
/-!
# Buckets of a table that serves requests

Whatever has been asked of a table and whatever the clock has shown, no bucket in it holds less than
nothing. A request finds what its own pruning leaves of the bucket, refilled to the time of the request.
-/

namespace Latchkey

open Act

theorem costFault?_zero : costFault? 0 = none := by decide +kernel

theorem costFault?_one : costFault? 1 = none := by decide +kernel

theorem isCost_of_costFault? {cost : Float} (h : costFault? cost = none) :
    BucketLimit.isCost cost = true := by
  unfold costFault? at h
  split at h
  · assumption
  · cases h

namespace RateTable

variable {t : RateTable Float} {now : Instant} {partition subject key : String}
  {l : BucketLimit Float}

/-- The tables that requests lead to from the empty one, in any order and whatever the clock shows. -/
inductive Served : RateTable Float → Prop where
  | empty : Served {}
  | request {t : RateTable Float} (h : Served t) (now : Instant) (q : Request) : Served (q.act now t).2

theorem snd_then_pure {σ ε α β : Type} (x : Act σ ε α) (f : α → β) (s : σ) :
    ((x >>= fun a => pure (f a)) s).2 = (x s).2 := by
  rcases hx : x s with ⟨r, s'⟩
  cases r with
  | ok a =>
      rw [bind_ok hx]
      rfl
  | error e => rw [bind_error hx]

theorem exists_reached_consume {written : String → Option (BucketLimit Float)} (h : Reached t written)
    (partition subject : String) (l : BucketLimit Float) (cost : Float) (now : Instant) :
    ∃ written', Reached (consume partition subject l cost now t).2 written' := by
  cases hfit : l.fault? with
  | some f =>
      refine ⟨written, ?_⟩
      unfold consume refuse
      rw [hfit]
      exact h
  | none =>
      cases hcost : costFault? cost with
      | some f =>
          refine ⟨written, ?_⟩
          unfold consume refuse
          rw [hfit, hcost]
          exact h
      | none =>
          rw [consume_of_fit hfit hcost]
          rcases hanswer : consumeFit partition subject l cost now t with ⟨r, t'⟩
          cases r with
          | error e => exact ⟨written, h.consume_error hanswer⟩
          | ok r =>
              cases hkey : storageKey partition subject with
              | ok key => exact ⟨_, h.consume hfit (isCost_of_costFault? hcost) hkey hanswer⟩
              | error f =>
                  unfold consumeFit storageKeyOf at hanswer
                  rw [hkey] at hanswer
                  cases hanswer

theorem Served.reached (h : Served t) : ∃ written, Reached t written := by
  induction h with
  | empty => exact ⟨_, .empty⟩
  | request h now q ih =>
      obtain ⟨written, hreached⟩ := ih
      cases q with
      | increment p x l => exact ⟨written, (snd_then_pure ..).symm ▸ hreached.increment p x l now⟩
      | check p x l => exact ⟨written, (snd_then_pure ..).symm ▸ hreached.check p x l now⟩
      | consume p x l cost =>
          obtain ⟨written', h⟩ := exists_reached_consume hreached p x l cost now
          exact ⟨written', (snd_then_pure ..).symm ▸ h⟩
      | reset p x => exact ⟨written, (snd_then_pure ..).symm ▸ hreached.reset p x⟩
      | purge => exact ⟨written, (snd_then_pure ..).symm ▸ hreached.purge now⟩

theorem Served.nonneg (h : Served t) {v : StoredBucket Float} (hv : t.buckets.get? key = some v) :
    0 ≤ v.bucket.tokens := by
  obtain ⟨written, hreached⟩ := h.reached
  obtain ⟨l, -, -, hnonneg⟩ := hreached.invariant (P := fun _ b => 0 ≤ b.tokens)
    (fun hfit _ b now hb => Bucket.consume_nonneg (BucketLimit.isFit_of_fault? hfit)
      (fun v hv => (hb v hv).choose_spec.2) now _) hv
  exact hnonneg

/-- The bucket that a request finds once it has pruned. -/
def found (now : Instant) (key : String) (t : RateTable Float) : Option (Bucket Float) :=
  ((t.pruned now).buckets.get? key).map (·.bucket)

/-- A request for tokens charges the bucket that it finds, and what it leaves is what the next request at
the same time finds. -/
theorem consume_found {cost : Float} (hfit : l.fault? = none) (hcost : costFault? cost = none)
    (hkey : storageKey partition subject = .ok key) (hnow : now ≤ .minuteBeforeLatest)
    (t : RateTable Float) :
    ∃ t', consume partition subject l cost now t =
        (.ok (Bucket.consume (t.found now key) now l cost).2, t') ∧
      t'.found now key = some (Bucket.consume (t.found now key) now l cost).1 := by
  have hprune := pruneIfDue_apply (Instant.add?_minute_isSome hnow) t
  have hdue := isPruneDue_pruned hnow t
  refine ⟨_, consume_apply hfit hcost hkey hprune, ?_⟩
  unfold found pruned isPruneDue at *
  rw [if_neg (by rw [hdue]; exact Bool.false_ne_true), Table.get?_insert, if_pos rfl]
  rfl

theorem Served.found_nonneg (h : Served t) {b : Bucket Float} (hb : t.found now key = some b) :
    0 ≤ b.tokens := by
  obtain ⟨v, hv, rfl⟩ := Option.map_eq_some_iff.1 hb
  have hbefore : t.buckets.get? key = some v := by
    unfold pruned at hv
    split at hv
    · have hdrop : (t.drop now).buckets.get? key = some v := hv
      rw [drop_buckets] at hdrop
      exact (Option.filter_eq_some_iff.1 hdrop).1
    · exact hv
  exact h.nonneg hbefore

end RateTable

end Latchkey
