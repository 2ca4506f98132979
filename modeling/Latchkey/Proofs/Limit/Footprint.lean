import Latchkey.Proofs.Limit.Memory
/-!
# What one request changes in a table of rates

A request that fails changes nothing, and any other puts one entry under its own storage key into the
table, after what has ended has been dropped if that was due. The next time for this is set then, for
requests that are made a minute or more before the end of the range of instants.
-/

namespace Latchkey.RateTable

open Act

variable {α : Type} {now : Instant} {partition subject : String}

/-- The table in which a request is counted. -/
def pruned (now : Instant) (t : RateTable α) : RateTable α :=
  if t.isPruneDue now then { t.drop now with nextPruneAt := now.add? pruneInterval } else t

theorem pruneIfDue_apply (h : (now.add? pruneInterval).isSome) (t : RateTable α) :
    (pruneIfDue now : Act (RateTable α) Error Unit) t = (.ok (), t.pruned now) := by
  obtain ⟨next, hnext⟩ := Option.isSome_iff_exists.1 h
  unfold pruneIfDue pruned
  rw [bind_ok (read_apply _ _)]
  cases isPruneDue now t with
  | false => rfl
  | true =>
      unfold prune
      rw [hnext]
      rfl

/-- Once a request has pruned, none at the same time prunes again. -/
theorem isPruneDue_pruned (h : now ≤ .minuteBeforeLatest) (t : RateTable α) :
    (t.pruned now).isPruneDue now = false := by
  unfold pruned
  split
  · obtain ⟨next, hnext⟩ := Option.isSome_iff_exists.1 (Instant.add?_minute_isSome h)
    have hlater := Instant.lt_add?_minute h hnext
    have hprune : now.add? pruneInterval = some next := hnext
    unfold isPruneDue
    rw [hprune, Option.all_some]
    exact decide_eq_false (Instant.not_le.2 hlater)
  · rename_i hdue
    exact Bool.eq_false_iff.2 hdue

/-- One entry has been put under the key, and no other has changed but by pruning. -/
inductive Counted (now : Instant) (key : String) (t : RateTable α) : RateTable α → Prop where
  | window (w : Window) :
    Counted now key t { t.pruned now with windows := (t.pruned now).windows.insert key w }
  | bucket (b : StoredBucket α) :
    Counted now key t { t.pruned now with buckets := (t.pruned now).buckets.insert key b }

section Requests

variable (h : (now.add? pruneInterval).isSome)

include h

theorem increment_counted (l : WindowLimit) (t : RateTable α) :
    (increment partition subject l now t).2 = t ∨
      ∃ key, storageKey partition subject = .ok key ∧
        Counted now key t (increment partition subject l now t).2 := by
  unfold increment refuse storageKeyOf
  cases l.fault? with
  | some f => exact .inl rfl
  | none =>
      cases storageKey partition subject with
      | error f => exact .inl rfl
      | ok key =>
          dsimp only
          rw [pure_bind, pure_bind, bind_ok (pruneIfDue_apply h t)]
          exact .inr ⟨key, rfl, .window _⟩

theorem consume_counted (l : BucketLimit Float) (cost : Float)
    {t : RateTable Float} :
    (consume partition subject l cost now t).2 = t ∨
      ∃ key, storageKey partition subject = .ok key ∧
        Counted now key t (consume partition subject l cost now t).2 := by
  unfold consume consumeFit refuse storageKeyOf
  cases l.fault? with
  | some f => exact .inl rfl
  | none =>
      cases costFault? cost with
      | some f => exact .inl rfl
      | none =>
          cases storageKey partition subject with
          | error f => exact .inl rfl
          | ok key =>
              dsimp only
              rw [pure_bind, pure_bind, pure_bind, bind_ok (pruneIfDue_apply h t)]
              exact .inr ⟨key, rfl, .bucket _⟩

end Requests

end Latchkey.RateTable
