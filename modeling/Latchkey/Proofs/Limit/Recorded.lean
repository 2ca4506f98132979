import Latchkey.Proofs.Limit.Served
/-!
# Which requests a table records

A request without a fault is answered and recorded at any reading of the clock, forwards or backwards, as
long as it need not prune: its tokens can be bounded, and its times stay in the range of instants. One that
prunes has to name the time of the next pruning, a minute later, and this is the only sum that is not kept
within the range. In its last minute there is no such time, and the request is lost after the dropping.
-/

namespace Latchkey.RateTable

open Act

variable {t : RateTable Float} {now : Instant} {q : Request}

namespace Request

/-- Whether the request drops what has ended before it does anything else. -/
def prunes (now : Instant) (t : RateTable Float) : Request → Bool
  | increment _ _ _ => t.isPruneDue now
  | consume _ _ _ _ => t.isPruneDue now
  | purge => true
  | check _ _ _ => false
  | reset _ _ => false

/-- If the request prunes, there is a time for the next pruning. -/
def HasMinute (now : Instant) (t : RateTable Float) (q : Request) : Prop :=
  q.prunes now t = true → now.second + 60 ≤ latestSecond

/-- What a request answers and leaves behind when it is done. -/
inductive Records (now : Instant) (t : RateTable Float) : Request → Reply → RateTable Float → Prop where
  | increment {partition subject : String} {l : WindowLimit} {t' : RateTable Float} (w : Window)
      (hw : Window.next (t.windows.get? (partition ++ ":" ++ subject)) now l = w)
      (h : t'.windows.get? (partition ++ ":" ++ subject) = some w) :
      Records now t (increment partition subject l) (.result (w.outcome l)) t'
  | consume {partition subject : String} {l : BucketLimit Float} {cost : Float} {t' : RateTable Float}
      (b : Bucket Float) (r : LimitResult)
      (hb : Bucket.consume? (t.found now (partition ++ ":" ++ subject)) now l cost = some (b, r))
      (h : t'.buckets.get? (partition ++ ":" ++ subject) = some ⟨b, b.fullAt l⟩) :
      Records now t (consume partition subject l cost) (.result r) t'
  | check {partition subject : String} {l : WindowLimit} :
      Records now t (check partition subject l)
        (.result (Window.peek (t.windows.get? (partition ++ ":" ++ subject)) now l)) t
  | reset {partition subject : String} :
      Records now t (reset partition subject) .done
        { t with
          windows := t.windows.erase (partition ++ ":" ++ subject)
          buckets := t.buckets.erase (partition ++ ":" ++ subject) }
  | purge {next : Instant} (h : now.add? pruneInterval = some next) :
      Records now t purge (.dropped (t.size - (t.drop now).size))
        { t.drop now with nextPruneAt := some next }

end Request

/-! ### Pruning in time -/

theorem pruneIfDue_of_hasNext (h : t.isPruneDue now = true → (now.add? pruneInterval).isSome) :
    (pruneIfDue now : Act (RateTable Float) Error Unit) t = (.ok (), t.pruned now) := by
  cases hdue : t.isPruneDue now with
  | true => exact pruneIfDue_apply (h hdue) t
  | false => simp [pruneIfDue, pruned, hdue, bind_apply]

theorem prune_of_some {next : Instant} (h : now.add? pruneInterval = some next) (t : RateTable Float) :
    (prune now : Act (RateTable Float) Error Nat) t =
      (.ok (t.size - (t.drop now).size), { t.drop now with nextPruneAt := some next }) := by
  unfold prune
  rw [h]
  rfl

theorem prune_of_none (h : now.add? pruneInterval = none) (t : RateTable Float) :
    (prune now : Act (RateTable Float) Error Nat) t = (.error .outOfTime, t.drop now) := by
  unfold prune
  rw [h]
  rfl

theorem pruneIfDue_of_none (hdue : t.isPruneDue now = true) (h : now.add? pruneInterval = none) :
    (pruneIfDue now : Act (RateTable Float) Error Unit) t = (.error .outOfTime, t.drop now) := by
  unfold pruneIfDue
  rw [bind_ok (read_apply _ _), if_pos hdue, bind_error (prune_of_none h t)]

theorem windows_pruned (now : Instant) (t : RateTable Float) (key : String) :
    Window.LeftAlone now (t.windows.get? key) ((t.pruned now).windows.get? key) := by
  unfold pruned
  split
  · exact (windows_prunesWithin now key).drop t
  · exact refl_of _ _

/-! ### Requests without a fault -/

theorem consume?_of_fit {l : BucketLimit Float} (hfit : l.fault? = none) (b : Option (Bucket Float))
    (now : Instant) (cost : Float) :
    Bucket.consume? b now l cost = some (Bucket.consume b now l cost) := by
  have hbound : l.isBound = true := decide_eq_true (BucketLimit.isFit_of_fault? hfit).capacity.nonneg
  simp [Bucket.consume?, hbound]

theorem act_records (hfit : q.refusal? = none) (h : q.HasMinute now t) :
    ∃ reply t', q.act now t = (.ok reply, t') ∧ q.Records now t reply t' := by
  have hnext : q.prunes now t = true → (now.add? pruneInterval).isSome := fun hprunes =>
    Instant.add?_minute_isSome_iff.2 (h hprunes)
  cases q with
  | increment partition subject l =>
      obtain ⟨hl, hfree⟩ := Option.or_eq_none_iff.1 hfit
      have hkey := Request.keyFault?_eq_none_iff.1 hfree
      -- a window that the pruning drops has ended, so the next one is the same without it
      have hsame : Window.next ((t.pruned now).windows.get? (partition ++ ":" ++ subject)) now l =
          Window.next (t.windows.get? (partition ++ ":" ++ subject)) now l := by
        unfold Window.next
        rw [(windows_pruned now t _).live?_eq (Instant.le_refl now)]
      refine ⟨_, _, bind_ok (increment_apply hl hkey (pruneIfDue_of_hasNext hnext)), ?_⟩
      rw [hsame]
      exact .increment _ rfl ((Table.get?_insert ..).trans (if_pos rfl))
  | consume partition subject l cost =>
      obtain ⟨hl, hrest⟩ := Option.or_eq_none_iff.1 hfit
      obtain ⟨hcost, hfree⟩ := Option.or_eq_none_iff.1 hrest
      have hkey := Request.keyFault?_eq_none_iff.1 hfree
      refine ⟨_, _, bind_ok (consume_apply hl hcost hkey (pruneIfDue_of_hasNext hnext)), ?_⟩
      exact .consume _ _ (consume?_of_fit hl _ now cost) ((Table.get?_insert ..).trans (if_pos rfl))
  | check partition subject l =>
      obtain ⟨hl, hfree⟩ := Option.or_eq_none_iff.1 hfit
      exact ⟨_, _, bind_ok (check_apply hl (Request.keyFault?_eq_none_iff.1 hfree) t), .check⟩
  | reset partition subject =>
      exact ⟨_, _, bind_ok (reset_apply (Request.keyFault?_eq_none_iff.1 hfit) t), .reset⟩
  | purge =>
      obtain ⟨next, hsome⟩ := Option.isSome_iff_exists.1 (hnext rfl)
      exact ⟨_, _, bind_ok (prune_of_some hsome t), .purge hsome⟩

theorem act_of_not_hasMinute (hfit : q.refusal? = none) (h : ¬q.HasMinute now t) :
    q.act now t = (.error .outOfTime, t.drop now) := by
  obtain ⟨hprunes, hlate⟩ := Classical.not_imp.1 h
  have hnone : now.add? pruneInterval = none :=
    Option.not_isSome_iff_eq_none.1 fun hsome => hlate (Instant.add?_minute_isSome_iff.1 hsome)
  cases q with
  | increment partition subject l =>
      obtain ⟨hl, hfree⟩ := Option.or_eq_none_iff.1 hfit
      have hkey := Request.keyFault?_eq_none_iff.1 hfree
      exact bind_error (increment_of_error hl hkey (pruneIfDue_of_none hprunes hnone))
  | consume partition subject l cost =>
      obtain ⟨hl, hrest⟩ := Option.or_eq_none_iff.1 hfit
      obtain ⟨hcost, hfree⟩ := Option.or_eq_none_iff.1 hrest
      have hkey := Request.keyFault?_eq_none_iff.1 hfree
      exact bind_error (consume_of_error hl hcost hkey (pruneIfDue_of_none hprunes hnone))
  | purge => exact bind_error (prune_of_none hnone t)
  | check partition subject l => cases hprunes
  | reset partition subject => cases hprunes

/-- A request without a fault is answered and recorded just if there is a time for the next pruning or it
does not prune. Otherwise it fails and is not recorded, though what has ended is dropped. -/
theorem recorded_iff_hasMinute (hfit : q.refusal? = none) (now : Instant) (t : RateTable Float) :
    ((∃ reply t', q.act now t = (.ok reply, t') ∧ q.Records now t reply t') ↔ q.HasMinute now t) ∧
      (¬q.HasMinute now t → q.act now t = (.error .outOfTime, t.drop now)) := by
  refine ⟨⟨?_, act_records hfit⟩, act_of_not_hasMinute hfit⟩
  rintro ⟨reply, t', hact, -⟩
  by_contra h
  rw [act_of_not_hasMinute hfit h] at hact
  cases hact

/-- Half a minute before the end of the range a request is recorded, for the table has been pruned half a
minute before. -/
theorem recorded_in_last_minute :
    let l : WindowLimit := ⟨3, 60000⟩
    let first := Instant.minuteBeforeLatest
    let second := first.later (.ofSeconds 30)
    let q := Request.increment "api" "a" l
    let t := (q.act first {}).2
    latestSecond < second.second + 60 ∧ q.refusal? = none ∧
      ∃ reply t', q.act second t = (.ok reply, t') ∧ q.Records second t reply t' ∧
        t'.windows.get? "api:a" = some ⟨2, .latest⟩ := by
  intro l first second q t
  have hfit : q.refusal? = none := by decide
  have hminute : q.HasMinute second t := by
    intro hprunes
    exact absurd hprunes (by decide +kernel)
  obtain ⟨reply, t', hact, hrecords⟩ := (recorded_iff_hasMinute hfit second t).1.2 hminute
  refine ⟨by decide, hfit, reply, t', hact, hrecords, ?_⟩
  cases (show Request.Records second t (.increment "api" "a" l) reply t' from hrecords) with
  | increment w hw h =>
      refine h.trans (congrArg some (hw.symm.trans ?_))
      decide +kernel

/-- At the last instant of the range a table that has just been made records nothing, and to drop what has
ended fails as well. -/
theorem not_recorded_at_latest :
    let window := Request.increment "api" "a" ⟨3, 60000⟩
    let bucket := Request.consume "api" "a" ⟨3, 1, 1000⟩ 1
    window.refusal? = none ∧ bucket.refusal? = none ∧
      window.act .latest {} = (.error .outOfTime, {}) ∧ bucket.act .latest {} = (.error .outOfTime, {}) ∧
      Request.purge.act .latest {} = (.error .outOfTime, {}) := by
  intro window bucket
  have hlate : ∀ q : Request, q.prunes .latest {} = true → ¬q.HasMinute .latest {} :=
    fun q hprunes h => absurd (h hprunes) (by decide)
  have hwindow : window.refusal? = none := by decide
  have hbucket : bucket.refusal? = none := by decide +kernel
  exact ⟨hwindow, hbucket, act_of_not_hasMinute hwindow (hlate _ rfl),
    act_of_not_hasMinute hbucket (hlate _ rfl), act_of_not_hasMinute rfl (hlate _ rfl)⟩

end Latchkey.RateTable
