import Mathlib.Data.List.Forall2
import Latchkey.Proofs.Limit.Recorded
import Latchkey.Proofs.Redis.Lifetime
/-!
# How long a table keeps what has ended

When a table is pruned the next pruning is set for a minute later, and until then everything in the table
ends no earlier than it was pruned. Right after a write the next pruning is still to come, so that nothing in
the table ended a minute ago or earlier. A leap second is not counted in that minute, so a write within one
may come up to a second later.
-/

namespace Latchkey

/-! ### Values of a table -/

namespace Table

variable {κ α : Type} [DecidableEq κ] {P : α → Prop} {t : Table κ α}

/-- Every value in the table satisfies `P`. -/
def All (P : α → Prop) (t : Table κ α) : Prop := ∀ k a, t.get? k = some a → P a

theorem all_empty : (empty : Table κ α).All P := by
  intro k a h
  cases h

theorem All.insert (h : t.All P) (k : κ) {a : α} (ha : P a) : (t.insert k a).All P := by
  intro k' b hget
  rw [get?_insert] at hget
  split at hget
  · cases hget
    exact ha
  · exact h _ _ hget

theorem All.erase (h : t.All P) (k : κ) : (t.erase k).All P := by
  intro k' b hget
  rw [get?_erase] at hget
  split at hget
  · cases hget
  · exact h _ _ hget

theorem all_filter {p : κ → α → Bool} (h : ∀ k a, p k a = true → P a) : (t.filter p).All P := by
  intro k a hget
  rw [get?_filter] at hget
  exact h k a (Option.filter_eq_some_iff.1 hget).2

end Table

/-! ### A minute on and a minute back -/

namespace RateTable

/-- A minute, and one more second in a leap second. -/
def staleFor (now : Instant) : Duration := .ofSeconds (if now.inLeapSecond then 61 else 60)

theorem pruneInterval_ns : pruneInterval.ns = 60000000000 := rfl

theorem staleFor_ns (now : Instant) :
    (staleFor now).ns = (if now.inLeapSecond then 61 else 60) * 1000000000 := rfl

end RateTable

namespace Instant

open RateTable

variable {t u start next now : Instant} {d : Duration}

/-- To go back for a second or more is to leave the leap second. -/
theorem sub?_eq_some_iff (hd : 1000000000 ≤ d.ns) :
    t.sub? d = some u ↔ u.ns = t.ns - d.ns ∧ u.inLeapSecond = false := by
  have hnanos := t.nanos_lt_two_seconds
  have hpassed : ¬(t.inLeapSecond = true ∧ 1000000000 ≤ (t.nanos : Int) + -d.ns) := by omega
  unfold sub? add?
  dsimp only
  rw [if_neg hpassed, ofNs?_eq_some_iff, Int.sub_eq_add_neg]

/-- What comes within a minute after an instant is less than a minute behind it. -/
theorem lt_of_lt_add?_minute (hnext : start.add? pruneInterval = some next) (hlt : now < next)
    (hu : now.sub? (staleFor now) = some u) : u < start := by
  have hminute := pruneInterval_ns
  have hspan := staleFor_ns now
  have hsum := add?_cases (by omega) hnext
  have hback := (sub?_eq_some_iff (by omega)).1 hu
  have hstart := start.nanos_lt_two_seconds
  have hnanos := now.nanos_lt_two_seconds
  have hafter := next.nanos_lt_two_seconds
  rw [lt_def] at *
  simp only [nsAfterLeap, ns, inLeapSecond_iff, Bool.eq_false_iff, ne_eq] at *
  split at hsum <;> split at hspan <;> omega

/-- The last leap second a minute before the end of the range is two minutes before it. -/
theorem add?_staleFor_isSome (hnow : now ≤ minuteBeforeLatest) :
    (now.add? (staleFor now)).isSome := by
  have hspan := staleFor_ns now
  have hsecond : minuteBeforeLatest.second = latestSecond - 60 := rfl
  have hlast : minuteBeforeLatest.nanos = 999999999 := rfl
  have hlatest : latest.ns = latestSecond * 1000000000 + 999999999 := rfl
  have hend : latestSecond % 60 = 59 := rfl
  have hleap := @second_of_inLeapSecond now
  have hnanos := now.nanos_lt_two_seconds
  refine add?_isSome (by omega) ?_
  rw [le_def] at hnow
  rw [hlatest, ns]
  simp only [inLeapSecond_iff] at *
  split at hspan <;> omega

theorem le_add?_staleFor (hle : start ≤ now) (hnow : now ≤ minuteBeforeLatest)
    (hnext : start.add? pruneInterval = some next) :
    ∃ bound, now.add? (staleFor now) = some bound ∧ next ≤ bound := by
  obtain ⟨bound, hbound⟩ := Option.isSome_iff_exists.1 (add?_staleFor_isSome hnow)
  refine ⟨bound, hbound, ?_⟩
  have hminute := pruneInterval_ns
  have hspan := staleFor_ns now
  have hsum := add?_cases (by omega) hnext
  have hsum' := add?_cases (by omega) hbound
  have hstart := start.nanos_lt_two_seconds
  have hafter := next.nanos_lt_two_seconds
  have hlast := bound.nanos_lt_two_seconds
  rw [le_def] at *
  simp only [nsAfterLeap, ns, inLeapSecond_iff, Bool.eq_false_iff, ne_eq] at *
  split at hsum <;> split at hsum' <;> omega

end Instant

namespace RateTable

open Act

variable {t t' : RateTable Float} {now later : Instant} {q : Request}

/-! ### What a request leaves -/

/-- What there is after a request that has been answered. The entry that it writes has not ended yet. -/
inductive Leaves (now : Instant) (t : RateTable Float) : Request → RateTable Float → Prop where
  | window {partition subject key : String} {l : WindowLimit} {w : Window} (hw : now ≤ w.resetAt) :
    Leaves now t (.increment partition subject l)
      { t.pruned now with windows := (t.pruned now).windows.insert key w }
  | bucket {partition subject key : String} {l : BucketLimit Float} {cost : Float}
    {b : StoredBucket Float} (hb : now ≤ b.fullAt) :
    Leaves now t (.consume partition subject l cost)
      { t.pruned now with buckets := (t.pruned now).buckets.insert key b }
  | check {partition subject : String} {l : WindowLimit} : Leaves now t (.check partition subject l) t
  | reset {partition subject key : String} :
    Leaves now t (.reset partition subject)
      { t with windows := t.windows.erase key, buckets := t.buckets.erase key }
  | purge {next : Instant} (hnext : now.add? pruneInterval = some next) :
    Leaves now t .purge { t.drop now with nextPruneAt := some next }

theorem le_resetAt_next (now : Instant) (w : Option Window) (l : WindowLimit) :
    now ≤ (Window.next w now l).resetAt := by
  unfold Window.next
  cases hlive : Window.live? w now with
  | none => exact Instant.le_later l.length_nonneg
  | some v => exact Instant.le_of_lt (of_decide_eq_true (Option.filter_eq_some_iff.1 hlive).2)

theorem le_fullAt_consume {l : BucketLimit Float} (hfit : l.fault? = none)
    (b : Option (Bucket Float)) (cost : Float) : now ≤ (Bucket.consume b now l cost).1.fullAt l := by
  have hmillis := (Bucket.consume_inReach hfit b now cost).nonneg
  refine Instant.le_later ?_
  change 0 ≤ _ * 1000000
  omega

theorem act_leaves (hfit : q.refusal? = none) (hnow : now ≤ .minuteBeforeLatest)
    (t : RateTable Float) : ∃ reply t', q.act now t = (.ok reply, t') ∧ Leaves now t q t' := by
  have hnext : (now.add? pruneInterval).isSome := Instant.add?_minute_isSome hnow
  have hprune := pruneIfDue_apply hnext t
  cases q with
  | increment partition subject l =>
      obtain ⟨hl, hfree⟩ := Option.or_eq_none_iff.1 hfit
      have hkey := Request.keyFault?_eq_none_iff.1 hfree
      exact ⟨_, _, bind_ok (increment_apply hl hkey hprune), .window (le_resetAt_next now _ l)⟩
  | consume partition subject l cost =>
      obtain ⟨hl, hrest⟩ := Option.or_eq_none_iff.1 hfit
      obtain ⟨hcost, hfree⟩ := Option.or_eq_none_iff.1 hrest
      have hkey := Request.keyFault?_eq_none_iff.1 hfree
      exact ⟨_, _, bind_ok (consume_apply hl hcost hkey hprune),
        .bucket (le_fullAt_consume hl _ cost)⟩
  | check partition subject l =>
      obtain ⟨hl, hfree⟩ := Option.or_eq_none_iff.1 hfit
      exact ⟨_, _, bind_ok (check_apply hl (Request.keyFault?_eq_none_iff.1 hfree) t), .check⟩
  | reset partition subject =>
      exact ⟨_, _, bind_ok (reset_apply (Request.keyFault?_eq_none_iff.1 hfit) t), .reset⟩
  | purge =>
      obtain ⟨next, hsome⟩ := Option.isSome_iff_exists.1 hnext
      exact ⟨_, _, bind_ok (prune_of_some hsome t), .purge hsome⟩

/-! ### What all requests keep up -/

/-- Nothing in the table has ended before an instant. -/
structure EndsFrom (start : Instant) (t : RateTable Float) : Prop where
  windows : t.windows.All fun w => start ≤ w.resetAt
  buckets : t.buckets.All fun b => start ≤ b.fullAt

theorem endsFrom_drop (now : Instant) (t : RateTable Float) : EndsFrom now (t.drop now) where
  windows := Table.all_filter fun _ _ h => Instant.le_of_lt (of_decide_eq_true h)
  buckets := Table.all_filter fun _ _ h => Instant.le_of_lt (of_decide_eq_true h)

/-- The table was pruned last at some instant up to now, and nothing in it has ended before that. -/
def PrunedBy (now : Instant) (t : RateTable Float) : Prop :=
  ∃ start, start ≤ now ∧ EndsFrom start t ∧
    ∀ next, t.nextPruneAt = some next → start.add? pruneInterval = some next

theorem prunedBy_empty (now : Instant) : PrunedBy now {} :=
  ⟨now, Instant.le_refl now, ⟨Table.all_empty, Table.all_empty⟩, fun _ h => by cases h⟩

theorem prunedBy_prune (now : Instant) (t : RateTable Float) :
    PrunedBy now { t.drop now with nextPruneAt := now.add? pruneInterval } := by
  obtain ⟨hwindows, hbuckets⟩ := endsFrom_drop now t
  exact ⟨now, Instant.le_refl now, ⟨hwindows, hbuckets⟩, fun _ h => h⟩

namespace PrunedBy

variable (h : PrunedBy now t)

include h

theorem mono (hlater : now ≤ later) : PrunedBy later t := by
  obtain ⟨start, hstart, hends, hnext⟩ := h
  exact ⟨start, Instant.le_trans hstart hlater, hends, hnext⟩

theorem pruned : PrunedBy now (t.pruned now) := by
  unfold RateTable.pruned
  split
  · exact prunedBy_prune now t
  · exact h

theorem insert_window (key : String) {w : Window} (hw : now ≤ w.resetAt) :
    PrunedBy now { t with windows := t.windows.insert key w } := by
  obtain ⟨start, hstart, ⟨hwindows, hbuckets⟩, hnext⟩ := h
  exact ⟨start, hstart, ⟨hwindows.insert key (Instant.le_trans hstart hw), hbuckets⟩, hnext⟩

theorem insert_bucket (key : String) {b : StoredBucket Float} (hb : now ≤ b.fullAt) :
    PrunedBy now { t with buckets := t.buckets.insert key b } := by
  obtain ⟨start, hstart, ⟨hwindows, hbuckets⟩, hnext⟩ := h
  exact ⟨start, hstart, ⟨hwindows, hbuckets.insert key (Instant.le_trans hstart hb)⟩, hnext⟩

theorem erase (key : String) :
    PrunedBy now { t with windows := t.windows.erase key, buckets := t.buckets.erase key } := by
  obtain ⟨start, hstart, ⟨hwindows, hbuckets⟩, hnext⟩ := h
  exact ⟨start, hstart, ⟨hwindows.erase key, hbuckets.erase key⟩, hnext⟩

theorem of_leaves (hleaves : Leaves now t q t') : PrunedBy now t' := by
  cases hleaves with
  | window hw => exact h.pruned.insert_window _ hw
  | bucket hb => exact h.pruned.insert_bucket _ hb
  | check => exact h
  | reset => exact h.erase _
  | purge hnext =>
      rw [← hnext]
      exact prunedBy_prune now t

theorem act (hnow : now ≤ .minuteBeforeLatest) (q : Request) : PrunedBy now (q.act now t).2 := by
  cases hfit : q.refusal? with
  | some f =>
      rw [Request.act_of_refusal? hfit]
      exact h
  | none =>
      obtain ⟨reply, t', hact, hleaves⟩ := act_leaves hfit hnow t
      rw [hact]
      exact h.of_leaves hleaves

end PrunedBy

/-! ### After a write -/

/-- Whether a request counts something. -/
def Request.isWrite : Request → Bool
  | increment _ _ _ => true
  | consume _ _ _ _ => true
  | _ => false

/-- The next pruning is still to come and no more than a time away, and nothing has ended so long ago. -/
structure Fresh (now : Instant) (span : Duration) (t : RateTable Float) : Prop where
  next : ∃ next bound, t.nextPruneAt = some next ∧ now.add? span = some bound ∧
    now < next ∧ next ≤ bound
  window : ∀ {start}, now.sub? span = some start →
    ∀ {key w}, t.windows.get? key = some w → start < w.resetAt
  bucket : ∀ {start}, now.sub? span = some start →
    ∀ {key b}, t.buckets.get? key = some b → start < b.fullAt

theorem exists_lt_nextPruneAt (hdue : t.isPruneDue now = false) :
    ∃ next, t.nextPruneAt = some next ∧ now < next := by
  unfold isPruneDue at hdue
  cases hnext : t.nextPruneAt with
  | none => simp [hnext] at hdue
  | some next => exact ⟨next, rfl, Instant.not_le.1 (by simpa [hnext] using hdue)⟩

theorem PrunedBy.fresh (h : PrunedBy now t) (hnow : now ≤ .minuteBeforeLatest)
    (hdue : t.isPruneDue now = false) : Fresh now (staleFor now) t := by
  obtain ⟨start, hstart, ⟨hwindows, hbuckets⟩, hprune⟩ := h
  obtain ⟨next, hnext, hlt⟩ := exists_lt_nextPruneAt hdue
  have hsum := hprune next hnext
  obtain ⟨bound, hbound, hle⟩ := Instant.le_add?_staleFor hstart hnow hsum
  refine ⟨⟨next, bound, hnext, hbound, hlt, hle⟩, fun hu _ _ hw => ?_, fun hu _ _ hb => ?_⟩
  · exact Instant.lt_of_lt_of_le (Instant.lt_of_lt_add?_minute hsum hlt hu) (hwindows _ _ hw)
  · exact Instant.lt_of_lt_of_le (Instant.lt_of_lt_add?_minute hsum hlt hu) (hbuckets _ _ hb)

theorem Leaves.fresh (hleaves : Leaves now t q t') (hwrite : q.isWrite = true) (h : PrunedBy now t)
    (hnow : now ≤ .minuteBeforeLatest) : Fresh now (staleFor now) t' := by
  have hprunedBy := h.of_leaves hleaves
  have hdue := isPruneDue_pruned hnow t
  cases hleaves with
  | window hw => exact hprunedBy.fresh hnow hdue
  | bucket hb => exact hprunedBy.fresh hnow hdue
  | check => cases hwrite
  | reset => cases hwrite
  | purge => cases hwrite

/-- A write without a fault is done, and leaves the table fresh when it is. -/
def WritesFresh (call : Instant × Request) (entry : Request × Entry) : Prop :=
  call.2.isWrite = true →
    (call.2.refusal? = none → ∃ reply t, entry.2 = (.ok reply, t)) ∧
      ∀ reply t, entry.2 = (.ok reply, t) → Fresh call.1 (staleFor call.1) t

theorem writesFresh_act (h : PrunedBy now t) (hnow : now ≤ .minuteBeforeLatest) (q : Request) :
    WritesFresh (now, q) (q, q.act now t) := by
  intro hwrite
  cases hfit : q.refusal? with
  | some f =>
      rw [Request.act_of_refusal? hfit]
      exact ⟨nofun, fun _ _ h => by cases h⟩
  | none =>
      obtain ⟨reply, t', hact, hleaves⟩ := act_leaves hfit hnow t
      refine ⟨fun _ => ⟨reply, t', hact⟩, fun reply' t'' hact' => ?_⟩
      cases hact.symm.trans hact'
      exact hleaves.fresh hwrite h hnow

theorem writesFresh_transcript {run : List (Instant × Request)} (hrun : InTime run)
    (h : ∀ call ∈ run, PrunedBy call.1 t) : List.Forall₂ WritesFresh run (transcript run t) := by
  induction run generalizing t with
  | nil => exact .nil
  | cons call run ih =>
      obtain ⟨now, q⟩ := call
      obtain ⟨hfirst, hordered⟩ := List.pairwise_cons.1 hrun.ordered
      have hnow := hrun.early _ List.mem_cons_self
      have hbefore := h _ List.mem_cons_self
      have hrest : InTime run :=
        ⟨hordered, fun call hcall => hrun.early call (List.mem_cons_of_mem _ hcall)⟩
      refine .cons (writesFresh_act hbefore hnow q) (ih hrest fun call hcall => ?_)
      exact (hbefore.act hnow q).mono (hfirst call.1 (List.mem_map_of_mem hcall))

/-- Whatever a run writes, resets and purges, each write that it makes and that is done leaves a next pruning
within a minute and nothing that ended a minute ago or earlier. In a leap second it is a second more. -/
theorem writes_leave_fresh {run : List (Instant × Request)} (hrun : InTime run) :
    List.Forall₂ WritesFresh run (transcript run {}) :=
  writesFresh_transcript hrun fun call _ => prunedBy_empty call.1

/-- A window that has ended outlasts a write in the leap second, and the one after that drops it. -/
theorem pruned_after_leap_second :
    let count (subject : String) := Request.increment "api" subject ⟨1, 1⟩
    let run : List (Instant × Request) :=
      [(⟨1483228740, 200000000, by decide, by decide, by decide⟩, count "a"),
        (⟨1483228799, 1500000000, by decide, by decide, by decide⟩, count "b"),
        (⟨1483228800, 200000000, by decide, by decide, by decide⟩, .consume "api" "a" ⟨2, 1, 1000⟩ 1)]
    InTime run ∧ List.Forall₂ WritesFresh run (transcript run {}) ∧
      (transcript run {}).map (fun entry => entry.2.2.size) = [1, 2, 1] := by
  intro count run
  have hrun : InTime run := ⟨by decide, by decide⟩
  exact ⟨hrun, writes_leave_fresh hrun, by decide +kernel⟩

/-- A write in a leap second may leave a window that ended more than a minute before, and a next pruning that
is more than a minute away. -/
theorem leap_second_leaves_stale :
    let count (subject : String) := Request.increment "api" subject ⟨1, 1⟩
    let run (first second : Instant) := [(first, count "a"), (second, count "b")]
    let last (first second : Instant) := (count "b").act second ((count "a").act first {}).2
    let early : Instant := ⟨1483228740, 200000000, by decide, by decide, by decide⟩
    let late : Instant := ⟨1483228799, 900000000, by decide, by decide, by decide⟩
    let leap : Instant := ⟨1483228799, 1100000000, by decide, by decide, by decide⟩
    let leapEnd : Instant := ⟨1483228799, 1500000000, by decide, by decide, by decide⟩
    (InTime (run early leapEnd) ∧
        (last early leapEnd).1.toOption = some (.result ⟨true, 0, leapEnd.laterMillis 1⟩) ∧
        ¬Fresh leapEnd (.ofSeconds 60) (last early leapEnd).2) ∧
      InTime (run late leap) ∧
        (last late leap).1.toOption = some (.result ⟨true, 0, leap.laterMillis 1⟩) ∧
        ¬Fresh leap (.ofSeconds 60) (last late leap).2 := by
  intro count run last early late leap leapEnd
  refine ⟨⟨⟨by decide, by decide⟩, by decide +kernel, fun h => ?_⟩,
    ⟨by decide, by decide⟩, by decide +kernel, fun h => ?_⟩
  · -- a minute before the leap second is at half a second, and the window has ended before
    let start : Instant := ⟨1483228740, 500000000, by decide, by decide, by decide⟩
    have hstart : leapEnd.sub? (.ofSeconds 60) = some start := by decide
    have hget : (last early leapEnd).2.windows.get? "api:a" = some ⟨1, early.laterMillis 1⟩ := by
      decide +kernel
    exact absurd (h.window hstart hget) (by decide)
  · -- the minute of the pruning began before the leap second, that of the write within it
    obtain ⟨next, bound, hnext, hbound, -, hle⟩ := h.next
    have hnext' : (last late leap).2.nextPruneAt = late.add? (.ofSeconds 60) := by decide +kernel
    have hlate : late.add? (.ofSeconds 60) =
        some ⟨1483228859, 900000000, by decide, by decide, by decide⟩ := by decide
    have hleap : leap.add? (.ofSeconds 60) =
        some ⟨1483228859, 100000000, by decide, by decide, by decide⟩ := by decide
    cases hlate.symm.trans (hnext'.symm.trans hnext)
    cases hleap.symm.trans hbound
    exact absurd hle (by decide)

end RateTable

end Latchkey
