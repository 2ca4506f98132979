import Latchkey.Proofs.Limit.Memory
/-!
# Runs of requests to a table of rates

A run of requests goes on, whatever is answered, with the table that each of them leaves. A `Thread` of
it is made up of some of its requests, each with the step that it stands for: what it would do if there
were no others. A run follows a thread if some relation between the state of the thread and the table is
kept up by all requests, so that those of the thread do as their steps say.
-/

namespace Latchkey.RateTable

open Act

/-- What can be asked of a table. -/
inductive Request where
  | increment (partition subject : String) (l : WindowLimit)
  | check (partition subject : String) (l : WindowLimit)
  | consume (partition subject : String) (l : BucketLimit Float) (cost : Float)
  | reset (partition subject : String)
  | purge

inductive Reply where
  | result (r : LimitResult)
  | done
  /-- So many entries were dropped. -/
  | dropped (count : Nat)
deriving DecidableEq

/-- What a request answers, and the table that it leaves. -/
abbrev Entry : Type := Except (Failure Error) Reply × RateTable Float

namespace Request

def act (now : Instant) : Request → Act (RateTable Float) Error Reply
  | increment partition subject l => do
    pure (.result (← RateTable.increment partition subject l now))
  | check partition subject l => do
    pure (.result (← RateTable.check partition subject l now))
  | consume partition subject l cost => do
    pure (.result (← RateTable.consume partition subject l cost now))
  | reset partition subject => do
    RateTable.reset partition subject
    pure .done
  | purge => do
    pure (.dropped (← prune now))

def keyFault? (partition subject : String) : Option LimitFault :=
  match storageKey partition subject with
  | .ok _ => none
  | .error f => some f

/-- Why a request is refused, whatever the table and the time. -/
def refusal? : Request → Option LimitFault
  | increment partition subject l => l.fault?.or (keyFault? partition subject)
  | check partition subject l => l.fault?.or (keyFault? partition subject)
  | consume partition subject l cost =>
    l.fault?.or ((costFault? cost).or (keyFault? partition subject))
  | reset partition subject => keyFault? partition subject
  | purge => none

theorem keyFault?_eq_none_iff {partition subject : String} :
    keyFault? partition subject = none ↔
      storageKey partition subject = .ok (partition ++ ":" ++ subject) := by
  unfold keyFault?
  cases h : storageKey partition subject with
  | ok key => exact iff_of_true rfl (congrArg Except.ok (storageKey_eq_ok_iff.1 h).2)
  | error f => exact iff_of_false nofun nofun

/-- The subject that a request is about. -/
def subject? : Request → Option (String × String)
  | increment partition subject _ => some (partition, subject)
  | check partition subject _ => some (partition, subject)
  | consume partition subject _ _ => some (partition, subject)
  | reset partition subject => some (partition, subject)
  | purge => none

variable {α β : Type} {t : RateTable α} {f : LimitFault}

theorem refuse_bind {fault : Option LimitFault} {x : Act (RateTable α) Error β} {g : Option LimitFault}
    (hrefused : fault.or g = some f)
    (hx : g = some f → x t = (.error (.error f.toError), t)) :
    (refuse fault >>= fun _ => x) t = (.error (.error f.toError), t) := by
  cases fault with
  | some f' =>
      obtain rfl := Option.some.inj hrefused
      rfl
  | none => exact hx hrefused

theorem storageKeyOf_bind {partition subject : String} {g : String → Act (RateTable α) Error β}
    (hrefused : keyFault? partition subject = some f) :
    (storageKeyOf partition subject >>= g) t = (.error (.error f.toError), t) := by
  unfold keyFault? at hrefused
  unfold storageKeyOf
  cases hkey : storageKey partition subject with
  | ok key =>
      rw [hkey] at hrefused
      cases hrefused
  | error f' =>
      rw [hkey] at hrefused
      cases hrefused
      rfl

/-- A request that is refused fails with that fault and changes nothing. -/
theorem act_of_refusal? {q : Request} (h : q.refusal? = some f) (now : Instant)
    (t : RateTable Float) : q.act now t = (.error (.error f.toError), t) := by
  cases q with
  | increment partition subject l =>
      exact bind_error (refuse_bind h fun hkey => storageKeyOf_bind hkey)
  | check partition subject l =>
      exact bind_error (refuse_bind h fun hkey => storageKeyOf_bind hkey)
  | consume partition subject l cost =>
      exact bind_error (refuse_bind h fun hcost => refuse_bind hcost fun hkey => storageKeyOf_bind hkey)
  | reset partition subject =>
      exact bind_error (storageKeyOf_bind h)
  | purge => cases h

/-- How a request changes a table besides pruning it. -/
inductive Writes : Request → RateTable Float → RateTable Float → Prop
  | window {partition subject key : String} {l : WindowLimit} {t : RateTable Float} (w : Window)
      (hkey : storageKey partition subject = .ok key) :
      Writes (increment partition subject l) t { t with windows := t.windows.insert key w }
  | bucket {partition subject key : String} {l : BucketLimit Float} {cost : Float}
      {t : RateTable Float} (b : StoredBucket Float) (hkey : storageKey partition subject = .ok key) :
      Writes (consume partition subject l cost) t { t with buckets := t.buckets.insert key b }
  | reset {partition subject key : String} {t : RateTable Float}
      (hkey : storageKey partition subject = .ok key) :
      Writes (reset partition subject) t
        { t with windows := t.windows.erase key, buckets := t.buckets.erase key }

theorem act_within {τ : Type} {view : RateTable Float → τ} {R : τ → τ → Prop} [IsPreorder τ R]
    {now : Instant} {q : Request} (h : PrunesWithin now view R)
    (hwrites : ∀ t t', q.Writes t t' → R (view t) (view t')) : (q.act now).Within view R := by
  cases q with
  | increment partition subject l =>
      exact (h.increment fun _ w t hkey => hwrites t _ (.window w hkey)).then_pure _
  | check partition subject l => exact check_within.then_pure _
  | consume partition subject l cost =>
      exact (h.consume fun _ b t hkey => hwrites t _ (.bucket b hkey)).then_pure _
  | reset partition subject =>
      have hreset : (RateTable.reset partition subject).Within view R :=
        storageKeyOf_bind_within fun _ hkey => Within.update fun t => hwrites t _ (.reset hkey)
      exact hreset.then_pure _
  | purge => exact h.prune.then_pure _

/-- What a request does to a view where it is none of the accepted requests about a subject: if it writes
where one of those would, then under another storage key. -/
theorem act_within_of_other {κ τ : Type} {view : RateTable Float → τ} {R : τ → τ → Prop} [IsPreorder τ R]
    {call? : Request → Option κ} {now : Instant} {q : Request} {partition subject key : String}
    (h : PrunesWithin now view R) (hkey : storageKey partition subject = .ok key)
    (hown :
      (if q.refusal? = none ∧ q.subject? = some (partition, subject) then call? q else none) = none)
    (hwrites : (∀ {p x key'}, q.subject? = some (p, x) → call? q ≠ none → storageKey p x = .ok key' →
      key' ≠ key) → ∀ t t', q.Writes t t' → R (view t) (view t')) : (q.act now).Within view R := by
  cases hrefusal : q.refusal? with
  | some f =>
      intro t
      rw [act_of_refusal? hrefusal]
      exact refl_of R _
  | none =>
      refine act_within h (hwrites ?_)
      rintro p x key' hsubject hcall hkey' rfl
      rw [subject_eq_of_storageKey hkey' hkey] at hsubject
      exact hcall ((if_pos ⟨hrefusal, hsubject⟩).symm.trans hown)

end Request

/-- The requests of a run, each with what it answers and leaves. -/
def transcript : List (Instant × Request) → RateTable Float → List (Request × Entry)
  | [], _ => []
  | (now, q) :: calls, t => (q, q.act now t) :: transcript calls (q.act now t).2

/-- The clock does not go back, and stays a minute before the end of the range of instants. -/
structure InTime (run : List (Instant × Request)) : Prop where
  ordered : (run.map Prod.fst).Pairwise (· ≤ ·)
  early : ∀ call ∈ run, call.1 ≤ .minuteBeforeLatest

theorem InTime.sublist {run part : List (Instant × Request)} (h : InTime run)
    (hpart : part.Sublist run) : InTime part where
  ordered := h.ordered.sublist (hpart.map Prod.fst)
  early call hcall := h.early call (hpart.mem hcall)

/-- Some requests of a run, and what each of them does to a state `ω` of their own. -/
structure Thread (κ ω : Type) where
  own : Request → Option κ
  step : Instant → ω → κ → ω × Reply

namespace Thread

variable {κ ω : Type} (thread : Thread κ ω)

/-- The requests of the thread. -/
def calls (run : List (Instant × Request)) : List (Instant × κ) :=
  run.filterMap fun call => (thread.own call.2).map fun c => (call.1, c)

/-- What the requests of the thread answer and leave in a run. -/
def entries (run : List (Instant × Request)) (t : RateTable Float) : List Entry :=
  (transcript run t).filterMap fun entry => (thread.own entry.1).map fun _ => entry.2

/-- The steps of the thread by itself, with the states that they lead to. -/
def fold : ω → List (Instant × κ) → List (ω × Reply)
  | _, [] => []
  | w, (now, c) :: calls => thread.step now w c :: fold (thread.step now w c).1 calls

/-- Every step of the thread is one that `fit` allows in the state that it meets. -/
def Fits (fit : Instant → ω → κ → Prop) : ω → List (Instant × κ) → Prop
  | _, [] => True
  | w, (now, c) :: calls => fit now w c ∧ Fits fit (thread.step now w c).1 calls

theorem fits_true (w : ω) (calls : List (Instant × κ)) : thread.Fits (fun _ _ _ => True) w calls := by
  induction calls generalizing w with
  | nil => trivial
  | cons call calls ih => exact ⟨trivial, ih _⟩

/-- `R` is kept up by all requests, and where it holds those of the thread show what their steps do. -/
structure Follows (R : Instant → ω → RateTable Float → Prop) (fit : Instant → ω → κ → Prop)
    {β : Type} (shown : Entry → β) (expected : ω × Reply → β) : Prop where
  mono : ∀ {now later w t}, R now w t → now ≤ later → R later w t
  other : ∀ {now q w t}, thread.own q = none → R now w t → R now w (q.act now t).2
  own : ∀ {now q c w t}, thread.own q = some c → now ≤ .minuteBeforeLatest → fit now w c → R now w t →
    shown (q.act now t) = expected (thread.step now w c) ∧
      R now (thread.step now w c).1 (q.act now t).2

variable {thread}

section Cons

variable {now : Instant} {q : Request} {run : List (Instant × Request)} {c : κ} (t : RateTable Float)

theorem calls_of_other (h : thread.own q = none) :
    thread.calls ((now, q) :: run) = thread.calls run := by
  unfold Thread.calls
  rw [List.filterMap_cons, h]
  rfl

theorem calls_of_own (h : thread.own q = some c) :
    thread.calls ((now, q) :: run) = (now, c) :: thread.calls run := by
  unfold Thread.calls
  rw [List.filterMap_cons, h]
  rfl

theorem entries_of_other (h : thread.own q = none) :
    thread.entries ((now, q) :: run) t = thread.entries run (q.act now t).2 := by
  unfold Thread.entries
  rw [transcript, List.filterMap_cons, h]
  rfl

theorem entries_of_own (h : thread.own q = some c) :
    thread.entries ((now, q) :: run) t = q.act now t :: thread.entries run (q.act now t).2 := by
  unfold Thread.entries
  rw [transcript, List.filterMap_cons, h]
  rfl

end Cons

/-- The requests of the thread come at readings of the run, in its order. -/
theorem readings_sublist (run : List (Instant × Request)) :
    ((thread.calls run).map Prod.fst).Sublist (run.map Prod.fst) := by
  induction run with
  | nil => exact .slnil
  | cons call run ih =>
      cases hown : thread.own call.2 with
      | none =>
          rw [calls_of_other hown]
          exact ih.cons _
      | some c =>
          rw [calls_of_own hown]
          exact ih.cons_cons _

theorem Follows.entries_eq {R : Instant → ω → RateTable Float → Prop} {fit : Instant → ω → κ → Prop}
    {β : Type} {shown : Entry → β} {expected : ω × Reply → β}
    (h : thread.Follows R fit shown expected) {run : List (Instant × Request)} (hrun : InTime run)
    {w : ω} {t : RateTable Float} (hR : ∀ call ∈ run, R call.1 w t)
    (hfits : thread.Fits fit w (thread.calls run)) :
    (thread.entries run t).map shown = (thread.fold w (thread.calls run)).map expected := by
  induction run generalizing w t with
  | nil => rfl
  | cons call run ih =>
      obtain ⟨now, q⟩ := call
      obtain ⟨hfirst, hordered⟩ := List.pairwise_cons.1 hrun.ordered
      have hrest : InTime run :=
        ⟨hordered, fun call hcall => hrun.early call (List.mem_cons_of_mem _ hcall)⟩
      have hnow := hR (now, q) List.mem_cons_self
      have hlater : ∀ {w t}, R now w t → ∀ call ∈ run, R call.1 w t := fun hR call hcall =>
        h.mono hR (hfirst call.1 (List.mem_map.2 ⟨call, hcall, rfl⟩))
      cases hown : thread.own q with
      | none =>
          rw [calls_of_other hown] at hfits ⊢
          rw [entries_of_other t hown]
          exact ih hrest (hlater (h.other hown hnow)) hfits
      | some c =>
          rw [calls_of_own hown] at hfits ⊢
          obtain ⟨hfit, hfits⟩ := hfits
          obtain ⟨hshown, hstep⟩ := h.own hown (hrun.early _ List.mem_cons_self) hfit hnow
          rw [entries_of_own t hown, List.map_cons, hshown, ih hrest (hlater hstep) hfits]
          rfl

end Thread

end Latchkey.RateTable
