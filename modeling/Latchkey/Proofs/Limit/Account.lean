import Latchkey.Proofs.Limit.BucketThread
import Latchkey.Proofs.Limit.WindowThread
/-!
# The account of a subject

A subject has a window and a bucket in every partition, and together they are its account. Two tables
agree on an account if the threads of its windows and buckets have come to the same in both of them.
Requests about other subjects can be made to either table alone without an end to this, and a request about
the subject that is made to both is answered in the same way.
-/

namespace Latchkey.RateTable

open Act StoredBucket

namespace Thread

variable {κ ω : Type} {thread : Thread κ ω} {R : Instant → ω → RateTable Float → Prop}
  {fit : Instant → ω → κ → Prop} {β : Type} {shown : Entry → β} {expected : ω × Reply → β}
  {now later : Instant} {q : Request} {run : List (Instant × Request)} {calls : List (Instant × κ)}
  {t t' : RateTable Float}

/-- In both tables the thread has come to one state, and the calls that follow fit that state. -/
def Alike (thread : Thread κ ω) (R : Instant → ω → RateTable Float → Prop)
    (fit : Instant → ω → κ → Prop) (now : Instant) (calls : List (Instant × κ))
    (t t' : RateTable Float) : Prop :=
  ∃ w, R now w t ∧ R now w t' ∧ thread.Fits fit w calls

namespace Follows

variable (h : thread.Follows R fit shown expected)

include h

theorem alike_mono (hlater : now ≤ later) (halike : thread.Alike R fit now calls t t') :
    thread.Alike R fit later calls t t' := by
  obtain ⟨w, ht, ht', hfits⟩ := halike
  exact ⟨w, h.mono ht hlater, h.mono ht' hlater, hfits⟩

theorem alike_other (hown : thread.own q = none)
    (halike : thread.Alike R fit now (thread.calls ((now, q) :: run)) t t') :
    thread.Alike R fit now (thread.calls run) (q.act now t).2 t' := by
  obtain ⟨w, ht, ht', hfits⟩ := halike
  rw [calls_of_other hown] at hfits
  exact ⟨w, h.other hown ht, ht', hfits⟩

theorem alike_cons (hnow : now ≤ .minuteBeforeLatest)
    (halike : thread.Alike R fit now (thread.calls ((now, q) :: run)) t t') :
    thread.Alike R fit now (thread.calls run) (q.act now t).2 (q.act now t').2 ∧
      (thread.own q ≠ none → shown (q.act now t) = shown (q.act now t')) := by
  obtain ⟨w, ht, ht', hfits⟩ := halike
  cases hown : thread.own q with
  | none =>
      rw [calls_of_other hown] at hfits
      exact ⟨⟨w, h.other hown ht, h.other hown ht', hfits⟩, fun hne => absurd rfl hne⟩
  | some c =>
      rw [calls_of_own hown] at hfits
      obtain ⟨hshown, hstep⟩ := h.own hown hnow hfits.1 ht
      obtain ⟨hshown', hstep'⟩ := h.own hown hnow hfits.1 ht'
      exact ⟨⟨_, hstep, hstep', hfits.2⟩, fun _ => hshown.trans hshown'.symm⟩

end Follows

end Thread

/-- A request about a subject is one about its window or its bucket. -/
theorem Request.exists_call {q : Request} {subject : String × String} (h : q.subject? = some subject) :
    (∃ c, q.windowCall? = some c) ∨ ∃ c, q.bucketCall? = some c := by
  cases q with
  | increment p x l => exact .inl ⟨_, rfl⟩
  | check p x l => exact .inl ⟨_, rfl⟩
  | consume p x l cost => exact .inr ⟨_, rfl⟩
  | reset p x => exact .inl ⟨_, rfl⟩
  | purge => cases h

/-- The requests about a bucket of the subject all recover, if the table is what they begin with. -/
def AccountRecovers (subject : String) (run : List (Instant × Request)) (t : RateTable Float) : Prop :=
  ∀ partition, (bucketThread partition subject).Fits Recovers
    (t.buckets.get? (partition ++ ":" ++ subject)) ((bucketThread partition subject).calls run)

theorem accountRecovers_of_windows {subject : String} {run : List (Instant × Request)}
    (h : ∀ call ∈ run, call.2.bucketCall? = none) (t : RateTable Float) :
    AccountRecovers subject run t := by
  intro partition
  have hcalls : (bucketThread partition subject).calls run = [] := by
    refine List.filterMap_eq_nil_iff.2 fun call hcall => ?_
    cases hown : (bucketThread partition subject).own call.2 with
    | none => rfl
    | some c =>
        have hc := (bucketThread_own_iff.1 hown).2.2
        rw [h call hcall] at hc
        cases hc
  rw [hcalls]
  trivial

/-- The two tables agree on the account, and the requests about it that follow recover. -/
structure Agree (subject : String) (now : Instant) (run : List (Instant × Request))
    (t t' : RateTable Float) : Prop where
  windows : ∀ partition, (windowThread partition subject).Alike (KeepsWindow partition subject)
    (fun _ _ _ => True) now ((windowThread partition subject).calls run) t t'
  buckets : ∀ partition, (bucketThread partition subject).Alike (KeepsBucket partition subject)
    Recovers now ((bucketThread partition subject).calls run) t t'

variable {subject partition : String} {now later : Instant} {q : Request}
  {run : List (Instant × Request)} {t t' : RateTable Float}

theorem agree_self (now : Instant) (h : AccountRecovers subject run t) :
    Agree subject now run t t where
  windows p := by
    have hkept : KeepsWindow p subject now (t.windows.get? (p ++ ":" ++ subject)) t := by
      intro key hkey
      rw [(storageKey_eq_ok_iff.1 hkey).2]
      exact .inl rfl
    exact ⟨_, hkept, hkept, (windowThread p subject).fits_true _ _⟩
  buckets p := by
    have hkept : KeepsBucket p subject now (t.buckets.get? (p ++ ":" ++ subject)) t := by
      intro key hkey
      rw [(storageKey_eq_ok_iff.1 hkey).2]
      exact .inl rfl
    exact ⟨_, hkept, hkept, h p⟩

namespace Agree

theorem mono (h : Agree subject now run t t') (hlater : now ≤ later) :
    Agree subject later run t t' where
  windows p := (windowThread_follows p subject).alike_mono hlater (h.windows p)
  buckets p := (bucketThread_follows p subject).alike_mono hlater (h.buckets p)

/-- A request that is not about the subject, to one of the tables. -/
theorem other (h : Agree subject now ((now, q) :: run) t t') (hq : ∀ p, q.subject? ≠ some (p, subject)) :
    Agree subject now run (q.act now t).2 t' where
  windows p :=
    (windowThread_follows p subject).alike_other (if_neg fun hown => hq p hown.2) (h.windows p)
  buckets p :=
    (bucketThread_follows p subject).alike_other (if_neg fun hown => hq p hown.2) (h.buckets p)

/-- One request, to both tables. -/
theorem cons (h : Agree subject now ((now, q) :: run) t t') (hnow : now ≤ .minuteBeforeLatest) :
    Agree subject now run (q.act now t).2 (q.act now t').2 where
  windows p := ((windowThread_follows p subject).alike_cons hnow (h.windows p)).1
  buckets p := ((bucketThread_follows p subject).alike_cons hnow (h.buckets p)).1

theorem reply_eq (h : Agree subject now ((now, q) :: run) t t') (hnow : now ≤ .minuteBeforeLatest)
    (hq : q.subject? = some (partition, subject)) : (q.act now t).1 = (q.act now t').1 := by
  cases hrefusal : q.refusal? with
  | some f => rw [Request.act_of_refusal? hrefusal, Request.act_of_refusal? hrefusal]
  | none =>
      rcases Request.exists_call hq with ⟨c, hcall⟩ | ⟨c, hcall⟩
      · refine ((windowThread_follows partition subject).alike_cons hnow (h.windows partition)).2 ?_
        rw [windowThread_own_iff.2 ⟨hrefusal, hq, hcall⟩]
        exact nofun
      · have hseen := ((bucketThread_follows partition subject).alike_cons hnow (h.buckets partition)).2
        rw [bucketThread_own_iff.2 ⟨hrefusal, hq, hcall⟩] at hseen
        exact (Prod.ext_iff.1 (hseen nofun)).1

end Agree

end Latchkey.RateTable
