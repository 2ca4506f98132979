import Mathlib.Logic.Function.Basic
import Latchkey.Proofs.Limit.BucketThread
/-!
# What all buckets of a table have in common

Whatever is asked of a table, and whatever the clock shows, the buckets in it were put there by requests
for tokens. So what such a request makes true of the bucket that it writes, under the limit that it comes
with, is true of every bucket of every table that begins empty, under the limit that wrote it last.
-/

namespace Latchkey.RateTable

open Act StoredBucket

variable {α : Type} {t t' : RateTable α} {now : Instant} {partition subject key : String}

/-- A bucket is left as it is, or it is gone. -/
def Remains (b b' : Option (StoredBucket α)) : Prop := b' = b ∨ b' = none

instance : IsPreorder (Option (StoredBucket α)) Remains where
  refl _ := .inl rfl
  trans b b' b'' h h' := by
    rcases h' with rfl | rfl
    · exact h
    · exact .inr rfl

theorem remains_of_leftAlone (b b' : Option (StoredBucket α)) (h : LeftAlone now b b') : Remains b b' :=
  h.imp_right And.left

theorem buckets_prune_remain (now : Instant) (key : String) :
    PrunesWithin now (fun t : RateTable α => t.buckets.get? key) Remains where
  drop t := remains_of_leftAlone _ _ ((buckets_prunesWithin now key).drop t)
  next _ _ := rfl

theorem check_remains (l : WindowLimit) (key : String) :
    (check partition subject l now : Act (RateTable α) Error LimitResult).Within
      (fun t => t.buckets.get? key) Remains :=
  check_within

theorem reset_remains (key : String) :
    (reset partition subject : Act (RateTable α) Error Unit).Within (fun t => t.buckets.get? key)
      Remains := by
  refine storageKeyOf_bind_within fun key' _ => Within.update fun t => ?_
  dsimp only
  rw [Table.get?_erase]
  split
  · exact .inr rfl
  · exact .inl rfl

section Consume

variable [Amount α] {l : BucketLimit α} {cost : α}

/-- A request that is answered has charged what its pruning left of the bucket. -/
theorem get?_of_consumeFit {r : LimitResult} (hkey : storageKey partition subject = .ok key)
    (h : consumeFit partition subject l cost now t = (.ok r, t')) :
    ∃ b, Remains (t.buckets.get? key) b ∧
      t'.buckets.get? key = some ⟨(Bucket.consume (b.map (·.bucket)) now l cost).1,
        (Bucket.consume (b.map (·.bucket)) now l cost).1.fullAt l⟩ ∧
      ∀ key' ≠ key, Remains (t.buckets.get? key') (t'.buckets.get? key') := by
  have hprune := fun key' => (buckets_prune_remain now key').pruneIfDue t
  rcases pruneIfDue_cases now t with ⟨t₁, ht₁⟩ | ⟨-, t₁, ht₁⟩
  · rw [ht₁] at hprune
    rw [consumeFit_apply hkey ht₁] at h
    cases h
    refine ⟨_, hprune key, (Table.get?_insert ..).trans (if_pos rfl), fun key' hne => ?_⟩
    dsimp only
    rw [Table.get?_insert, if_neg hne.symm]
    exact hprune key'
  · unfold consumeFit storageKeyOf at h
    rw [hkey] at h
    dsimp only at h
    rw [pure_bind, bind_error ht₁] at h
    cases h

theorem remains_of_consumeFit_error {e : Failure Error}
    (h : consumeFit partition subject l cost now t = (.error e, t')) (key : String) :
    Remains (t.buckets.get? key) (t'.buckets.get? key) := by
  have hprune := (buckets_prune_remain now key).pruneIfDue t
  unfold consumeFit storageKeyOf at h
  cases hkey : storageKey partition subject with
  | error f =>
      rw [hkey] at h
      cases h
      exact refl_of _ _
  | ok key' =>
      rw [hkey] at h
      dsimp only at h
      rw [pure_bind] at h
      rcases pruneIfDue_cases now t with ⟨t₁, ht₁⟩ | ⟨-, t₁, ht₁⟩
      · rw [bind_ok ht₁] at h
        cases h
      · rw [ht₁] at hprune
        rw [bind_error ht₁] at h
        cases h
        exact hprune

end Consume

/-- The tables that requests lead to from the empty one, and the limit under which the bucket of each key
was written last. A limit or a cost that is not fit is refused before the table is looked at. -/
inductive Reached [Amount α] : RateTable α → (String → Option (BucketLimit α)) → Prop where
  | empty : Reached {} fun _ => none
  | increment {t written} (h : Reached t written) (partition subject : String) (l : WindowLimit)
    (now : Instant) : Reached (increment partition subject l now t).2 written
  | check {t written} (h : Reached t written) (partition subject : String) (l : WindowLimit)
    (now : Instant) : Reached (check partition subject l now t).2 written
  | consume {t t' written partition subject key l cost now r} (h : Reached t written)
    (hfit : l.fault? = none) (hcost : BucketLimit.isCost cost = true)
    (hkey : storageKey partition subject = .ok key)
    (hanswer : consumeFit partition subject l cost now t = (.ok r, t')) :
    Reached t' (Function.update written key (some l))
  | consume_error {t t' written partition subject l cost now e} (h : Reached t written)
    (hanswer : consumeFit partition subject l cost now t = (.error e, t')) : Reached t' written
  | reset {t written} (h : Reached t written) (partition subject : String) :
    Reached (reset partition subject t).2 written
  | purge {t written} (h : Reached t written) (now : Instant) :
    Reached ((prune now : Act (RateTable α) Error Nat) t).2 written

/-- What every request for tokens makes true of the bucket that it writes is true of all buckets. -/
theorem Reached.invariant [Amount α] {P : BucketLimit α → Bucket α → Prop}
    (hstep : ∀ {l cost}, l.fault? = none → BucketLimit.isCost cost = true →
      ∀ (b : Option (Bucket α)) (now : Instant),
        (∀ v, b = some v → ∃ l', l'.fault? = none ∧ P l' v) → P l (Bucket.consume b now l cost).1)
    {written : String → Option (BucketLimit α)} (h : Reached t written) {key : String}
    {v : StoredBucket α} (hv : t.buckets.get? key = some v) :
    ∃ l, written key = some l ∧ l.fault? = none ∧ P l v.bucket := by
  -- A bucket that was not written by the last request was there before it.
  have hkeep : ∀ {t t' : RateTable α} {key}, Remains (t.buckets.get? key) (t'.buckets.get? key) →
      ∀ {v}, t'.buckets.get? key = some v → t.buckets.get? key = some v := by
    intro t t' key hremains v hv
    rcases hremains with hsame | hgone
    · rw [← hsame, hv]
    · rw [hgone] at hv
      cases hv
  induction h generalizing key v with
  | empty => cases hv
  | increment h partition subject l now ih =>
      exact ih (hkeep ((buckets_prune_remain now key).increment (fun _ _ _ _ => refl_of _ _) _) hv)
  | check h partition subject l now ih => exact ih (hkeep (check_remains l key _) hv)
  | consume_error h hanswer ih => exact ih (hkeep (remains_of_consumeFit_error hanswer key) hv)
  | reset h partition subject ih => exact ih (hkeep (reset_remains key _) hv)
  | purge h now ih => exact ih (hkeep ((buckets_prune_remain now key).prune _) hv)
  | @consume t t' written partition subject key' l cost now r h hfit hcost hkey hanswer ih =>
      obtain ⟨b, hb, hcharged, hothers⟩ := get?_of_consumeFit hkey hanswer
      rcases eq_or_ne key key' with rfl | hne
      · rw [hcharged] at hv
        cases hv
        refine ⟨l, Function.update_self .., hfit, hstep hfit hcost _ now fun v hv => ?_⟩
        obtain ⟨stored, hstored, rfl⟩ := Option.map_eq_some_iff.1 hv
        rcases hb with rfl | rfl
        · obtain ⟨l', -, hl'⟩ := ih hstored
          exact ⟨l', hl'⟩
        · cases hstored
      · rw [Function.update_of_ne hne]
        exact ih (hkeep (hothers key hne) hv)

end Latchkey.RateTable
