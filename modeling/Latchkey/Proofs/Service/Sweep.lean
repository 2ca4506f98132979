import Latchkey.Proofs.Key.Expiry
import Latchkey.Proofs.Service.World
/-!
# Sweeping until nothing is left to sweep

One sweep takes a page of the longest expired records, so a caller that sweeps again as long as it is told
that there may be more ends when all of them are gone, and not before. A last page that is full by chance
costs one sweep more, which finds nothing. Which of several records with one expiry a page takes is left to
the scan: `FindsOldest` is all that is asked of it.
-/

namespace Latchkey

open Act KeyTable

/-- What a sweep reports and what it makes of a table, with `b` records to a page. -/
structure KeyTable.Swept (t : KeyTable) (cutoff : Instant) (b : Nat) (result : SweepResult)
    (t' : KeyTable) : Prop where
  processed : result.processed = min b (t.countExpired cutoff)
  removed : result.removed = min b (t.countExpired cutoff)
  failed : result.failed = 0
  full_iff : result.mayRemain = true ↔ result.processed = b
  /-- As many as were reported are gone. -/
  left : t'.countExpired cutoff = t.countExpired cutoff - min b (t.countExpired cutoff)
  untouched : ∀ id r, t'.records.get? id = some r → t.records.get? id = some r
  only_expired : ∀ id r, t.records.get? id = some r → t'.records.get? id = none →
    r.isExpiredAt cutoff = true
  oldest : ∀ id id' r r' expiry expiry', t.records.get? id = some r → t'.records.get? id = none →
    t'.records.get? id' = some r' → r.expiresAt = some expiry → r'.expiresAt = some expiry' →
    expiry' ≤ cutoff → expiry ≤ expiry'
  consistent : t'.Consistent

variable {t t' : KeyTable} {cutoff : Instant}

namespace KeyTable

theorem OldestExpired.swept {b : Nat} {ids : List KeyId} (h : t.OldestExpired cutoff b ids)
    (ht : t.Consistent) :
    t.Swept cutoff b ⟨ids.length, ids.length, 0, ids.length = b⟩ (removeAll ids t) where
  processed := h.length_eq
  removed := h.length_eq
  failed := rfl
  full_iff := decide_eq_true_iff
  left := by
    have hcount := countExpired_removeAll h.nodup h.expired
    have hlength := h.length_eq
    omega
  untouched := by
    intro id r hr
    rw [records_removeAll] at hr
    split at hr
    · cases hr
    · exact hr
  only_expired := by
    intro id r hr hgone
    rw [records_removeAll] at hgone
    split at hgone
    · rename_i hmem
      obtain ⟨r₀, hr₀, hexpired⟩ := h.expired id hmem
      rw [hr] at hr₀
      cases hr₀
      exact hexpired
    · rw [hr] at hgone
      cases hgone
  oldest := by
    intro id id' r r' expiry expiry' hr hgone hr' hexpiry hexpiry' hle
    rw [records_removeAll] at hgone hr'
    split at hr'
    · cases hr'
    · rename_i hleft
      split at hgone
      · rename_i hmem
        exact h.oldest id hmem id' hleft r r' expiry expiry' hr hr' hexpiry hexpiry' hle
      · rw [hr] at hgone
        cases hgone
  consistent := ht.removeAll ids

/-- A sweep does not touch the records that have not expired. -/
theorem Swept.unexpired_eq {b : Nat} {result : SweepResult} (h : t.Swept cutoff b result t')
    (id : KeyId) :
    (t'.records.get? id).filter (fun r => !r.isExpiredAt cutoff) =
      (t.records.get? id).filter fun r => !r.isExpiredAt cutoff := by
  cases hr' : t'.records.get? id with
  | some r =>
      rw [h.untouched id r hr']
  | none =>
      cases hr : t.records.get? id with
      | none => rfl
      | some r =>
          rw [Option.filter_some, h.only_expired id r hr hr']
          rfl

theorem unexpired_eq_of_countExpired_eq_zero (h : t.countExpired cutoff = 0) (id : KeyId) :
    t.records.get? id = (t.records.get? id).filter fun r => !r.isExpiredAt cutoff := by
  cases hr : t.records.get? id with
  | none => rfl
  | some r =>
      rw [Option.filter_some, countExpired_eq_zero_iff.1 h id r hr]
      rfl

end KeyTable

namespace Service

variable {σ : Type}

/-- The service with another way to scan for expired records. -/
abbrev scanning (svc : Service σ) (scan : Instant → Nat → Act σ Error (List KeyId)) : Service σ :=
  { svc with store := { svc.store with findExpired := scan } }

/-- The scan finds the longest expired records of a table, in whatever order those with one expiry come. -/
def FindsOldest (table : Lens σ KeyTable) (scan : Instant → Nat → Act σ Error (List KeyId)) : Prop :=
  ∀ cutoff limit s, ∃ ids, scan cutoff limit s = (.ok ids, s) ∧
    (table.get s).OldestExpired cutoff limit ids

/-- The records that a sweep finds in a table. -/
def page (svc : Service σ) (table : Lens σ KeyTable) (o : SweepOptions) (s : σ) : List KeyId :=
  (table.get s).expired (o.olderThan.getD (svc.now s)) o.batch

/-- The sweeps of a caller that goes on as long as there may be more. -/
inductive SweepsOut (svc : Service σ) (o : SweepOptions) : σ → List SweepResult → σ → Prop where
  | last {s s' : σ} {result : SweepResult} (h : svc.sweep o s = (.ok result, s'))
    (hlast : result.mayRemain = false) : SweepsOut svc o s [result] s'
  | again {s s' s'' : σ} {result : SweepResult} {results : List SweepResult}
    (h : svc.sweep o s = (.ok result, s')) (hagain : result.mayRemain = true)
    (hrest : SweepsOut svc o s' results s'') : SweepsOut svc o s (result :: results) s''

variable {svc : Service σ} {table : Lens σ KeyTable} {o : SweepOptions} {s : σ}

theorem SweepsOut.unique {results results' : List SweepResult} {s' s'' : σ}
    (h : svc.SweepsOut o s results s') (h' : svc.SweepsOut o s results' s'') :
    results = results' ∧ s' = s'' := by
  induction h generalizing results' with
  | last h hlast =>
      cases h' with
      | last h' _ =>
          cases h.symm.trans h'
          exact ⟨rfl, rfl⟩
      | again h' hagain _ =>
          cases h.symm.trans h'
          rw [hlast] at hagain
          cases hagain
  | again h hagain _ ih =>
      cases h' with
      | last h' hlast =>
          cases h.symm.trans h'
          rw [hlast] at hagain
          cases hagain
      | again h' _ hrest' =>
          cases h.symm.trans h'
          obtain ⟨rfl, rfl⟩ := ih hrest'
          exact ⟨rfl, rfl⟩

/-- To scan in another way does not change how records are removed. -/
theorem removeEach_scanning (svc : Service σ) (scan : Instant → Nat → Act σ Error (List KeyId))
    (result : SweepResult) (ids : List KeyId) :
    (svc.scanning scan).removeEach result ids = svc.removeEach result ids := by
  induction ids generalizing result with
  | nil => rfl
  | cons id ids ih =>
      unfold removeEach
      simp only [ih]
      rfl

/-- What a scan has found is removed. -/
theorem sweep_of_found {ids : List KeyId}
    (hfound : svc.store.findExpired (o.olderThan.getD (svc.now s)) o.batch s = (.ok ids, s)) :
    svc.sweep o s = svc.removeEach ⟨ids.length, 0, 0, ids.length = o.batch⟩ ids s := by
  unfold sweep
  cases hgiven : o.olderThan with
  | some cutoff =>
      rw [hgiven, Option.getD_some] at hfound
      dsimp only
      rw [pure_bind, bind_ok (mapError_ok hfound)]
  | none =>
      rw [hgiven, Option.getD_none] at hfound
      dsimp only
      rw [bind_ok (svc.clock_apply s), bind_ok (mapError_ok hfound)]

namespace OnTable

variable (h : svc.OnTable table)

include h

theorem findsOldest : FindsOldest table svc.store.findExpired := by
  intro cutoff limit s
  rw [h.store_eq]
  exact ⟨_, KeyStore.memory_findExpired h.lawful cutoff limit s, expired_oldest _ _ _⟩

/-- Records that are stored are all removed, one after another. -/
theorem removeEach_apply (result : SweepResult) {ids : List KeyId} (hnodup : ids.Nodup)
    (hstored : ∀ id ∈ ids, ∃ r, (table.get s).records.get? id = some r) :
    ∃ s', svc.removeEach result ids s = (.ok { result with removed := result.removed + ids.length }, s') ∧
      table.get s' = removeAll ids (table.get s) := by
  induction ids generalizing s result with
  | nil => exact ⟨s, rfl, rfl⟩
  | cons id ids ih =>
      obtain ⟨hid, hrest⟩ := List.nodup_cons.1 hnodup
      obtain ⟨r, hr⟩ := hstored id List.mem_cons_self
      have hremove := h.remove_store_apply hr
      obtain ⟨s₁, htrack, hs₁⟩ := h.track_apply (.removed id true) (svc.store.remove id s).2
      have hs₁ : table.get s₁ = (Write.remove id).apply (table.get s) :=
        hs₁.trans (h.table_of_remove id s)
      obtain ⟨s', hrun, hs'⟩ := ih (s := s₁) { result with removed := result.removed + 1 } hrest
        fun id' hid' => by
          obtain ⟨r', hr'⟩ := hstored id' (List.mem_cons_of_mem id hid')
          have hne : id ≠ id' := fun heq => hid (heq ▸ hid')
          rw [hs₁, records_remove, if_neg hne]
          exact ⟨r', hr'⟩
      refine ⟨s', ?_, ?_⟩
      · unfold removeEach
        rw [hremove] at htrack
        rw [bind_ok (attempt_ok hremove)]
        dsimp only
        rw [bind_ok htrack, hrun, List.length_cons, Nat.add_assoc, Nat.add_comm 1]
      · rw [hs', hs₁, removeAll_cons]

theorem sweep_apply (o : SweepOptions) (s : σ) :
    svc.sweep o s =
      svc.removeEach ⟨(svc.page table o s).length, 0, 0, (svc.page table o s).length = o.batch⟩
        (svc.page table o s) s := by
  refine sweep_of_found ?_
  rw [h.store_eq]
  exact KeyStore.memory_findExpired h.lawful _ o.batch s

section Scan

variable {scan : Instant → Nat → Act σ Error (List KeyId)} (hscan : FindsOldest table scan)

include hscan

/-- Of all expired records a sweep removes a page of the oldest. -/
theorem sweep_swept (hs : (table.get s).Consistent) (o : SweepOptions) :
    ∃ result s', (svc.scanning scan).sweep o s = (.ok result, s') ∧
      (table.get s).Swept (o.olderThan.getD (svc.now s)) (max 1 (min 1000 o.batchSize)) result
        (table.get s') := by
  obtain ⟨ids, hfound, holdest⟩ := hscan (o.olderThan.getD (svc.now s)) o.batch s
  obtain ⟨s', hrun, hs'⟩ := h.removeEach_apply ⟨ids.length, 0, 0, ids.length = o.batch⟩ holdest.nodup
    fun id hid => (holdest.expired id hid).imp fun _ hr => hr.1
  rw [← removeEach_scanning svc scan] at hrun
  refine ⟨_, s', (sweep_of_found hfound).trans hrun, ?_⟩
  rw [hs', Nat.zero_add]
  exact holdest.swept hs

/-- The clock stands still during a sweep, if to report an event does not move it. -/
theorem sweep_keeps_now (htrack : ∀ e, (svc.sink.track e).Keeps svc.now) (o : SweepOptions) :
    ((svc.scanning scan).sweep o).Keeps svc.now := by
  intro s
  obtain ⟨ids, hfound, -⟩ := hscan (o.olderThan.getD (svc.now s)) o.batch s
  rw [sweep_of_found hfound, removeEach_scanning]
  refine removeEach_within (fun id => ?_) (fun e => (htrack e).ignore) _ _ s
  rw [h.store_eq]
  exact Keeps.onPart h.now_set _

theorem sweepsOut (hs : (table.get s).Consistent) (o : SweepOptions)
    (htrack : o.olderThan = none → ∀ e, (svc.sink.track e).Keeps svc.now) {cutoff : Instant}
    (hcutoff : o.olderThan.getD (svc.now s) = cutoff) :
    ∃ results s', (svc.scanning scan).SweepsOut o s results s' ∧
      results.length = (table.get s).countExpired cutoff / max 1 (min 1000 o.batchSize) + 1 ∧
      (∀ id, (table.get s').records.get? id =
        ((table.get s).records.get? id).filter fun r => !r.isExpiredAt cutoff) ∧
      (table.get s').Consistent := by
  -- By induction on the number of expired records: a page that is full leaves fewer of them.
  induction hn : (table.get s).countExpired cutoff using Nat.strongRecOn generalizing s with
  | ind n ih =>
      obtain ⟨result, s₁, hrun, hswept⟩ := h.sweep_swept hscan hs o
      rw [hcutoff] at hswept
      have hleft := hswept.left
      have hprocessed := hswept.processed
      rw [hn] at hleft hprocessed
      by_cases hfull : max 1 (min 1000 o.batchSize) ≤ n
      · have hagain : result.mayRemain = true := by
          rw [hswept.full_iff]
          omega
        have hcutoff₁ : o.olderThan.getD (svc.now s₁) = cutoff := by
          cases hgiven : o.olderThan with
          | some at' =>
              rw [hgiven] at hcutoff
              exact hcutoff
          | none =>
              rw [hgiven] at hcutoff
              have hnow := (h.sweep_keeps_now hscan (htrack hgiven) o).view_eq hrun
              exact hnow.trans hcutoff
        obtain ⟨results, s', hrest, hlength, hrecords, hs'⟩ :=
          ih _ (by omega) hswept.consistent hcutoff₁ rfl
        refine ⟨result :: results, s', .again hrun hagain hrest, ?_, fun id => ?_, hs'⟩
        · rw [List.length_cons, hlength, hleft, Nat.min_eq_left hfull,
            Nat.div_eq_sub_div (by omega) hfull]
        · rw [hrecords, hswept.unexpired_eq]
      · have hlast : result.mayRemain = false := by
          rw [Bool.eq_false_iff, ne_eq, hswept.full_iff]
          omega
        have hnone : (table.get s₁).countExpired cutoff = 0 := by omega
        refine ⟨[result], s₁, .last hrun hlast, ?_, fun id => ?_, hswept.consistent⟩
        · rw [Nat.div_eq_of_lt (by omega)]
          rfl
        · rw [unexpired_eq_of_countExpired_eq_zero hnone, hswept.unexpired_eq]

/-- A sweep removes the oldest expired records, a page of them, and says whether there may be more. To
sweep until there are no more takes one sweep for each full page and one to see the end, and leaves
exactly the records that have not expired. It does not matter in which order the scan finds records with
one expiry. -/
theorem sweeping_removes_expired (hs : (table.get s).Consistent) (o : SweepOptions) :
    (∃ result s', (svc.scanning scan).sweep o s = (.ok result, s') ∧
      (table.get s).Swept (o.olderThan.getD (svc.now s)) (max 1 (min 1000 o.batchSize)) result
        (table.get s')) ∧
    ((o.olderThan = none → ∀ e, (svc.sink.track e).Keeps svc.now) →
      ∃ results s', (svc.scanning scan).SweepsOut o s results s' ∧
        (∀ results' s'', (svc.scanning scan).SweepsOut o s results' s'' →
          results' = results ∧ s'' = s') ∧
        results.length = (table.get s).countExpired (o.olderThan.getD (svc.now s)) /
          max 1 (min 1000 o.batchSize) + 1 ∧
        (∀ id, (table.get s').records.get? id = ((table.get s).records.get? id).filter
          fun r => !r.isExpiredAt (o.olderThan.getD (svc.now s))) ∧
        (table.get s').Consistent) := by
  refine ⟨h.sweep_swept hscan hs o, fun htrack => ?_⟩
  obtain ⟨results, s', hrun, hlength, hrecords, hs'⟩ := h.sweepsOut hscan hs o htrack rfl
  exact ⟨results, s', hrun, fun _ _ hrun' => hrun'.unique hrun, hlength, hrecords, hs'⟩

end Scan

end OnTable

/-- A page that the one expired record fills is followed by an empty one. -/
theorem full_page_swept_again :
    let svc := World.service [] World.sameKey
    let issued := (svc.create { expiresAt := some .epoch } {}).2
    ∃ results s', svc.SweepsOut { batchSize := 0 } issued results s' ∧ results.length = 2 ∧
      s'.keys.records.get? World.firstId = none := by
  intro svc issued
  have h := World.service_onTable [] World.sameKey
  have hissued := World.consistent_of_create World.sameKey { expiresAt := some .epoch }
  obtain ⟨results, s', hrun, -, hlength, hrecords, -⟩ :=
    (h.sweeping_removes_expired h.findsOldest hissued { batchSize := 0 }).2 fun _ _ _ => rfl
  have hcount : (World.keysPart.get issued).countExpired (svc.now issued) = 1 := by decide
  exact ⟨results, s', hrun, hlength.trans (congrArg (· / 1 + 1) hcount), hrecords World.firstId⟩

end Service

end Latchkey
