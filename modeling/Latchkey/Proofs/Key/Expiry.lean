import Mathlib.Data.List.Perm.Basic
import Latchkey.Proofs.Key.Consistency
import Latchkey.Proofs.Time.Instant
/-!
# Expired records of a table

A scan for expired records finds as many as it may, and those longest expired; which of several records
with one expiry it takes is open. `OldestExpired` is all that is known of a scan elsewhere. When the
records that a scan has found are removed, as many fewer have expired and nothing else is different.
-/

namespace Latchkey

theorem KeyRecord.isExpiredAt_iff {r : KeyRecord} {now : Instant} :
    r.isExpiredAt now = true ↔ ∃ expiry, r.expiresAt = some expiry ∧ expiry ≤ now := by
  unfold isExpiredAt
  cases r.expiresAt <;> simp

/-- The entry under a key and all the others. -/
theorem Table.perm_cons_erase {κ α : Type} [DecidableEq κ] {t : Table κ α} {k : κ} {a : α}
    (h : t.get? k = some a) : t.entries.Perm ((k, a) :: (t.erase k).entries) := by
  obtain ⟨entries, hdistinct⟩ := t
  change find? k entries = some a at h
  change entries.Perm ((k, a) :: entries.filter fun e => e.1 ≠ k)
  induction entries with
  | nil => cases h
  | cons entry entries ih =>
      obtain ⟨first, b⟩ := entry
      obtain ⟨hfirst, hrest⟩ := List.nodup_cons.1 hdistinct
      rw [find?] at h
      by_cases he : first = k
      · rw [if_pos he] at h
        cases h
        subst he
        have hothers : ((first, a) :: entries).filter (fun e => e.1 ≠ first) = entries := by
          rw [List.filter_cons_of_neg (by simp), List.filter_eq_self]
          intro e hmem
          exact decide_eq_true fun he => hfirst (List.mem_map.2 ⟨e, hmem, he⟩)
        rw [hothers]
      · rw [if_neg he] at h
        rw [List.filter_cons_of_pos (by simpa using he)]
        exact ((ih hrest h).cons _).trans (.swap _ _ _)

namespace KeyTable

/-- How many records have an expiry of `cutoff` or before. -/
def countExpired (t : KeyTable) (cutoff : Instant) : Nat :=
  t.records.values.countP fun r => r.isExpiredAt cutoff

/-- The records are the longest expired ones by `cutoff`, all or `limit` of them. -/
structure OldestExpired (t : KeyTable) (cutoff : Instant) (limit : Nat) (ids : List KeyId) : Prop where
  nodup : ids.Nodup
  length_eq : ids.length = min limit (t.countExpired cutoff)
  expired : ∀ id ∈ ids, ∃ r, t.records.get? id = some r ∧ r.isExpiredAt cutoff = true
  oldest : ∀ id ∈ ids, ∀ id', id' ∉ ids → ∀ r r' expiry expiry', t.records.get? id = some r →
    t.records.get? id' = some r' → r.expiresAt = some expiry → r'.expiresAt = some expiry' →
    expiry' ≤ cutoff → expiry ≤ expiry'

variable {t : KeyTable} {cutoff : Instant}

/-! ### The scan -/

theorem mem_expiries {expiry : Instant} {id : KeyId} :
    (expiry, id) ∈ t.expiries cutoff ↔
      ∃ r, t.records.get? id = some r ∧ r.expiresAt = some expiry ∧ expiry ≤ cutoff := by
  simp only [expiries, List.mem_filterMap, Prod.exists, Table.get?_eq_some_iff, Option.map_eq_some_iff,
    Option.filter_eq_some_iff, decide_eq_true_eq, Prod.mk.injEq]
  constructor
  · rintro ⟨_, r, hr, _, ⟨hexpiry, hle⟩, rfl, rfl⟩
    exact ⟨r, hr, hexpiry, hle⟩
  · rintro ⟨r, hr, hexpiry, hle⟩
    exact ⟨id, r, hr, expiry, ⟨hexpiry, hle⟩, rfl, rfl⟩

theorem length_expiries : (t.expiries cutoff).length = t.countExpired cutoff := by
  unfold expiries countExpired Table.values
  rw [List.length_filterMap_eq_countP, List.countP_map]
  refine List.countP_congr fun e _ => ?_
  obtain ⟨id, r⟩ := e
  change ((r.expiresAt.filter (· ≤ cutoff)).map fun at' => (at', id)).isSome = true ↔
    r.isExpiredAt cutoff = true
  rw [Option.isSome_map, KeyRecord.isExpiredAt_iff, Option.isSome_iff_exists]
  simp [Option.filter_eq_some_iff]

/-- No record is found twice. -/
theorem nodup_ids_expiries : ((t.expiries cutoff).map Prod.snd).Nodup := by
  have hsublist : ((t.expiries cutoff).map Prod.snd).Sublist (t.records.entries.map Prod.fst) := by
    unfold expiries
    induction t.records.entries with
    | nil => exact .slnil
    | cons e entries ih =>
        obtain ⟨id, r⟩ := e
        rw [List.filterMap_cons]
        dsimp only
        cases r.expiresAt.filter (· ≤ cutoff) with
        | none => exact ih.cons id
        | some expiry => exact ih.cons_cons id
  exact t.records.distinct.sublist hsublist

theorem expiresBefore_trans (a b c : Instant × KeyId) (h : expiresBefore a b = true)
    (h' : expiresBefore b c = true) : expiresBefore a c = true := by
  simp only [expiresBefore, Bool.or_eq_true, Bool.and_eq_true, decide_eq_true_eq] at *
  rcases h with h | ⟨he, hle⟩ <;> rcases h' with h' | ⟨he', hle'⟩
  · exact .inl (Instant.lt_of_lt_of_le h (Instant.le_of_lt h'))
  · exact .inl (he' ▸ h)
  · exact .inl (he ▸ h')
  · exact .inr ⟨he.trans he', String.le_trans hle hle'⟩

theorem expiresBefore_total (a b : Instant × KeyId) :
    (expiresBefore a b || expiresBefore b a) = true := by
  simp only [expiresBefore, Bool.or_eq_true, Bool.and_eq_true, decide_eq_true_eq]
  by_cases he : a.1 = b.1
  · rcases String.le_total a.2.text b.2.text with hle | hle
    · exact .inl (.inr ⟨he, hle⟩)
    · exact .inr (.inr ⟨he.symm, hle⟩)
  · by_cases hlt : a.1 < b.1
    · exact .inl (.inl hlt)
    · refine .inr (.inl ?_)
      rw [Instant.lt_def] at *
      have hne : ¬(a.1.second = b.1.second ∧ a.1.nanos = b.1.nanos) :=
        fun h => he (Instant.ext h.1 h.2)
      omega

theorem le_of_expiresBefore {a b : Instant × KeyId} (h : expiresBefore a b = true) : a.1 ≤ b.1 := by
  simp only [expiresBefore, Bool.or_eq_true, Bool.and_eq_true, decide_eq_true_eq] at h
  rcases h with h | ⟨he, -⟩
  · exact Instant.le_of_lt h
  · exact he ▸ Instant.le_refl _

/-- A page of the expiries in order holds the longest expired records. -/
theorem expired_oldest (t : KeyTable) (cutoff : Instant) (limit : Nat) :
    t.OldestExpired cutoff limit (t.expired cutoff limit) := by
  let sorted := (t.expiries cutoff).mergeSort expiresBefore
  have hperm : sorted.Perm (t.expiries cutoff) := List.mergeSort_perm _ _
  have hordered : sorted.Pairwise fun a b => expiresBefore a b = true :=
    List.pairwise_mergeSort expiresBefore_trans expiresBefore_total _
  have hpage : ∀ id ∈ t.expired cutoff limit, ∃ expiry, (expiry, id) ∈ sorted.take limit := by
    intro id hid
    obtain ⟨⟨expiry, _⟩, hmem, rfl⟩ := List.mem_map.1 hid
    exact ⟨expiry, hmem⟩
  have hfound : ∀ {expiry id}, (expiry, id) ∈ sorted.take limit →
      ∃ r, t.records.get? id = some r ∧ r.expiresAt = some expiry ∧ expiry ≤ cutoff :=
    fun hmem => mem_expiries.1 (hperm.mem_iff.1 (List.mem_of_mem_take hmem))
  refine ⟨?_, ?_, fun id hid => ?_, ?_⟩
  · have hnodup : (sorted.map Prod.snd).Nodup := (hperm.map _).nodup_iff.2 nodup_ids_expiries
    exact hnodup.sublist ((List.take_sublist _ _).map _)
  · change ((sorted.take limit).map Prod.snd).length = _
    rw [List.length_map, List.length_take, hperm.length_eq, length_expiries]
  · obtain ⟨expiry, hmem⟩ := hpage id hid
    obtain ⟨r, hr, hexpiry, hle⟩ := hfound hmem
    exact ⟨r, hr, KeyRecord.isExpiredAt_iff.2 ⟨expiry, hexpiry, hle⟩⟩
  · intro id hid id' hid' r r' expiry expiry' hr hr' hexpiry hexpiry' hle'
    obtain ⟨first, hmem⟩ := hpage id hid
    obtain ⟨_, hr₀, hexpiry₀, -⟩ := hfound hmem
    rw [hr] at hr₀
    cases hr₀
    rw [hexpiry] at hexpiry₀
    cases hexpiry₀
    -- The other record has expired too, so it stands behind the page.
    have hbehind : (expiry', id') ∈ sorted.drop limit := by
      have hsorted : (expiry', id') ∈ sorted := hperm.mem_iff.2 (mem_expiries.2 ⟨r', hr', hexpiry', hle'⟩)
      rw [← List.take_append_drop limit sorted, List.mem_append] at hsorted
      exact hsorted.resolve_left fun hmem' => hid' (List.mem_map_of_mem hmem')
    rw [← List.take_append_drop limit sorted, List.pairwise_append] at hordered
    exact le_of_expiresBefore (hordered.2.2 _ hmem _ hbehind)

/-! ### Removing what was found -/

theorem countExpired_remove {id : KeyId} {r : KeyRecord} (hr : t.records.get? id = some r)
    (hexpired : r.isExpiredAt cutoff = true) :
    ((Write.remove id).apply t).countExpired cutoff + 1 = t.countExpired cutoff := by
  have hperm : t.records.values.Perm (r :: (t.records.erase id).values) :=
    (Table.perm_cons_erase hr).map Prod.snd
  unfold countExpired
  rw [Write.apply, remove_of_some hr, hperm.countP_eq, List.countP_cons, if_pos hexpired]
  rfl

/-- The table without the records. -/
def removeAll (ids : List KeyId) (t : KeyTable) : KeyTable := after (ids.map .remove) t

theorem removeAll_cons (id : KeyId) (ids : List KeyId) (t : KeyTable) :
    removeAll (id :: ids) t = removeAll ids ((Write.remove id).apply t) := rfl

theorem records_removeAll (ids : List KeyId) (t : KeyTable) (id : KeyId) :
    (removeAll ids t).records.get? id = if id ∈ ids then none else t.records.get? id := by
  induction ids generalizing t with
  | nil => simp [removeAll, after]
  | cons first ids ih =>
      rw [removeAll_cons, ih, records_remove]
      grind

theorem Consistent.removeAll (h : t.Consistent) (ids : List KeyId) : (removeAll ids t).Consistent := by
  induction ids generalizing t with
  | nil => exact h
  | cons id ids ih => exact ih (h.remove id)

theorem countExpired_removeAll {ids : List KeyId} (hnodup : ids.Nodup)
    (hexpired : ∀ id ∈ ids, ∃ r, t.records.get? id = some r ∧ r.isExpiredAt cutoff = true) :
    (removeAll ids t).countExpired cutoff + ids.length = t.countExpired cutoff := by
  induction ids generalizing t with
  | nil => rfl
  | cons id ids ih =>
      obtain ⟨hid, hrest⟩ := List.nodup_cons.1 hnodup
      obtain ⟨r, hr, hr'⟩ := hexpired id List.mem_cons_self
      have hothers := ih (t := (Write.remove id).apply t) hrest fun id' hid' => by
        obtain ⟨r', hstored, he⟩ := hexpired id' (List.mem_cons_of_mem id hid')
        have hne : id ≠ id' := fun heq => hid (heq ▸ hid')
        rw [records_remove, if_neg hne]
        exact ⟨r', hstored, he⟩
      have hone := countExpired_remove hr hr'
      rw [removeAll_cons, List.length_cons]
      omega

theorem countExpired_eq_zero_iff :
    t.countExpired cutoff = 0 ↔ ∀ id r, t.records.get? id = some r → r.isExpiredAt cutoff = false := by
  unfold countExpired Table.values
  rw [List.countP_eq_zero]
  simp only [List.mem_map, Prod.exists, forall_exists_index, and_imp, Bool.not_eq_true,
    Table.get?_eq_some_iff]
  constructor
  · intro h id r hr
    exact h r id r hr rfl
  · rintro h _ id r hr rfl
    exact h id r hr

end KeyTable

end Latchkey
