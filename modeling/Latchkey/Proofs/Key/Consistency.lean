import Mathlib.Data.List.Induction
import Latchkey.Proofs.Key.Write
/-!
# Consistency of a table of key records

A table is consistent if every record stands under its own identifier, no two records share a
digest, and the index holds exactly the digests of the records. Creating, spending, revoking and
removing keep a table consistent whatever they are given. An update does so unless it clashes: unless
it moves a record to a digest that another record has. Such an update leaves an inconsistent table,
so the tables of a run are all consistent exactly if none of its updates clashes.
-/

namespace Latchkey.KeyTable

structure Consistent (t : KeyTable) : Prop where
  id_eq : ∀ {id r}, t.records.get? id = some r → r.id = id
  digest_inj : ∀ {id id' r r'}, t.records.get? id = some r → t.records.get? id' = some r' →
    r.digest = r'.digest → id = id'
  index_iff : ∀ {d id}, t.index.get? d = some id ↔ ∃ r, t.records.get? id = some r ∧ r.digest = d

/-- Every record stands under its own identifier, which no update can change, be it one that clashes. -/
structure OwnIds (t : KeyTable) : Prop where
  id_eq : ∀ {id r}, t.records.get? id = some r → r.id = id

/-- The update puts a stored record under the digest of another one. -/
def Clashes (t : KeyTable) (r : KeyRecord) : Prop :=
  (∃ old, t.records.get? r.id = some old) ∧
    ∃ id r', id ≠ r.id ∧ t.records.get? id = some r' ∧ r'.digest = r.digest

variable {t : KeyTable}

theorem Consistent.ownIds (h : t.Consistent) : t.OwnIds := ⟨h.id_eq⟩

/-- That digests are distinct follows from the index, which has one identifier for each. -/
theorem consistent_of (hid : ∀ {id r}, t.records.get? id = some r → r.id = id)
    (hindex : ∀ {d id}, t.index.get? d = some id ↔ ∃ r, t.records.get? id = some r ∧ r.digest = d) :
    t.Consistent where
  id_eq := hid
  digest_inj := by
    intro id id' r r' hr hr' hdigest
    have h := hindex.2 ⟨r, hr, hdigest⟩
    rw [hindex.2 ⟨r', hr', rfl⟩] at h
    exact (Option.some.inj h).symm
  index_iff := hindex

theorem consistent_empty : Consistent {} := by
  refine consistent_of ?_ ?_
  · intro id r hr
    cases hr
  · intro d id
    constructor
    · intro h
      cases h
    · rintro ⟨r, hr, -⟩
      cases hr

/-! ### What a consistent table answers -/

theorem findByDigest_eq_iff {d : String} {r : Option KeyRecord} :
    findByDigest d t = (.ok r, t) ↔ t.lookup d = r := by
  constructor
  · intro h
    exact Except.ok.inj (Prod.mk.inj h).1
  · intro h
    rw [← h]
    rfl

theorem Consistent.lookup_eq_some_iff (h : t.Consistent) {d : String} {r : KeyRecord} :
    t.lookup d = some r ↔ t.records.get? r.id = some r ∧ r.digest = d := by
  unfold lookup
  rw [Option.bind_eq_some_iff]
  constructor
  · rintro ⟨id, hid, hr⟩
    obtain ⟨r', hr', hd⟩ := h.index_iff.1 hid
    rw [hr] at hr'
    cases hr'
    rw [h.id_eq hr]
    exact ⟨hr, hd⟩
  · rintro ⟨hr, hd⟩
    exact ⟨r.id, h.index_iff.2 ⟨r, hr, hd⟩, hr⟩

theorem Consistent.lookup_eq_none_iff (h : t.Consistent) {d : String} :
    t.lookup d = none ↔ ∀ id r, t.records.get? id = some r → r.digest ≠ d := by
  constructor
  · intro hnone id r hr hd
    have hsome := h.lookup_eq_some_iff.2 ⟨(h.id_eq hr).symm ▸ hr, hd⟩
    rw [hnone] at hsome
    cases hsome
  · intro hnone
    cases hr : t.lookup d with
    | none => rfl
    | some r =>
        have ⟨hstored, hd⟩ := h.lookup_eq_some_iff.1 hr
        exact absurd hd (hnone _ _ hstored)

theorem Consistent.index_eq_none_iff (h : t.Consistent) {d : String} :
    t.index.get? d = none ↔ ∀ id r, t.records.get? id = some r → r.digest ≠ d := by
  rw [Option.eq_none_iff_forall_ne_some]
  constructor
  · intro hnone id r hr hd
    exact hnone id (h.index_iff.2 ⟨r, hr, hd⟩)
  · intro hnone id hid
    obtain ⟨r, hr, hd⟩ := h.index_iff.1 hid
    exact hnone id r hr hd

/-! ### What each write does to consistency -/

theorem Consistent.add {r : KeyRecord} (h : t.Consistent) (hid : t.records.get? r.id = none)
    (hdigest : t.index.get? r.digest = none) : (t.add r).Consistent := by
  have hfresh := h.index_eq_none_iff.1 hdigest
  refine consistent_of ?_ ?_
  · intro id r' hr'
    rw [records_add] at hr'
    split at hr'
    · rename_i hid'
      cases hr'
      exact hid'
    · exact h.id_eq hr'
  · intro d id
    simp only [index_add, records_add]
    have hindex := @h.index_iff d id
    grind

/-- A change to the records that moves none of them and changes no digest. -/
theorem Consistent.of_same_index {u : KeyTable} (h : t.Consistent) (hindex : u.index = t.index)
    (hrecords : ∀ id, (u.records.get? id).map (fun r => (r.id, r.digest)) =
      (t.records.get? id).map fun r => (r.id, r.digest)) : u.Consistent := by
  refine consistent_of ?_ ?_
  · intro id r hr
    have hid := hrecords id
    rw [hr] at hid
    obtain ⟨r₀, hr₀, he⟩ := Option.map_eq_some_iff.1 hid.symm
    rw [← h.id_eq hr₀, ← (Prod.mk.inj he).1]
  · intro d id
    rw [hindex, h.index_iff]
    have hid := hrecords id
    cases hu : u.records.get? id with
    | none =>
        rw [hu] at hid
        have hnone := Option.map_eq_none_iff.1 hid.symm
        simp [hnone]
    | some r =>
        rw [hu] at hid
        obtain ⟨r₀, hr₀, he⟩ := Option.map_eq_some_iff.1 hid.symm
        have hd : r₀.digest = r.digest := (Prod.mk.inj he).2
        simp [hr₀, hd]

theorem Consistent.spend (h : t.Consistent) (id : KeyId) :
    (KeyTable.spend id t).2.Consistent := by
  obtain ⟨hindex, hrecords⟩ := spend_apply id t
  refine h.of_same_index hindex fun id' => ?_
  rw [hrecords id']
  split
  · simp only [Option.map_map, Function.comp_def, KeyRecord.spent_id, KeyRecord.spent_digest]
  · rfl

theorem Consistent.revoke (h : t.Consistent) (id : KeyId) (at' : Instant) :
    (KeyTable.revoke id at' t).2.Consistent := by
  rw [revoke_apply]
  refine h.of_same_index rfl fun id' => ?_
  rw [records_modifyRecord]
  split
  · simp only [Option.map_map, Function.comp_def, KeyRecord.revoke]
  · rfl

theorem Consistent.remove (h : t.Consistent) (id : KeyId) :
    (KeyTable.remove id t).2.Consistent := by
  cases hr : t.records.get? id with
  | none =>
      rw [remove_of_none hr]
      exact h
  | some r =>
      rw [remove_of_some hr]
      refine consistent_of ?_ ?_
      · intro id' r' hr'
        rw [records_delete] at hr'
        split at hr'
        · cases hr'
        · exact h.id_eq hr'
      · intro d id'
        simp only [index_delete, records_delete]
        have hindex := @h.index_iff d id'
        have hinj := @h.digest_inj
        grind

theorem Consistent.update {r : KeyRecord} (h : t.Consistent) (hclash : ¬t.Clashes r) :
    (KeyTable.update r t).2.Consistent := by
  cases hold : t.records.get? r.id with
  | none =>
      rw [update_of_none hold]
      exact h
  | some old =>
      rw [update_of_some hold]
      by_cases hd : old.digest = r.digest
      · refine h.of_same_index (index_replace_of_eq hd) fun id => ?_
        rw [records_replace]
        split
        · rename_i hid
          rw [← hid, hold]
          simp only [Option.map_some, h.id_eq hold, hd]
        · rfl
      · have hfree : ∀ id r', t.records.get? id = some r' → r'.digest = r.digest → id = r.id := by
          intro id r' hr' hd'
          refine Classical.byContradiction fun hne => ?_
          exact hclash ⟨⟨old, hold⟩, id, r', hne, hr', hd'⟩
        refine consistent_of ?_ ?_
        · intro id r' hr'
          rw [records_replace] at hr'
          split at hr'
          · rename_i hid
            cases hr'
            exact hid
          · exact h.id_eq hr'
        · intro d id
          simp only [index_replace_of_ne hd, records_replace]
          have hindex := @h.index_iff d id
          have hinj := @h.digest_inj
          grind

/-- After a clash two records share a digest. -/
theorem not_consistent_of_clashes {r : KeyRecord} (hclash : t.Clashes r) :
    ¬(KeyTable.update r t).2.Consistent := by
  intro h
  obtain ⟨⟨old, hold⟩, id, r', hne, hr', hd⟩ := hclash
  rw [update_of_some hold] at h
  have hother : (t.replace old r).records.get? id = some r' := by
    rw [records_replace, if_neg (Ne.symm hne), hr']
  have hmoved : (t.replace old r).records.get? r.id =
      some { r with revokedAt := old.revokedAt <|> r.revokedAt } := by
    rw [records_replace, if_pos rfl]
  exact hne (h.digest_inj hother hmoved hd)

/-- One write keeps a table consistent, unless it is an update that clashes. -/
theorem Consistent.apply (h : t.Consistent) (w : Write)
    (hclash : ∀ r, w = .update r → ¬t.Clashes r) : (w.apply t).Consistent := by
  cases w with
  | create r =>
      rcases create_cases r t with ⟨e, he⟩ | ⟨he, hid, hdigest⟩
      · rw [Write.apply, he]
        exact h
      · rw [Write.apply, he]
        exact h.add hid hdigest
  | update r => exact h.update (hclash r rfl)
  | spend id => exact h.spend id
  | revoke id at' => exact h.revoke id at'
  | remove id => exact h.remove id

/-! ### Runs -/

/-- None of the updates of a run clashes with the table that it meets. -/
def NoClash (ws : List Write) : Prop :=
  ∀ vs r, vs ++ [.update r] <+: ws → ¬(after vs {}).Clashes r

theorem NoClash.consistent {ws : List Write} (h : NoClash ws) : (after ws {}).Consistent := by
  induction ws using List.reverseRecOn with
  | nil => exact consistent_empty
  | append_singleton vs w ih =>
      rw [after_concat]
      have hvs : NoClash vs := fun us r hus => h us r (hus.trans (List.prefix_append vs [w]))
      refine (ih hvs).apply w fun r hw => ?_
      subst hw
      exact h vs r (List.prefix_refl _)

theorem NoClash.of_prefix {ws vs : List Write} (h : NoClash ws) (hvs : vs <+: ws) : NoClash vs :=
  fun us r hus => h us r (hus.trans hvs)

/-- All tables of a run are consistent, and find each record by its own digest and nothing only where
no record has the digest, exactly if no update of the run clashes. -/
theorem noClash_iff_consistent (ws : List Write) :
    NoClash ws ↔ ∀ vs, vs <+: ws →
      (after vs {}).Consistent ∧
        ∀ d, (∀ r, findByDigest d (after vs {}) = (.ok (some r), after vs {}) ↔
            (after vs {}).records.get? r.id = some r ∧ r.digest = d) ∧
          (findByDigest d (after vs {}) = (.ok none, after vs {}) ↔
            ∀ id r, (after vs {}).records.get? id = some r → r.digest ≠ d) := by
  constructor
  · intro h vs hvs
    have hvs := (h.of_prefix hvs).consistent
    refine ⟨hvs, fun d => ⟨fun r => ?_, ?_⟩⟩
    · rw [findByDigest_eq_iff]
      exact hvs.lookup_eq_some_iff
    · rw [findByDigest_eq_iff]
      exact hvs.lookup_eq_none_iff
  · intro h vs r hvs hclash
    have hafter := (h (vs ++ [.update r]) hvs).1
    rw [after_concat] at hafter
    exact not_consistent_of_clashes hclash hafter

/-- The first record moves to the digest of the second one and is removed, and the entry of the index
goes with it. -/
def movedAndRemoved : List Write :=
  [.create (.fresh ⟨"a"⟩ "" "h1" .epoch), .create (.fresh ⟨"b"⟩ "" "h2" .epoch),
    .update (.fresh ⟨"a"⟩ "" "h2" .epoch), .remove ⟨"a"⟩]

/-- The second record is still stored after that, but no longer found. -/
theorem stored_and_not_found :
    ¬∀ ws d, findByDigest d (after ws {}) = (.ok none, after ws {}) →
      ∀ id r, (after ws {}).records.get? id = some r → r.digest ≠ d := by
  intro h
  exact h movedAndRemoved "h2" rfl ⟨"b"⟩ (.fresh ⟨"b"⟩ "" "h2" .epoch) rfl rfl

end Latchkey.KeyTable
