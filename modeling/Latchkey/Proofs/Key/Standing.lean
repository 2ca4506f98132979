import Latchkey.Proofs.Key.Consistency
/-!
# The standing of keys

Whether a table has a record of an identifier, and whether that record is revoked. Writes may be made that
change nothing of this: to spend a use, and to update a record without revoking it. That an update clashes
does not matter here.
-/

namespace Latchkey

inductive Standing where
  | absent
  | active
  | revoked
deriving DecidableEq

def Standing.ofRecord : Option KeyRecord → Standing
  | none => absent
  | some r => if r.isRevoked then revoked else active

namespace KeyTable

def standing (t : KeyTable) (id : KeyId) : Standing := .ofRecord (t.records.get? id)

variable {t : KeyTable} {id : KeyId} {r : KeyRecord}

theorem standing_of_get? {found : Option KeyRecord} (h : t.records.get? id = found) :
    t.standing id = .ofRecord found :=
  congrArg Standing.ofRecord h

theorem standing_eq_absent_iff : t.standing id = .absent ↔ t.records.get? id = none := by
  rw [standing]
  cases t.records.get? id with
  | none => simp [Standing.ofRecord]
  | some r => cases hr : r.isRevoked <;> simp [Standing.ofRecord, hr]

theorem standing_eq_active (h : t.records.get? id = some r) (hr : r.isRevoked = false) :
    t.standing id = .active := by
  rw [standing_of_get? h, Standing.ofRecord, hr]
  rfl

/-! ### What writes do to it -/

theorem standing_add (r : KeyRecord) (t : KeyTable) (id : KeyId) :
    (t.add r).standing id = if r.id = id then .ofRecord (some r) else t.standing id := by
  rw [standing, records_add]
  split <;> rfl

theorem standing_delete (id : KeyId) (r : KeyRecord) (t : KeyTable) (id' : KeyId) :
    (t.delete id r).standing id' = if id = id' then .absent else t.standing id' := by
  rw [standing, records_delete]
  split <;> rfl

theorem standing_modifyRecord (id : KeyId) (f : KeyRecord → KeyRecord) (t : KeyTable) (id' : KeyId) :
    (t.modifyRecord id f).standing id' =
      if id = id' then .ofRecord ((t.records.get? id').map f) else t.standing id' := by
  rw [standing, records_modifyRecord]
  split <;> rfl

/-- A revocation that is stored stays, and none comes in. -/
theorem standing_replace {old : KeyRecord} (hold : t.records.get? r.id = some old)
    (hr : r.isRevoked → old.isRevoked) : (t.replace old r).standing = t.standing := by
  have hsame : { r with revokedAt := old.revokedAt <|> r.revokedAt }.isRevoked = old.isRevoked := by
    unfold KeyRecord.isRevoked at *
    cases hat : old.revokedAt <;> simp_all
  funext id
  rw [standing, standing, records_replace]
  split
  · rename_i hid
    rw [← hid, hold, Standing.ofRecord, Standing.ofRecord]
    exact congrArg (fun revoked => if revoked then Standing.revoked else .active) hsame
  · rfl

theorem standing_spend (id : KeyId) (t : KeyTable) : (KeyTable.spend id t).2.standing = t.standing := by
  funext id'
  rw [standing, standing, (spend_apply id t).2 id']
  split
  · cases t.records.get? id' with
    | none => rfl
    | some r =>
        obtain ⟨uses, he⟩ := r.exists_spent_eq
        rw [Option.map_some, he]
        rfl
  · rfl

/-- Neither creates, revokes nor removes a record. -/
def Unobtrusive (t : KeyTable) : Write → Prop
  | .spend _ => True
  | .update r => ∀ old, t.records.get? r.id = some old → r.isRevoked → old.isRevoked
  | _ => False

theorem Unobtrusive.standing_eq {w : Write} (h : Unobtrusive t w) : (w.apply t).standing = t.standing := by
  cases w with
  | spend id => exact standing_spend id t
  | update r =>
      rw [Write.apply]
      cases hold : t.records.get? r.id with
      | none => rw [update_of_none hold]
      | some old =>
          rw [update_of_some hold]
          exact standing_replace hold (h old hold)
  | create r | revoke id at' | remove id => cases h

theorem Writes.standing_eq {t' : KeyTable} (h : Writes Unobtrusive t t') : t'.standing = t.standing := by
  induction h with
  | refl => rfl
  | tail _ hw ih =>
      obtain ⟨w, hw, rfl⟩ := hw
      exact hw.standing_eq.trans ih

/-! ### Identifiers -/

theorem ownIds_empty : OwnIds {} := consistent_empty.ownIds

theorem OwnIds.add (ht : t.OwnIds) (r : KeyRecord) : (t.add r).OwnIds where
  id_eq := by
    intro id r' hr'
    rw [records_add] at hr'
    split at hr'
    · cases hr'
      assumption
    · exact ht.id_eq hr'

theorem OwnIds.modify {t' : KeyTable} {f : KeyRecord → KeyRecord} (ht : t.OwnIds)
    (hf : ∀ r, (f r).id = r.id) (h : ∀ id', t'.records.get? id' =
      if id = id' then (t.records.get? id').map f else t.records.get? id') : t'.OwnIds where
  id_eq := by
    intro id' r' hr'
    rw [h] at hr'
    split at hr'
    · obtain ⟨r, hr, rfl⟩ := Option.map_eq_some_iff.1 hr'
      rw [hf, ht.id_eq hr]
    · exact ht.id_eq hr'

/-- No write whatever puts a record under an identifier that is not its own. -/
theorem OwnIds.apply (ht : t.OwnIds) (w : Write) : (w.apply t).OwnIds := by
  cases w with
  | create r =>
      rw [Write.apply]
      rcases create_cases r t with ⟨e, he⟩ | ⟨he, -, -⟩
      · rw [he]
        exact ht
      · rw [he]
        exact ht.add r
  | update r =>
      rw [Write.apply]
      cases hold : t.records.get? r.id with
      | none =>
          rw [update_of_none hold]
          exact ht
      | some old =>
          rw [update_of_some hold]
          refine ⟨fun {id r'} hr' => ?_⟩
          rw [records_replace] at hr'
          split at hr'
          · cases hr'
            assumption
          · exact ht.id_eq hr'
  | spend id => exact ht.modify KeyRecord.spent_id (spend_apply id t).2
  | revoke id at' =>
      exact ht.modify (f := (·.revoke at')) (fun _ => rfl) fun id' => records_modifyRecord id id' _ t
  | remove id =>
      refine ⟨fun {id' r'} hr' => ?_⟩
      rw [records_remove] at hr'
      split at hr'
      · cases hr'
      · exact ht.id_eq hr'

/-- What writes of any kind do. -/
def KeepsOwnIds (t t' : KeyTable) : Prop := t.OwnIds → t'.OwnIds

instance : IsPreorder KeyTable KeepsOwnIds where
  refl _ ht := ht
  trans _ _ _ h h' ht := h' (h ht)

theorem keepsOwnIds_apply (w : Write) (t : KeyTable) : KeepsOwnIds t (w.apply t) := fun ht => ht.apply w

theorem Writes.keepsOwnIds {P : KeyTable → Write → Prop} {t' : KeyTable} (h : Writes P t t') :
    KeepsOwnIds t t' :=
  h.relates fun t w _ => keepsOwnIds_apply w t

end KeyTable

end Latchkey
