import Mathlib.Logic.Relation
import Latchkey.Key.Memory
/-!
# Writes to a table of key records

The five operations that change a table, as data, so that a run of them is a list. What each does is
said here through `Table.get?` of the two maps; the rest of the theory reaches the operations only
through these equations. `Writes P` relates two tables if writes that `P` allows lead from one to the
other.
-/

namespace Latchkey

/-- The record after one of its uses has been spent, if it has any. -/
def KeyRecord.spent (r : KeyRecord) : KeyRecord :=
  match r.uses with
  | none => r
  | some n => if n ≤ 0 then r else { r with uses := some (n - 1) }

section Spent

variable (r : KeyRecord)

/-- Only the number of uses changes. -/
theorem KeyRecord.exists_spent_eq : ∃ uses, r.spent = { r with uses } := by
  unfold KeyRecord.spent
  split
  · exact ⟨r.uses, rfl⟩
  · split
    · exact ⟨r.uses, rfl⟩
    · exact ⟨_, rfl⟩

@[simp] theorem KeyRecord.spent_id : r.spent.id = r.id := by
  obtain ⟨_, h⟩ := r.exists_spent_eq
  rw [h]

@[simp] theorem KeyRecord.spent_digest : r.spent.digest = r.digest := by
  obtain ⟨_, h⟩ := r.exists_spent_eq
  rw [h]

end Spent

namespace KeyTable

inductive Write where
  | create (r : KeyRecord)
  | update (r : KeyRecord)
  | spend (id : KeyId)
  | revoke (id : KeyId) (at' : Instant)
  | remove (id : KeyId)

/-- The table that the operation leaves behind, whatever it answers. -/
def Write.apply : Write → KeyTable → KeyTable
  | create r, t => (KeyTable.create r t).2
  | update r, t => (KeyTable.update r t).2
  | spend id, t => (KeyTable.spend id t).2
  | revoke id at', t => (KeyTable.revoke id at' t).2
  | remove id, t => (KeyTable.remove id t).2

/-- The table after a list of writes, the first one first. -/
def after (ws : List Write) (t : KeyTable) : KeyTable := ws.foldl (fun t w => w.apply t) t

theorem after_append (ws vs : List Write) (t : KeyTable) :
    after (ws ++ vs) t = after vs (after ws t) :=
  List.foldl_append

theorem after_concat (ws : List Write) (w : Write) (t : KeyTable) :
    after (ws ++ [w]) t = w.apply (after ws t) :=
  after_append ws [w] t

/-- `t'` comes from `t` by writes, each of which `P` allows on the table that it meets. -/
def Writes (P : KeyTable → Write → Prop) : KeyTable → KeyTable → Prop :=
  Relation.ReflTransGen fun t t' => ∃ w, P t w ∧ t' = w.apply t

instance (P : KeyTable → Write → Prop) : IsPreorder KeyTable (Writes P) :=
  inferInstanceAs (IsPreorder KeyTable (Relation.ReflTransGen _))

variable {P Q : KeyTable → Write → Prop} {t t' : KeyTable}

theorem Writes.single {w : Write} (hw : P t w) : Writes P t (w.apply t) :=
  Relation.ReflTransGen.single ⟨w, hw, rfl⟩

theorem Writes.mono (hle : ∀ t w, P t w → Q t w) (h : Writes P t t') : Writes Q t t' :=
  Relation.ReflTransGen.mono (fun _ _ ⟨w, hw, he⟩ => ⟨w, hle _ _ hw, he⟩) _ _ h

/-- A preorder that holds from each write to the next table holds along all of them. -/
theorem Writes.relates {R : KeyTable → KeyTable → Prop} [IsPreorder KeyTable R]
    (hP : ∀ t w, P t w → R t (w.apply t)) (h : Writes P t t') : R t t' := by
  induction h with
  | refl => exact refl_of R t
  | tail _ hw ih =>
      obtain ⟨w, hw, rfl⟩ := hw
      exact trans_of R ih (hP _ w hw)

/-! ### Creating -/

theorem create_apply (r : KeyRecord) (t : KeyTable) :
    KeyTable.create r t =
      if t.records.contains r.id then (.error (.error (idTaken r.id)), t)
      else if t.index.contains r.digest then (.error (.error digestTaken), t)
      else (.ok (), t.add r) := by
  unfold KeyTable.create
  rw [Act.bind_ok (Act.read_apply _ _)]
  split
  · rfl
  · rw [Act.bind_ok (Act.read_apply _ _)]
    split <;> rfl

theorem not_contains_iff {κ α : Type} [DecidableEq κ] {t : Table κ α} {k : κ} :
    ¬t.contains k ↔ t.get? k = none := by
  simp [Table.contains]

/-- A record is either turned away, which changes nothing, or neither its identifier nor its digest
was taken. -/
theorem create_cases (r : KeyRecord) (t : KeyTable) :
    (∃ e, KeyTable.create r t = (.error e, t)) ∨
      (KeyTable.create r t = (.ok (), t.add r) ∧ t.records.get? r.id = none ∧
        t.index.get? r.digest = none) := by
  rw [create_apply]
  split
  · exact .inl ⟨_, rfl⟩
  · rename_i hid
    split
    · exact .inl ⟨_, rfl⟩
    · rename_i hdigest
      exact .inr ⟨rfl, not_contains_iff.1 hid, not_contains_iff.1 hdigest⟩

theorem create_of_none {r : KeyRecord} {t : KeyTable} (hid : t.records.get? r.id = none)
    (hdigest : t.index.get? r.digest = none) : KeyTable.create r t = (.ok (), t.add r) := by
  rw [create_apply, if_neg (not_contains_iff.2 hid), if_neg (not_contains_iff.2 hdigest)]

theorem records_add (r : KeyRecord) (t : KeyTable) (id : KeyId) :
    (t.add r).records.get? id = if r.id = id then some r else t.records.get? id :=
  Table.get?_insert ..

theorem index_add (r : KeyRecord) (t : KeyTable) (d : String) :
    (t.add r).index.get? d = if r.digest = d then some r.id else t.index.get? d :=
  Table.get?_insert ..

theorem findById_apply (id : KeyId) (t : KeyTable) :
    KeyTable.findById id t = (.ok (t.records.get? id), t) := rfl

/-! ### Updating -/

theorem update_of_none {r : KeyRecord} (h : t.records.get? r.id = none) :
    KeyTable.update r t = (.error (.error (notFound r.id)), t) := by
  unfold KeyTable.update
  rw [Act.bind_ok (findById_apply _ _), h]
  rfl

theorem update_of_some {r old : KeyRecord} (h : t.records.get? r.id = some old) :
    KeyTable.update r t = (.ok (), t.replace old r) := by
  unfold KeyTable.update
  rw [Act.bind_ok (findById_apply _ _), h]
  rfl

theorem records_replace (old r : KeyRecord) (t : KeyTable) (id : KeyId) :
    (t.replace old r).records.get? id =
      if r.id = id then some { r with revokedAt := old.revokedAt <|> r.revokedAt }
      else t.records.get? id :=
  Table.get?_insert ..

theorem index_replace_of_eq {old r : KeyRecord} (h : old.digest = r.digest) :
    (t.replace old r).index = t.index :=
  if_pos h

theorem index_replace_of_ne {old r : KeyRecord} (h : old.digest ≠ r.digest) (d : String) :
    (t.replace old r).index.get? d =
      if r.digest = d then some r.id else if old.digest = d then none else t.index.get? d := by
  have hindex : (t.replace old r).index = (t.index.erase old.digest).insert r.digest r.id := if_neg h
  rw [hindex, Table.get?_insert, Table.get?_erase]

/-! ### Spending, revoking, removing -/

theorem records_modifyRecord (id id' : KeyId) (f : KeyRecord → KeyRecord) (t : KeyTable) :
    (t.modifyRecord id f).records.get? id' =
      if id = id' then (t.records.get? id').map f else t.records.get? id' :=
  Table.get?_modify ..

/-- To spend touches the records only; of the record it can only lower the number of uses. -/
theorem spend_apply (id : KeyId) (t : KeyTable) :
    ((KeyTable.spend id t).2.index = t.index) ∧
      ∀ id', (KeyTable.spend id t).2.records.get? id' =
        if id = id' then (t.records.get? id').map KeyRecord.spent else t.records.get? id' := by
  unfold KeyTable.spend
  rw [Act.bind_ok (findById_apply _ _)]
  cases hr : t.records.get? id with
  | none =>
      refine ⟨rfl, fun id' => ?_⟩
      split
      · rename_i h
        rw [← h, hr]
        exact hr
      · rfl
  | some r =>
      cases hn : r.uses with
      | none =>
          simp only [hn]
          refine ⟨rfl, fun id' => ?_⟩
          split
          · rename_i h
            rw [← h, hr]
            simp [KeyRecord.spent, hn, hr]
          · rfl
      | some n =>
          simp only [hn]
          split
          · rename_i hle
            refine ⟨rfl, fun id' => ?_⟩
            split
            · rename_i h
              rw [← h, hr]
              simp [KeyRecord.spent, hn, hle, hr]
            · rfl
          · rename_i hpos
            refine ⟨rfl, fun id' => ?_⟩
            change (t.modifyRecord id _).records.get? id' = _
            rw [records_modifyRecord]
            split
            · rename_i h
              rw [← h, hr]
              simp [KeyRecord.spent, hn, hpos]
            · rfl

theorem spend_left_apply {id : KeyId} {r : KeyRecord} {n : Int64}
    (hr : t.records.get? id = some r) (hn : r.uses = some n) (hpos : 0 < n) :
    KeyTable.spend id t =
      (.ok (.spent (n - 1)), t.modifyRecord id fun r => { r with uses := some (n - 1) }) := by
  unfold KeyTable.spend
  rw [Act.bind_ok (findById_apply _ _), hr]
  dsimp only
  rw [hn]
  dsimp only
  rw [if_neg (Int64.not_le.2 hpos)]
  rfl

theorem spend_of_left {id : KeyId} {r : KeyRecord} {n : Int64} (hr : t.records.get? id = some r)
    (hn : r.uses = some n) (hpos : 0 < n) : (KeyTable.spend id t).1 = .ok (.spent (n - 1)) :=
  congrArg Prod.fst (spend_left_apply hr hn hpos)

theorem revoke_apply (id : KeyId) (at' : Instant) (t : KeyTable) :
    KeyTable.revoke id at' t = (.ok (), t.modifyRecord id fun r => r.revoke at') := rfl

theorem remove_of_none {id : KeyId} (h : t.records.get? id = none) :
    KeyTable.remove id t = (.ok false, t) := by
  unfold KeyTable.remove
  rw [Act.bind_ok (findById_apply _ _), h]
  rfl

theorem remove_of_some {id : KeyId} {r : KeyRecord} (h : t.records.get? id = some r) :
    KeyTable.remove id t = (.ok true, t.delete id r) := by
  unfold KeyTable.remove
  rw [Act.bind_ok (findById_apply _ _), h]
  rfl

theorem records_delete (id id' : KeyId) (r : KeyRecord) (t : KeyTable) :
    (t.delete id r).records.get? id' = if id = id' then none else t.records.get? id' :=
  Table.get?_erase ..

theorem records_remove (id id' : KeyId) (t : KeyTable) :
    ((Write.remove id).apply t).records.get? id' = if id = id' then none else t.records.get? id' := by
  rw [Write.apply]
  cases hr : t.records.get? id with
  | none =>
      rw [remove_of_none hr]
      split
      · rename_i he
        rw [← he, hr]
      · rfl
  | some r => rw [remove_of_some hr, records_delete]

theorem index_delete (id : KeyId) (r : KeyRecord) (t : KeyTable) (d : String) :
    (t.delete id r).index.get? d = if r.digest = d then none else t.index.get? d :=
  Table.get?_erase ..

theorem delete_modifyRecord (id : KeyId) (f : KeyRecord → KeyRecord) (r : KeyRecord) (t : KeyTable) :
    (t.modifyRecord id f).delete id r = t.delete id r := by
  have hrecords : (t.modifyRecord id f).records.erase id = t.records.erase id :=
    Table.erase_modify t.records id f
  unfold delete
  rw [hrecords]
  rfl

theorem delete_add {r : KeyRecord} {t : KeyTable} (hid : t.records.get? r.id = none)
    (hdigest : t.index.get? r.digest = none) : (t.add r).delete r.id r = t := by
  have hrecords : (t.add r).records.erase r.id = t.records := Table.erase_insert r hid
  have hindex : (t.add r).index.erase r.digest = t.index := Table.erase_insert r.id hdigest
  unfold delete
  rw [hrecords, hindex]

end KeyTable

end Latchkey
