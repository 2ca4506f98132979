import Latchkey.Proofs.Key.Consistency
/-!
# Where records come from

A record that stands in a table after writes that create none stood there before under the same
identifier, perhaps with another expiry, other uses, other metadata, or with a revocation that it did
not have. `Inherits K` says this with a relation `K` between the earlier record and the later one.
Writes that create a record may do so only under an identifier that is free, so a record that is
there before and after them is a continuation too, unless it was removed in between.
-/

namespace Latchkey.KeyTable

/-- What stays of a record from its creation on. -/
def SameIssue (r r' : KeyRecord) : Prop :=
  r'.digest = r.digest ∧ r'.label = r.label ∧ r'.owner = r.owner ∧ r'.createdAt = r.createdAt

/-- The later record has the same digest and is revoked when the earlier one was, if it was. -/
def KeepsRevocation (r r' : KeyRecord) : Prop :=
  r'.digest = r.digest ∧ ∀ at', r.revokedAt = some at' → r'.revokedAt = some at'

/-- A relation between a record and what is left of it when it is spent, revoked or renewed. -/
structure Lasting (K : KeyRecord → KeyRecord → Prop) : Prop where
  refl : ∀ r, K r r
  trans : ∀ {r r' r''}, K r r' → K r' r'' → K r r''
  digest_eq : ∀ {r r'}, K r r' → r'.digest = r.digest
  renewed : ∀ r expiresAt uses metadata at',
    K r { r with expiresAt, uses, metadata, revokedAt := r.revokedAt <|> at' }

theorem lasting_sameIssue : Lasting SameIssue where
  refl _ := ⟨rfl, rfl, rfl, rfl⟩
  trans h h' := ⟨h'.1.trans h.1, h'.2.1.trans h.2.1, h'.2.2.1.trans h.2.2.1,
    h'.2.2.2.trans h.2.2.2⟩
  digest_eq h := h.1
  renewed _ _ _ _ _ := ⟨rfl, rfl, rfl, rfl⟩

theorem lasting_keepsRevocation : Lasting KeepsRevocation where
  refl _ := ⟨rfl, fun _ h => h⟩
  trans h h' := ⟨h'.1.trans h.1, fun at' hat => h'.2 at' (h.2 at' hat)⟩
  digest_eq h := h.1
  renewed r _ _ _ at' := ⟨rfl, fun _ h => by simp [h]⟩

section Lasting

variable {K : KeyRecord → KeyRecord → Prop} (hK : Lasting K)

include hK

theorem Lasting.spent (r : KeyRecord) : K r r.spent := by
  obtain ⟨uses, h⟩ := r.exists_spent_eq
  rw [h]
  simpa using hK.renewed r r.expiresAt uses r.metadata none

theorem Lasting.revoke (r : KeyRecord) (at' : Instant) : K r (r.revoke at') :=
  hK.renewed r r.expiresAt r.uses r.metadata (some at')

end Lasting

/-- Every record of the later table continues one that stood under the same identifier. -/
def Inherits (K : KeyRecord → KeyRecord → Prop) (t t' : KeyTable) : Prop :=
  ∀ id r', t'.records.get? id = some r' → ∃ r, t.records.get? id = some r ∧ K r r'

section Writes

variable {t t' : KeyTable} {K : KeyRecord → KeyRecord → Prop} {P : KeyTable → Write → Prop}

theorem Inherits.refl (hK : Lasting K) (t : KeyTable) : Inherits K t t :=
  fun _ r h => ⟨r, h, hK.refl r⟩

theorem Inherits.trans (hK : Lasting K) {t'' : KeyTable} (h : Inherits K t t')
    (h' : Inherits K t' t'') : Inherits K t t'' := by
  intro id r'' hr''
  obtain ⟨r', hr', hk'⟩ := h' id r'' hr''
  obtain ⟨r, hr, hk⟩ := h id r' hr'
  exact ⟨r, hr, hK.trans hk hk'⟩

/-- A write that replaces a record of the table by `f` of it. -/
theorem Inherits.of_map {id : KeyId} {f : KeyRecord → KeyRecord} (hK : Lasting K)
    (hf : ∀ r, K r (f r))
    (h : ∀ id', t'.records.get? id' =
      if id = id' then (t.records.get? id').map f else t.records.get? id') :
    Inherits K t t' := by
  intro id' r' hr'
  rw [h id'] at hr'
  split at hr'
  · obtain ⟨r, hr, he⟩ := Option.map_eq_some_iff.1 hr'
    subst he
    exact ⟨r, hr, hf r⟩
  · exact ⟨r', hr', hK.refl r'⟩

/-- A write that creates nothing, and updates only with what continues the stored record. -/
theorem Write.inherits (hK : Lasting K) (w : Write) (hcreate : ∀ r, w ≠ .create r)
    (hupdate : ∀ r old, w = .update r → t.records.get? r.id = some old →
      K old { r with revokedAt := old.revokedAt <|> r.revokedAt }) :
    Inherits K t (w.apply t) := by
  cases w with
  | create r => exact absurd rfl (hcreate r)
  | update r =>
      rw [Write.apply]
      cases hold : t.records.get? r.id with
      | none =>
          rw [update_of_none hold]
          exact Inherits.refl hK t
      | some old =>
          rw [update_of_some hold]
          intro id r' hr'
          rw [records_replace] at hr'
          split at hr'
          · rename_i hid
            subst hid
            cases hr'
            exact ⟨old, hold, hupdate r old rfl hold⟩
          · exact ⟨r', hr', hK.refl r'⟩
  | spend id => exact .of_map hK hK.spent (spend_apply id t).2
  | revoke id at' =>
      exact .of_map hK (fun r => hK.revoke r at') fun id' => records_modifyRecord id id' _ t
  | remove id =>
      rw [Write.apply]
      cases hr : t.records.get? id with
      | none =>
          rw [remove_of_none hr]
          exact Inherits.refl hK t
      | some r =>
          rw [remove_of_some hr]
          intro id' r' hr'
          rw [records_delete] at hr'
          split at hr'
          · cases hr'
          · exact ⟨r', hr', hK.refl r'⟩

theorem Writes.inherits (hK : Lasting K) (hP : ∀ t w, P t w → Inherits K t (w.apply t))
    (h : Writes P t t') : Inherits K t t' := by
  induction h with
  | refl => exact Inherits.refl hK t
  | tail _ hw ih =>
      obtain ⟨w, hw, rfl⟩ := hw
      exact ih.trans hK (hP _ w hw)

theorem Writes.consistent (hP : ∀ t w, P t w → t.Consistent → (w.apply t).Consistent)
    (h : Writes P t t') (ht : t.Consistent) : t'.Consistent := by
  induction h with
  | refl => exact ht
  | tail _ hw ih =>
      obtain ⟨w, hw, rfl⟩ := hw
      exact hP _ w hw ih

/-- An update that leaves the digest of the stored record as it is does not clash. -/
theorem Consistent.not_clashes {r : KeyRecord} (ht : t.Consistent)
    (hr : ∀ old, t.records.get? r.id = some old → old.digest = r.digest) : ¬t.Clashes r := by
  rintro ⟨⟨old, hold⟩, id, r', hne, hr', hdigest⟩
  exact hne (ht.digest_inj hr' hold (hdigest.trans (hr old hold).symm))

end Writes

/-! ### What the service writes -/

/-- The writes of hooks. -/
def Spending (_ : KeyTable) : Write → Prop
  | .spend _ => True
  | _ => False

/-- The writes of the service to records that are there. An update keeps all of the record that it
meets but the expiry, the uses and the metadata. -/
def Upkeep (t : KeyTable) : Write → Prop
  | .create _ => False
  | .update r => ∃ old, t.records.get? r.id = some old ∧
      r = { old with expiresAt := r.expiresAt, uses := r.uses, metadata := r.metadata }
  | _ => True

variable {t t' : KeyTable}

theorem Upkeep.of_spending {w : Write} (h : Spending t w) : Upkeep t w := by
  cases w with
  | spend id => trivial
  | create r => exact h.elim
  | update r => exact h.elim
  | revoke id at' => exact h.elim
  | remove id => exact h.elim

theorem Upkeep.inherits {K : KeyRecord → KeyRecord → Prop} (hK : Lasting K) {w : Write}
    (h : Upkeep t w) : Inherits K t (w.apply t) := by
  refine w.inherits hK ?_ ?_
  · rintro r rfl
    exact h
  · rintro r old rfl hold
    obtain ⟨old', hold', he⟩ := h
    rw [hold] at hold'
    cases hold'
    have hrenewed := hK.renewed old r.expiresAt r.uses r.metadata r.revokedAt
    rw [he]
    rw [he] at hrenewed
    exact hrenewed

theorem Upkeep.consistent {w : Write} (h : Upkeep t w) (ht : t.Consistent) :
    (w.apply t).Consistent := by
  refine ht.apply w ?_
  rintro r rfl
  refine ht.not_clashes fun old hold => ?_
  obtain ⟨old', hold', he⟩ := h
  rw [hold] at hold'
  cases hold'
  rw [he]

/-- Either nothing has changed, or the record under an identifier is replaced by one that `K` relates
to it. -/
def Replaced (K : KeyRecord → KeyRecord → Prop) (id : KeyId) (t u : KeyTable) : Prop :=
  u = t ∨ ∃ r r', t.records.get? id = some r ∧ K r r' ∧ u = t.replace r r'

/-- To replace a record by one with another expiry, other uses and other metadata is upkeep. -/
theorem Replaced.upkeep {K : KeyRecord → KeyRecord → Prop} {id : KeyId} {t u : KeyTable}
    (h : Replaced K id t u) (ht : t.Consistent)
    (hK : ∀ r r', K r r' → ∃ expiresAt uses metadata, r' = { r with expiresAt, uses, metadata }) :
    Writes Upkeep t u := by
  rcases h with rfl | ⟨r, r', hr, hk, rfl⟩
  · exact refl_of _ _
  · obtain ⟨expiresAt, uses, metadata, rfl⟩ := hK r r' hk
    rw [← ht.id_eq hr] at hr
    have hupdate := update_of_some (r := { r with expiresAt, uses, metadata }) hr
    have hwrites := Writes.single (P := Upkeep)
      (w := .update { r with expiresAt, uses, metadata }) ⟨r, hr, rfl⟩
    rwa [Write.apply, hupdate] at hwrites

/-- No spending brings a record in or takes one away. -/
theorem Writes.isSome_of_spending (h : Writes Spending t t') (id : KeyId) :
    (t'.records.get? id).isSome = (t.records.get? id).isSome := by
  induction h with
  | refl => rfl
  | tail _ hw ih =>
      obtain ⟨w, hw, rfl⟩ := hw
      cases w with
      | spend id' =>
          rw [← ih, Write.apply, (spend_apply id' _).2 id]
          split
          · exact Option.isSome_map ..
          · rfl
      | create r => exact hw.elim
      | update r => exact hw.elim
      | revoke id at' => exact hw.elim
      | remove id => exact hw.elim

/-- What one call does: upkeep, and if it is to create a record, this after nothing but spending. -/
def Served (t t' : KeyTable) : Prop :=
  Writes Upkeep t t' ∨
    ∃ t₁ r, Writes Spending t t₁ ∧ Writes Upkeep ((Write.create r).apply t₁) t'

theorem Served.of_create (r : KeyRecord) (t : KeyTable) : Served t ((Write.create r).apply t) :=
  .inr ⟨t, r, refl_of _ _, refl_of _ _⟩

theorem Served.after_spending {u : KeyTable} (h : Writes Spending t u) (hu : Served u t') :
    Served t t' := by
  rcases hu with hu | ⟨t₁, r, hspent, hu⟩
  · exact .inl (trans_of _ (h.mono fun _ _ => Upkeep.of_spending) hu)
  · exact .inr ⟨t₁, r, trans_of _ h hspent, hu⟩

theorem Served.then_upkeep {u : KeyTable} (h : Served t u) (hu : Writes Upkeep u t') :
    Served t t' := by
  rcases h with h | ⟨t₁, r, hspent, h⟩
  · exact .inl (trans_of _ h hu)
  · exact .inr ⟨t₁, r, hspent, trans_of _ h hu⟩

theorem Served.consistent (h : Served t t') (ht : t.Consistent) : t'.Consistent := by
  have hupkeep : ∀ t w, Upkeep t w → t.Consistent → (w.apply t).Consistent :=
    fun _ _ h ht => h.consistent ht
  rcases h with h | ⟨t₁, r, hspent, h⟩
  · exact h.consistent hupkeep ht
  · have ht₁ := (hspent.mono fun _ _ => Upkeep.of_spending).consistent hupkeep ht
    exact h.consistent hupkeep (ht₁.apply (.create r) fun _ hw => by cases hw)

/-- A record that is there before and after a call is the same one. -/
theorem Served.lasts {K : KeyRecord → KeyRecord → Prop} (hK : Lasting K) (h : Served t t')
    {id : KeyId} {r r' : KeyRecord} (hr : t.records.get? id = some r)
    (hr' : t'.records.get? id = some r') : K r r' := by
  have hupkeep : ∀ {t t'}, Writes Upkeep t t' → Inherits K t t' :=
    fun h => h.inherits hK fun _ _ h => h.inherits hK
  have hold : ∀ {r₁}, (∃ r₀, t.records.get? id = some r₀ ∧ K r₀ r₁) → K r r₁ := by
    rintro r₁ ⟨r₀, hr₀, hk⟩
    rw [hr] at hr₀
    cases hr₀
    exact hk
  rcases h with h | ⟨t₁, new, hspent, h⟩
  · exact hold (hupkeep h id r' hr')
  · obtain ⟨r₂, hr₂, hk⟩ := hupkeep h id r' hr'
    have hinherits := hupkeep (hspent.mono fun _ _ => Upkeep.of_spending)
    rw [Write.apply] at hr₂
    rcases create_cases new t₁ with ⟨e, he⟩ | ⟨he, hfree, -⟩
    · rw [he] at hr₂
      exact hK.trans (hold (hinherits id r₂ hr₂)) hk
    · rw [he, records_add] at hr₂
      split at hr₂
      · -- The new record would have taken the identifier of one that is there.
        rename_i hid
        have hsome := hspent.isSome_of_spending id
        rw [← hid, hfree, hid, hr] at hsome
        cases hsome
      · exact hK.trans (hold (hinherits id r₂ hr₂)) hk

end Latchkey.KeyTable
