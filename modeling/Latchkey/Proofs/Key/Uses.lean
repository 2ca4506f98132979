import Latchkey.Plugin.UsageLimits
import Latchkey.Proofs.Key.Descent
/-!
# The uses of a stored key

How the number of uses of one record can go on. Writes that are not about uses leave it as it is or take
the record away; to spend takes one off if there is one; to top up adds to what is left, and less than
nothing counts as nothing.
-/

namespace Latchkey

open KeyTable

theorem toInt_pos {n : Int64} (h : 0 < n) : 0 < n.toInt := Int64.lt_iff_toInt_lt.1 h

theorem toInt_nonneg {n : Int64} (h : 0 ≤ n) : 0 ≤ n.toInt := Int64.le_iff_toInt_le.1 h

/-- One use less of a positive number does not overflow. -/
theorem toInt_sub_one {n : Int64} (h : 0 < n) : (n - 1).toInt = n.toInt - 1 := by
  have hlt := n.toInt_lt
  have hpos := toInt_pos h
  have hone : (1 : Int64).toInt = 1 := rfl
  rw [Int64.toInt_sub, hone, Int.bmod_eq_of_le] <;> omega

theorem UsageLimits.toInt_toppedUp {left amount : Int64} (h : 0 ≤ amount) :
    (toppedUp left amount).toInt = min 9223372036854775807 (max 0 left.toInt + amount.toInt) := by
  have hamount := toInt_nonneg h
  unfold toppedUp
  rw [Int64.toInt_ofInt_of_le] <;> omega

theorem KeyRecord.uses_spent {r : KeyRecord} {n : Int64} (h : r.uses = some n) (hpos : 0 < n) :
    r.spent.uses = some (n - 1) := by
  unfold KeyRecord.spent
  rw [h]
  dsimp only
  rw [if_neg (Int64.not_le.2 hpos)]

namespace KeyTable

/-- Every record that is left has the uses that it had. -/
def KeepsUses (t u : KeyTable) : Prop :=
  ∀ id r', u.records.get? id = some r' → ∃ r, t.records.get? id = some r ∧ r'.uses = r.uses

instance : IsPreorder KeyTable KeepsUses where
  refl _ _ r h := ⟨r, h, rfl⟩
  trans _ _ _ h h' id r'' hr'' := by
    obtain ⟨r', hr', huses'⟩ := h' id r'' hr''
    obtain ⟨r, hr, huses⟩ := h id r' hr'
    exact ⟨r, hr, huses'.trans huses⟩

theorem keepsUses_revoke (id : KeyId) (at' : Instant) (t : KeyTable) :
    KeepsUses t ((Write.revoke id at').apply t) := by
  intro id' r' hr'
  rw [Write.apply, revoke_apply, records_modifyRecord] at hr'
  split at hr'
  · obtain ⟨r, hr, rfl⟩ := Option.map_eq_some_iff.1 hr'
    exact ⟨r, hr, rfl⟩
  · exact ⟨r', hr', rfl⟩

theorem keepsUses_remove (id : KeyId) (t : KeyTable) :
    KeepsUses t ((Write.remove id).apply t) := by
  intro id' r' hr'
  rw [records_remove] at hr'
  split at hr'
  · cases hr'
  · exact ⟨r', hr', rfl⟩

theorem Replaced.keepsUses {K : KeyRecord → KeyRecord → Prop} {id : KeyId} {t u : KeyTable}
    (h : Replaced K id t u) (ht : t.Consistent)
    (hK : ∀ r r', K r r' → r'.id = r.id ∧ r'.uses = r.uses) : KeepsUses t u := by
  rcases h with rfl | ⟨r, r', hr, hk, rfl⟩
  · exact refl_of _ _
  · obtain ⟨hid, huses⟩ := hK r r' hk
    intro id' r'' hr''
    rw [records_replace, hid, ht.id_eq hr] at hr''
    split at hr''
    · rename_i heq
      cases hr''
      exact ⟨r, heq ▸ hr, huses⟩
    · exact ⟨r'', hr'', rfl⟩

/-- To replace a record does nothing to the others. -/
theorem Replaced.records_of_ne {K : KeyRecord → KeyRecord → Prop} {id id' : KeyId} {t u : KeyTable}
    (h : Replaced K id t u) (ht : t.Consistent) (hK : ∀ r r', K r r' → r'.id = r.id) (hne : id ≠ id') :
    u.records.get? id' = t.records.get? id' := by
  rcases h with rfl | ⟨r, r', hr, hk, rfl⟩
  · rfl
  · rw [records_replace, hK r r' hk, ht.id_eq hr, if_neg hne]

/-- The uses of the record under an identifier, if there is one. -/
def uses? (t : KeyTable) (id : KeyId) : Option (Option Int64) := (t.records.get? id).map (·.uses)

/-- How the uses of one record go on, with what is added to them and whether a use was paid for. The
record does not come back once it is gone. -/
inductive UseStep :
    Option (Option Int64) → Option Int64 → Bool → Option (Option Int64) → Prop where
  | gone (uses : Option (Option Int64)) (added : Option Int64) : UseStep uses added false none
  | kept (n : Int64) (added : Option Int64) : UseStep (some (some n)) added false (some (some n))
  | charged (n : Int64) (h : 0 < n) (paid : Bool) :
    UseStep (some (some n)) none paid (some (some (n - 1)))
  | toppedUp (n amount : Int64) :
    UseStep (some (some n)) (some amount) false (some (some (UsageLimits.toppedUp n amount)))

/-- What may still be spent of it. -/
def balance : Option (Option Int64) → Int
  | some (some n) => max 0 n.toInt
  | _ => 0

theorem balance_nonneg (uses : Option (Option Int64)) : 0 ≤ balance uses := by
  unfold balance
  split <;> omega

variable {t u : KeyTable} {id : KeyId}

theorem KeepsUses.useStep (h : KeepsUses t u) (hlimited : t.uses? id ≠ some none)
    (added : Option Int64) : UseStep (t.uses? id) added false (u.uses? id) := by
  unfold uses? at *
  cases hu : u.records.get? id with
  | none => exact .gone _ added
  | some r' =>
      obtain ⟨r, hr, huses⟩ := h id r' hu
      rw [hr] at hlimited ⊢
      cases hn : r.uses with
      | none => exact absurd (congrArg some hn) hlimited
      | some n =>
          rw [Option.map_some, Option.map_some, huses, hn]
          exact .kept n added

theorem useStep_of_same (hsame : u.records.get? id = t.records.get? id)
    (hlimited : t.uses? id ≠ some none) (added : Option Int64) :
    UseStep (t.uses? id) added false (u.uses? id) := by
  unfold uses? at *
  rw [hsame]
  cases hr : t.records.get? id with
  | none => exact .gone _ added
  | some r =>
      rw [hr] at hlimited
      cases hn : r.uses with
      | none => exact absurd (congrArg some hn) hlimited
      | some n =>
          rw [Option.map_some, hn]
          exact .kept n added

theorem useStep_of_dropped {v : KeyTable} {added : Option Int64} (id' : KeyId)
    (hstep : UseStep (t.uses? id) added false (u.uses? id))
    (hv : v = u ∨ v = (Write.remove id').apply u) : UseStep (t.uses? id) added false (v.uses? id) := by
  rcases hv with rfl | rfl
  · exact hstep
  · have hremoved := records_remove id' id u
    unfold uses? at hstep ⊢
    rw [hremoved]
    split
    · exact .gone _ added
    · exact hstep

namespace UseStep

variable {before after : Option (Option Int64)} {added : Option Int64} {paid : Bool}

theorem limited (h : UseStep before added paid after) : after ≠ some none := by
  cases h <;> exact nofun

/-- What is paid for comes out of what was left and what was added. -/
theorem balance_le (h : UseStep before added paid after)
    (hadded : ∀ amount, added = some amount → 0 ≤ amount) :
    balance after + paid.toNat ≤ balance before + added.elim 0 Int64.toInt := by
  have hnonneg : 0 ≤ added.elim 0 Int64.toInt := by
    cases added with
    | none => exact Int.le_refl 0
    | some amount => exact toInt_nonneg (hadded amount rfl)
  cases h with
  | gone =>
      have hbefore := balance_nonneg before
      change (0 : Int) + 0 ≤ _
      omega
  | kept n => exact Int.add_le_add_left hnonneg _
  | charged n hpos paid =>
      have hpos' := toInt_pos hpos
      have hsub := toInt_sub_one hpos
      have hpaid : paid.toNat ≤ 1 := Bool.toNat_le paid
      unfold balance
      simp only [Option.elim_none]
      omega
  | toppedUp n amount =>
      have hsum : (UsageLimits.toppedUp n amount).toInt = _ :=
        UsageLimits.toInt_toppedUp (hadded amount rfl)
      unfold balance
      simp only [Option.elim_some, Bool.toNat_false] at hnonneg ⊢
      omega

theorem nonneg (h : UseStep before added paid after)
    (hadded : ∀ amount, added = some amount → 0 ≤ amount) {n m : Int64} (hn : before = some (some n))
    (hm : after = some (some m)) (hpos : 0 ≤ n) : 0 ≤ m := by
  cases h with
  | gone => cases hm
  | kept n =>
      cases hn
      cases hm
      exact hpos
  | charged n hn' =>
      cases hm
      have hsub := toInt_sub_one hn'
      have hn' := toInt_pos hn'
      refine Int64.le_iff_toInt_le.2 ?_
      change 0 ≤ _
      omega
  | toppedUp n amount =>
      cases hm
      have hsum : (UsageLimits.toppedUp n amount).toInt = _ :=
        UsageLimits.toInt_toppedUp (hadded amount rfl)
      have hamount := toInt_nonneg (hadded amount rfl)
      refine Int64.le_iff_toInt_le.2 ?_
      change 0 ≤ _
      omega

theorem eq_none_of_none (h : UseStep none added paid after) : after = none := by
  cases h
  rfl

/-- If nothing is added, one use is taken at most. -/
theorem lowers (h : UseStep before none paid after) {n : Int64} (hn : before = some (some n)) :
    after = none ∨ ∃ m, after = some (some m) ∧ (m = n ∨ 0 < n ∧ m = n - 1) := by
  cases h with
  | gone => exact .inl rfl
  | kept n =>
      cases hn
      exact .inr ⟨n, rfl, .inl rfl⟩
  | charged n h =>
      cases hn
      exact .inr ⟨_, rfl, .inr ⟨h, rfl⟩⟩

/-- What is paid for takes exactly one. -/
theorem lowers_of_paid (h : UseStep before added true after) :
    ∃ n, before = some (some n) ∧ 0 < n ∧ after = some (some (n - 1)) := by
  cases h with
  | charged n h => exact ⟨n, rfl, h, rfl⟩

end UseStep

end KeyTable

end Latchkey
