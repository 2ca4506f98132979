import Latchkey.Plugin.UsageLimits
import Latchkey.Proofs.Key.Descent
import Latchkey.Proofs.Service.Verify
import Latchkey.Service.Issue
import Latchkey.Service.Lifecycle
import Latchkey.Service.Sweep
/-!
# What the service does to its table of keys

`Service.OnTable` says that a service keeps its records in a table that is a part of the state, which
neither its source of random bytes nor its sink for events touches, and which is not its clock. What
each operation does to the table follows from what its accesses to the store do, in the order in which
it makes them. Plugins may spend uses, and a creation that none of them prevents or undoes adds one
record.
-/

namespace Latchkey

open Act KeyTable

variable {σ ε : Type} {table : Lens σ KeyTable}

/-! ### The store of a table -/

namespace KeyStore

section Memory

variable (hl : table.Lawful)

include hl

theorem memory_findById (id : KeyId) (s : σ) :
    (memory table).findById id s = (.ok ((table.get s).records.get? id), s) :=
  onPart_eq_of_unchanged hl rfl

theorem memory_findByDigest (d : String) (s : σ) :
    (memory table).findByDigest d s = (.ok ((table.get s).lookup d), s) :=
  onPart_eq_of_unchanged hl rfl

theorem memory_findExpired (cutoff : Instant) (limit : Nat) (s : σ) :
    (memory table).findExpired cutoff limit s = (.ok ((table.get s).expired cutoff limit), s) :=
  onPart_eq_of_unchanged hl rfl

theorem memory_update_within (r : KeyRecord) :
    ((memory table).update r).Within table.get fun t u => u = (Write.update r).apply t :=
  fun s => hl.get_set _ s

theorem memory_spend_within (id : KeyId) :
    ((memory table).spend id).Within table.get (Writes Spending) :=
  .onPart hl fun _ => Writes.single (w := .spend id) trivial

end Memory

end KeyStore

theorem KeyTable.Writes.upkeep_of_spending {t t' : KeyTable} (h : Writes Spending t t') :
    Writes Upkeep t t' :=
  h.mono fun _ _ => Upkeep.of_spending

/-- The hooks write the table only to spend uses. -/
def Pipeline.OnlySpends (ps : Pipeline σ) (table : Lens σ KeyTable) : Prop :=
  ∀ p ∈ ps, ∀ hook, (p.answer hook).Within table.get (Writes Spending)

theorem Pipeline.OnlySpends.run_within {ps : Pipeline σ} (h : ps.OnlySpends table) (hook : Hook) :
    (ps.run hook).Within table.get (Writes Spending) :=
  Pipeline.run_within fun p hp => h p hp hook

theorem served_bind {α β : Type} {x : Act σ ε α} {f : α → Act σ ε β}
    (hx : x.Within table.get (Writes Spending)) (hf : ∀ a, (f a).Within table.get Served) :
    (x >>= f).Within table.get Served :=
  hx.bind_of hf (fun _ _ h => .inl h.upkeep_of_spending) fun _ _ _ => Served.after_spending

/-! ### Operations -/

namespace Service

structure OnTable (svc : Service σ) (table : Lens σ KeyTable) : Prop where
  lawful : table.Lawful
  store_eq : svc.store = .memory table
  track_keeps : ∀ e, (svc.sink.track e).Keeps table.get
  random_keeps : ∀ n, (svc.random n).Keeps table.get
  now_set : ∀ t s, svc.now (table.set t s) = svc.now s

section Parts

variable {τ : Type} {view : σ → τ} {R : τ → τ → Prop} [IsPreorder τ R] {svc : Service σ}

theorem checkLabel_within (request : CreateRequest) :
    (checkLabel request : Act σ Error Unit).Within view R := by
  unfold checkLabel
  split
  · exact Within.fail _
  · exact Within.pure ()

theorem demand_within {hook : Hook} (hrun : (svc.plugins.run hook).Within view R) :
    (svc.demand hook).Within view R := by
  refine Within.bind hrun fun rejection => ?_
  cases rejection with
  | some _ => exact Within.fail _
  | none => exact Within.pure ()

variable (hrandom : ∀ n, (svc.random n).Within view R)

include hrandom

theorem generateWith_within (label : String) :
    (svc.config.generator.generateWith label svc.random).Within view R := by
  unfold Generator.generateWith
  induction svc.config.generator.recipe label with
  | done result => exact Within.ofExcept result
  | draw count next ih => exact Within.bind (hrandom count).attempt ih

theorem freshId_within : svc.freshId.Within view R :=
  Within.bind (hrandom 16) fun _ => Within.pure _

end Parts

theorem removeEach_within {τ : Type} {view : σ → τ} {R : τ → τ → Prop} [IsPreorder τ R]
    {svc : Service σ} (hremove : ∀ id, (svc.store.remove id).Within view R)
    (htrack : ∀ e, (svc.track e).Within view R) (result : SweepResult) (ids : List KeyId) :
    (svc.removeEach result ids).Within view R := by
  induction ids generalizing result with
  | nil => exact Within.pure result
  | cons id ids ih =>
      refine Within.bind (hremove id).attempt fun removed => ?_
      rcases removed with e | _ | _
      · exact ih _
      · exact ih _
      · exact Within.bind (htrack _) fun _ => ih _

namespace OnTable

variable {svc : Service σ} (h : svc.OnTable table)

include h

theorem track_within (e : Event) : (svc.track e).Keeps table.get := (h.track_keeps e).ignore

theorem track_apply (e : Event) (s : σ) :
    ∃ s', svc.track e s = (.ok (), s') ∧ table.get s' = table.get s :=
  ⟨_, rfl, (h.track_keeps e s).symm⟩

theorem findById_apply (id : KeyId) (s : σ) :
    svc.store.findById id s = (.ok ((table.get s).records.get? id), s) := by
  rw [h.store_eq]
  exact KeyStore.memory_findById h.lawful id s

theorem load_apply (id : KeyId) (s : σ) :
    svc.load id s = (.ok ((table.get s).records.get? id), s) := by
  exact access_ok (h.findById_apply id s)

theorem lookup_apply (key : String) (s : σ) :
    svc.lookup key s = (.ok ((table.get s).lookup (svc.config.hasher.hash key)), s) := by
  refine access_ok ?_
  rw [h.store_eq]
  exact KeyStore.memory_findByDigest h.lawful _ s

section Preorder

variable {R : KeyTable → KeyTable → Prop}

theorem remove_store_within (hremove : ∀ id t, R t ((Write.remove id).apply t)) (id : KeyId) :
    (svc.store.remove id).Within table.get R := by
  rw [h.store_eq]
  exact .onPart h.lawful fun t => hremove id t

variable [IsPreorder KeyTable R]

theorem revoke_within_of (hrevoke : ∀ id at' t, R t ((Write.revoke id at').apply t)) (id : KeyId) :
    (svc.revoke id).Within table.get R := by
  refine Within.bind ?_ fun found => ?_
  · intro s
    rw [h.load_apply]
    exact refl_of R _
  cases found with
  | none => exact Within.pure _
  | some r =>
      dsimp only
      split
      · exact Within.pure _
      · refine Within.bind (Within.read _) fun now => Within.bind ?_ fun _ =>
          Within.bind (h.track_within _).within fun _ => Within.pure _
        rw [h.store_eq]
        exact access_within _ _ (.onPart h.lawful fun t => hrevoke id now t)

variable (hremove : ∀ id t, R t ((Write.remove id).apply t))

include hremove

theorem remove_within_of (id : KeyId) : (svc.remove id).Within table.get R := by
  refine Within.bind (access_within _ _ (h.remove_store_within hremove id)) fun removed => ?_
  cases removed with
  | true => exact Within.bind (h.track_within _).within fun _ => Within.pure _
  | false => exact Within.pure _

theorem sweep_within_of (o : SweepOptions) : (svc.sweep o).Within table.get R := by
  have hfind : ∀ cutoff, (svc.store.findExpired cutoff o.batch).Within table.get R := by
    intro cutoff s
    rw [h.store_eq, KeyStore.memory_findExpired h.lawful]
    exact refl_of R _
  have hremoved : ∀ result ids, (svc.removeEach result ids).Within table.get R :=
    removeEach_within (h.remove_store_within hremove) fun e => (h.track_within e).within
  unfold sweep
  split
  · exact Within.bind (Within.pure _) fun _ =>
      Within.bind ((hfind _).mapError _) fun _ => hremoved _ _
  · exact Within.bind (Within.read _) fun _ =>
      Within.bind ((hfind _).mapError _) fun _ => hremoved _ _

end Preorder

theorem remove_store_apply {id : KeyId} {r : KeyRecord} {s : σ}
    (hr : (table.get s).records.get? id = some r) :
    svc.store.remove id s = (.ok true, table.set ((table.get s).delete id r) s) := by
  rw [h.store_eq]
  change (KeyTable.remove id).onPart table s = _
  rw [onPart_apply, remove_of_some hr]

theorem remove_store_of_none {id : KeyId} {s : σ} (hr : (table.get s).records.get? id = none) :
    svc.store.remove id s = (.ok false, s) := by
  rw [h.store_eq]
  exact onPart_eq_of_unchanged h.lawful (remove_of_none hr)

theorem table_of_remove (id : KeyId) (s : σ) :
    table.get (svc.store.remove id s).2 = (Write.remove id).apply (table.get s) := by
  rw [h.store_eq]
  exact h.lawful.get_set _ s

/-- The removal from a table cannot fail. -/
theorem remove_attempt (id : KeyId) (s : σ) :
    ∃ removed, ((svc.store.remove id).attempt : Act σ Error (Except Error Bool)) s =
      (.ok (.ok removed), (svc.store.remove id s).2) := by
  have hremoved : ∃ removed, (svc.store.remove id s).1 = .ok removed := by
    rw [h.store_eq]
    cases hr : (table.get s).records.get? id with
    | none => exact ⟨false, congrArg Prod.fst (remove_of_none hr)⟩
    | some r => exact ⟨true, congrArg Prod.fst (remove_of_some hr)⟩
  obtain ⟨removed, hremoved⟩ := hremoved
  exact ⟨removed, attempt_ok (Prod.ext hremoved rfl)⟩

omit h in
theorem upkeep_of_remove (id : KeyId) (t : KeyTable) : Writes Upkeep t ((Write.remove id).apply t) :=
  Writes.single trivial

theorem verify_within (hplugins : svc.plugins.OnlySpends table) (request : VerifyRequest) :
    (svc.verify request).Within table.get (Writes Upkeep) := by
  refine VerifyWithin.verify ⟨fun d => ?_, h.remove_store_within upkeep_of_remove, fun e => ?_⟩
    fun hook => ?_
  · rw [h.store_eq]
    intro s
    rw [KeyStore.memory_findByDigest h.lawful]
    exact refl_of _ _
  · exact (h.track_keeps e).within
  · exact (hplugins.run_within hook).mono fun _ _ => Writes.upkeep_of_spending

theorem revoke_within (id : KeyId) : (svc.revoke id).Within table.get (Writes Upkeep) :=
  h.revoke_within_of (fun _ _ _ => Writes.single trivial) id

theorem remove_within (id : KeyId) : (svc.remove id).Within table.get (Writes Upkeep) :=
  h.remove_within_of upkeep_of_remove id

theorem sweep_within (o : SweepOptions) : (svc.sweep o).Within table.get (Writes Upkeep) :=
  h.sweep_within_of upkeep_of_remove o

theorem get_keeps (id : KeyId) : (svc.get id).Keeps table.get := by
  intro s
  unfold Service.get
  rw [h.load_apply]

/-! To change a stored record is to load it and to write it once more, after the change. -/

theorem update_apply {r old : KeyRecord} {s : σ}
    (hold : (table.get s).records.get? r.id = some old) :
    svc.store.update r s = (.ok (), table.set ((table.get s).replace old r) s) := by
  rw [h.store_eq]
  change (KeyTable.update r).onPart table s = _
  rw [onPart_apply, update_of_some hold]

theorem save_apply (purpose : String) {r old : KeyRecord} {s : σ}
    (hold : (table.get s).records.get? r.id = some old) :
    svc.save purpose r s = (.ok (some r), table.set ((table.get s).replace old r) s) := by
  unfold save
  rw [bind_ok (access_ok (h.update_apply hold))]
  rfl

section OwnIds

variable {s : σ} (hs : (table.get s).OwnIds)

include hs

theorem extend_apply (id : KeyId) (span : Duration) :
    svc.extend id span s =
      match (table.get s).records.get? id with
      | none => (.ok none, s)
      | some r =>
        match (r.expiresAt.getD (svc.now s)).add? span with
        | none => (.error (.error
            (.validation "expiry extension is out of the representable range")), s)
        | some at' => (.ok (some { r with expiresAt := some at' }),
            table.set ((table.get s).replace r { r with expiresAt := some at' }) s) := by
  unfold extend
  rw [bind_ok (h.load_apply id s)]
  cases hr : (table.get s).records.get? id with
  | none => rfl
  | some r =>
      dsimp only
      rw [← hs.id_eq hr] at hr
      cases r.expiresAt with
      | none =>
          dsimp only
          rw [bind_ok (svc.clock_apply s), Option.getD_none]
          cases (svc.now s).add? span with
          | none => rfl
          | some at' => exact h.save_apply _ hr
      | some start =>
          dsimp only
          rw [pure_bind, Option.getD_some]
          cases start.add? span with
          | none => rfl
          | some at' => exact h.save_apply _ hr

theorem updateMetadata_apply (id : KeyId) (patch : Metadata) :
    svc.updateMetadata id patch s =
      match (table.get s).records.get? id with
      | none => (.ok none, s)
      | some r => (.ok (some (r.mergeMetadata patch)),
          table.set ((table.get s).replace r (r.mergeMetadata patch)) s) := by
  unfold updateMetadata
  rw [bind_ok (h.load_apply id s)]
  cases hr : (table.get s).records.get? id with
  | none => rfl
  | some r =>
      rw [← hs.id_eq hr] at hr
      exact h.save_apply _ hr

theorem topUp_apply (id : KeyId) (amount : Int64) :
    UsageLimits.topUp ⟨svc.store⟩ id amount s =
      match (table.get s).records.get? id with
      | none => (.ok none, s)
      | some r =>
        match r.uses with
        | none => (.ok (some r), s)
        | some left =>
          let renewed := { r with uses := some (UsageLimits.toppedUp left amount) }
          (.ok (some renewed), table.set ((table.get s).replace r renewed) s) := by
  unfold UsageLimits.topUp
  rw [bind_ok (h.findById_apply id s)]
  cases hr : (table.get s).records.get? id with
  | none => rfl
  | some r =>
      dsimp only
      rw [← hs.id_eq hr] at hr
      cases r.uses with
      | none => rfl
      | some left => exact bind_ok (h.update_apply hr)

theorem setRemaining_apply (id : KeyId) (uses : Option Int64) :
    UsageLimits.setRemaining ⟨svc.store⟩ id uses s =
      match (table.get s).records.get? id with
      | none => (.ok none, s)
      | some r =>
          (.ok (some { r with uses }), table.set ((table.get s).replace r { r with uses }) s) := by
  unfold UsageLimits.setRemaining
  rw [bind_ok (h.findById_apply id s)]
  cases hr : (table.get s).records.get? id with
  | none => rfl
  | some r =>
      rw [← hs.id_eq hr] at hr
      exact bind_ok (h.update_apply hr)

theorem extend_replaced (id : KeyId) (span : Duration) :
    Replaced (fun r r' => ∃ expiresAt, r' = { r with expiresAt }) id (table.get s)
      (table.get (svc.extend id span s).2) := by
  rw [h.extend_apply hs]
  cases hr : (table.get s).records.get? id with
  | none => exact .inl rfl
  | some r =>
      dsimp only
      cases (r.expiresAt.getD (svc.now s)).add? span with
      | none => exact .inl rfl
      | some at' => exact .inr ⟨r, _, hr, ⟨some at', rfl⟩, h.lawful.get_set _ s⟩

theorem updateMetadata_replaced (id : KeyId) (patch : Metadata) :
    Replaced (fun r r' => r' = r.mergeMetadata patch) id (table.get s)
      (table.get (svc.updateMetadata id patch s).2) := by
  rw [h.updateMetadata_apply hs]
  cases hr : (table.get s).records.get? id with
  | none => exact .inl rfl
  | some r => exact .inr ⟨r, _, hr, rfl, h.lawful.get_set _ s⟩

theorem topUp_replaced (id : KeyId) (amount : Int64) :
    Replaced (fun r r' => ∃ left, r.uses = some left ∧
        r' = { r with uses := some (UsageLimits.toppedUp left amount) }) id (table.get s)
      (table.get (UsageLimits.topUp ⟨svc.store⟩ id amount s).2) := by
  rw [h.topUp_apply hs]
  cases hr : (table.get s).records.get? id with
  | none => exact .inl rfl
  | some r =>
      dsimp only
      cases huses : r.uses with
      | none => exact .inl rfl
      | some left => exact .inr ⟨r, _, hr, ⟨left, huses, rfl⟩, h.lawful.get_set _ s⟩

theorem setRemaining_replaced (id : KeyId) (uses : Option Int64) :
    Replaced (fun r r' => r' = { r with uses }) id (table.get s)
      (table.get (UsageLimits.setRemaining ⟨svc.store⟩ id uses s).2) := by
  rw [h.setRemaining_apply hs]
  cases hr : (table.get s).records.get? id with
  | none => exact .inl rfl
  | some r => exact .inr ⟨r, _, hr, rfl, h.lawful.get_set _ s⟩

end OwnIds

/-! A creation stores at most one record, and this with all that the draws of bytes do to the state
already done. -/

theorem generateWith_keeps (label : String) :
    (svc.config.generator.generateWith label svc.random).Keeps table.get :=
  Service.generateWith_within h.random_keeps label

theorem freshId_keeps : svc.freshId.Keeps table.get := Service.freshId_within h.random_keeps

section Preorder

variable {R : KeyTable → KeyTable → Prop} [IsPreorder KeyTable R]

theorem create_within_of (hrun : ∀ hook, (svc.plugins.run hook).Within table.get R)
    (hcreate : ∀ r t, R t ((Write.create r).apply t))
    (hremove : ∀ id t, R t ((Write.remove id).apply t)) (request : CreateRequest) :
    (svc.create request).Within table.get R := by
  have hmint : (svc.mint request).Within table.get R := by
    refine Within.bind (h.generateWith_keeps _).within fun key => ?_
    refine Within.bind h.freshId_keeps.within fun id => Within.bind (Within.read _) fun now => ?_
    refine (access_within _ _ ?_).then_pure _
    rw [h.store_eq]
    exact .onPart h.lawful fun t => hcreate _ t
  refine Within.bind (checkLabel_within request) fun _ => ?_
  refine Within.bind (demand_within (hrun _)) fun _ => Within.bind hmint fun k => ?_
  refine Within.bind (h.track_within _).within fun _ => Within.bind (hrun _) fun rejection => ?_
  cases rejection with
  | some _ =>
      exact Within.bind (h.remove_store_within hremove _).attempt fun _ => Within.fail _
  | none => exact Within.pure _

end Preorder

theorem mint_served (request : CreateRequest) : (svc.mint request).Within table.get Served := by
  have hcreate : ∀ r, (svc.store.create r).Within table.get Served := by
    intro r
    rw [h.store_eq]
    exact .onPart h.lawful fun t => Served.of_create r t
  refine served_bind (h.generateWith_keeps _).within fun key => ?_
  refine served_bind h.freshId_keeps.within fun id => served_bind (Within.read _) fun now => ?_
  exact (access_within _ _ (hcreate _)).then_pure _

theorem create_served (hplugins : svc.plugins.OnlySpends table) (request : CreateRequest) :
    (svc.create request).Within table.get Served := by
  refine served_bind (checkLabel_within request) fun _ => ?_
  refine served_bind (demand_within (hplugins.run_within _)) fun _ => ?_
  refine Within.bind_of (h.mint_served request) (fun issued => ?_) (fun _ _ hw => hw)
    fun _ _ _ => Served.then_upkeep
  refine Within.bind (h.track_within _).within fun _ => Within.bind ?_ fun rejection => ?_
  · exact (hplugins.run_within _).mono fun _ _ hw => hw.upkeep_of_spending
  · cases rejection with
    | some _ =>
        have hremove := h.remove_store_within upkeep_of_remove
        exact Within.bind (hremove _).attempt fun _ => Within.fail _
    | none => exact Within.pure _

end OnTable

end Service

end Latchkey
