import Latchkey.Proofs.Key.Drawing
import Latchkey.Proofs.Plugin.Turns
import Latchkey.Proofs.Service.World
/-!
# The course of a creation

The points that a creation passes, each with the state there, and the ways in which it ends, for a
service whose keys lie in a table. `OnTable.create_course` is the only place here that follows the code
of a creation. As long as the plugins do no more than judge, a creation without a key leaves the table
as it was, also where the record had been stored already; and one with a key adds its record.
-/

namespace Latchkey

open Act KeyTable

/-- The record is all that `u` has and `t` has not. -/
structure KeyTable.Gains (t u : KeyTable) (r : KeyRecord) : Prop where
  id_free : t.records.get? r.id = none
  digest_free : t.index.get? r.digest = none
  records_eq : ∀ id, u.records.get? id = if r.id = id then some r else t.records.get? id
  index_eq : ∀ d, u.index.get? d = if r.digest = d then some r.id else t.index.get? d
  consistent : t.Consistent → u.Consistent

theorem KeyTable.gains_add {t : KeyTable} {r : KeyRecord} (hid : t.records.get? r.id = none)
    (hdigest : t.index.get? r.digest = none) : t.Gains (t.add r) r where
  id_free := hid
  digest_free := hdigest
  records_eq := records_add r t
  index_eq := index_add r t
  consistent ht := ht.add hid hdigest

variable {σ : Type}

/-! ### Plugins that only judge -/

def Hook.OfCreation (hook : Hook) : Prop := hook.phase = .beforeCreate ∨ hook.phase = .created

/-- At a creation the plugins decide or fail, and do nothing to the table. -/
structure Pipeline.OnlyJudge (ps : Pipeline σ) (table : Lens σ KeyTable) : Prop where
  keeps : ∀ p ∈ ps, ∀ hook : Hook, hook.OfCreation → (p.answer hook).Keeps table.get
  answers : ∀ p ∈ ps, ∀ hook : Hook, hook.OfCreation → ∀ s, (p.answer hook).Answers s

theorem Pipeline.run_answers_of_each {ps : Pipeline σ} {hook : Hook}
    (h : ∀ p ∈ ps, ∀ s, (p.answer hook).Answers s) (s : σ) :
    ∃ rejection, (ps.run hook s).1 = .ok rejection := by
  induction ps generalizing s with
  | nil => exact ⟨none, rfl⟩
  | cons p ps ih =>
      obtain ⟨result, hresult⟩ :
          ∃ result, ((p.answer hook).attempt : Act σ Error _) s = (.ok result, _) :=
        (h p List.mem_cons_self s).attempt
      rw [run_cons, bind_ok hresult]
      cases rejection? p result with
      | some rejection => exact ⟨some rejection, rfl⟩
      | none => exact ih (fun q hq => h q (List.mem_cons_of_mem p hq)) _

theorem Pipeline.OnlyJudge.run_keeps {ps : Pipeline σ} {table : Lens σ KeyTable} (h : ps.OnlyJudge table)
    {hook : Hook} (hhook : hook.OfCreation) : (ps.run hook).Keeps table.get :=
  run_within fun p hp => h.keeps p hp hook hhook

theorem Pipeline.OnlyJudge.run_answers {ps : Pipeline σ} {table : Lens σ KeyTable}
    (h : ps.OnlyJudge table) {hook : Hook} (hhook : hook.OfCreation) (s : σ) :
    ∃ rejection, (ps.run hook s).1 = .ok rejection :=
  run_answers_of_each (fun p hp => h.answers p hp hook hhook) s

/-! ### The course -/

namespace Service

/-- The label that the key for a request gets. -/
def labelOf (svc : Service σ) (request : CreateRequest) : String :=
  request.label.getD svc.config.generator.label

/-- The record of a key made for a request. -/
def recordOf (svc : Service σ) (request : CreateRequest) (id : KeyId) (key : String) (now : Instant) :
    KeyRecord where
  id := id
  owner := request.owner
  label := svc.labelOf request
  digest := svc.config.hasher.hash key
  createdAt := now
  expiresAt := request.expiresAt
  uses := request.uses
  revokedAt := none
  metadata := request.metadata

/-- The label is fit for one, and the plugins that are shown the request let it pass. -/
structure Permits (svc : Service σ) (request : CreateRequest) (s s₁ : σ) : Prop where
  fit : request.label.bind Label.fault? = none
  passed : svc.plugins.run (.beforeCreate request) s = (.ok none, s₁)

/-- The key and the identifier are drawn, and `s₃` is the state in which the record is made. -/
structure Makes (svc : Service σ) (request : CreateRequest) (s : σ) (k : IssuedKey) (s₁ s₂ s₃ : σ) :
    Prop extends svc.Permits request s s₁ where
  key_drawn :
    svc.config.generator.generateWith (svc.labelOf request) svc.random s₁ = (.ok k.key, s₂)
  id_drawn : svc.freshId s₂ = (.ok k.id, s₃)
  record_eq : k.record = svc.recordOf request k.id k.key (svc.now s₃)

/-- The record is new to the table, stored and reported. -/
structure Stores (svc : Service σ) (table : Lens σ KeyTable) (request : CreateRequest) (s : σ)
    (k : IssuedKey) (s₁ s₂ s₃ s₄ : σ) : Prop extends svc.Makes request s k s₁ s₂ s₃ where
  id_free : (table.get s₃).records.get? k.record.id = none
  digest_free : (table.get s₃).index.get? k.record.digest = none
  reported : s₄ = (svc.track (.created k.id k.record.owner)
    (table.set ((table.get s₃).add k.record) s₃)).2

/-- The error of a creation whose record the store turns away. -/
def turnedAway (cause : Error) : Failure Error :=
  .error (.keystore .write "Failed to persist key" (some cause))

/-- The error of a creation that a plugin rejects. -/
def blockedBy (r : Rejection) : Failure Error := .error (.pluginBlocked r.plugin r.reason)

/-- The ways in which a creation ends, with its answer and the state that it leaves. -/
inductive Creation (svc : Service σ) (table : Lens σ KeyTable) (request : CreateRequest) (s : σ) :
    Except (Failure Error) IssuedKey → σ → Prop where
  | unfit {f : NameFault} (h : request.label.bind Label.fault? = some f) :
    Creation svc table request s (.error (.error (.validation f.message))) s
  | failedBefore {e : Failure Error} {s₁ : σ} (hfit : request.label.bind Label.fault? = none)
    (h : svc.plugins.run (.beforeCreate request) s = (.error e, s₁)) :
    Creation svc table request s (.error e) s₁
  | prevented {r : Rejection} {s₁ : σ} (hfit : request.label.bind Label.fault? = none)
    (h : svc.plugins.run (.beforeCreate request) s = (.ok (some r), s₁)) :
    Creation svc table request s (.error (blockedBy r)) s₁
  | keyless {e : Failure Error} {s₁ s₂ : σ} (hpermits : svc.Permits request s s₁)
    (h : svc.config.generator.generateWith (svc.labelOf request) svc.random s₁ = (.error e, s₂)) :
    Creation svc table request s (.error e) s₂
  | nameless {key : String} {e : Failure Error} {s₁ s₂ s₃ : σ} (hpermits : svc.Permits request s s₁)
    (hkey : svc.config.generator.generateWith (svc.labelOf request) svc.random s₁ = (.ok key, s₂))
    (h : svc.freshId s₂ = (.error e, s₃)) : Creation svc table request s (.error e) s₃
  | idTaken {k : IssuedKey} {s₁ s₂ s₃ : σ} (hmakes : svc.Makes request s k s₁ s₂ s₃)
    (h : (table.get s₃).records.get? k.record.id ≠ none) :
    Creation svc table request s (.error (turnedAway (idTaken k.record.id))) s₃
  | digestTaken {k : IssuedKey} {s₁ s₂ s₃ : σ} (hmakes : svc.Makes request s k s₁ s₂ s₃)
    (hid : (table.get s₃).records.get? k.record.id = none)
    (h : (table.get s₃).index.get? k.record.digest ≠ none) :
    Creation svc table request s (.error (turnedAway digestTaken)) s₃
  | failedCreated {k : IssuedKey} {e : Failure Error} {s₁ s₂ s₃ s₄ s₅ : σ}
    (hstores : svc.Stores table request s k s₁ s₂ s₃ s₄)
    (h : svc.plugins.run (.created k.record) s₄ = (.error e, s₅)) :
    Creation svc table request s (.error e) s₅
  | undone {k : IssuedKey} {r : Rejection} {s₁ s₂ s₃ s₄ s₅ : σ}
    (hstores : svc.Stores table request s k s₁ s₂ s₃ s₄)
    (h : svc.plugins.run (.created k.record) s₄ = (.ok (some r), s₅)) :
    Creation svc table request s (.error (blockedBy r)) (svc.store.remove k.id s₅).2
  | issued {k : IssuedKey} {s₁ s₂ s₃ s₄ s₅ : σ} (hstores : svc.Stores table request s k s₁ s₂ s₃ s₄)
    (h : svc.plugins.run (.created k.record) s₄ = (.ok none, s₅)) :
    Creation svc table request s (.ok k) s₅

variable {svc : Service σ} {table : Lens σ KeyTable} {request : CreateRequest} {k : IssuedKey}
  {s s' s₁ s₂ s₃ s₄ : σ}

theorem demand_of_run {hook : Hook} {rejection : Option Rejection}
    (h : svc.plugins.run hook s = (.ok rejection, s')) :
    svc.demand hook s =
      (match rejection with
        | some r => .error (blockedBy r)
        | none => .ok (), s') := by
  unfold demand
  rw [bind_ok h]
  cases rejection <;> rfl

theorem checkLabel_of_fit (h : request.label.bind Label.fault? = none) :
    (checkLabel request : Act σ Error Unit) = pure () := by
  unfold checkLabel
  rw [h]

/-- Shows the stored record to the plugins, and removes it again if one rejects it. -/
def settle (svc : Service σ) (k : IssuedKey) : Act σ Error IssuedKey := do
  match ← svc.plugins.run (.created k.record) with
  | some r =>
    let _ ← (svc.store.remove k.id).attempt
    .fail (.pluginBlocked r.plugin r.reason)
  | none => pure k

/-- Generates a key, stores its record and sees it settled. -/
def issue (svc : Service σ) (request : CreateRequest) : Act σ Error IssuedKey := do
  let k ← svc.mint request
  svc.track (.created k.id k.record.owner)
  svc.settle k

theorem create_eq (svc : Service σ) (request : CreateRequest) :
    svc.create request = (do checkLabel request; svc.demand (.beforeCreate request); svc.issue request) :=
  rfl

theorem Permits.create_eq (h : svc.Permits request s s₁) :
    svc.create request s = svc.issue request s₁ := by
  rw [Service.create_eq, checkLabel_of_fit h.fit, pure_bind, bind_ok (demand_of_run h.passed)]

theorem Makes.mint_eq (h : svc.Makes request s k s₁ s₂ s₃) :
    svc.mint request s₁ =
      (access .write "Failed to persist key" (svc.store.create k.record) >>= fun _ => pure k) s₃ := by
  obtain ⟨id, key, record⟩ := k
  have hrecord : record = svc.recordOf request id key (svc.now s₃) := h.record_eq
  subst hrecord
  exact (bind_ok h.key_drawn).trans (bind_ok h.id_drawn)

namespace OnTable

variable (h : svc.OnTable table)

include h

theorem create_store_apply (r : KeyRecord) (s : σ) :
    svc.store.create r s =
      ((KeyTable.create r (table.get s)).1, table.set (KeyTable.create r (table.get s)).2 s) := by
  rw [h.store_eq]
  rfl

theorem mint_of_turned_away {e : Error} (hmakes : svc.Makes request s k s₁ s₂ s₃)
    (hcreate : KeyTable.create k.record (table.get s₃) = (.error (.error e), table.get s₃)) :
    svc.mint request s₁ = (.error (turnedAway e), s₃) := by
  have hstore := h.create_store_apply k.record s₃
  rw [hcreate, h.lawful.set_get] at hstore
  rw [hmakes.mint_eq]
  exact bind_error (access_error hstore)

theorem mint_of_stores (hstores : svc.Stores table request s k s₁ s₂ s₃ s₄) :
    svc.mint request s₁ = (.ok k, table.set ((table.get s₃).add k.record) s₃) := by
  have hstore := h.create_store_apply k.record s₃
  rw [create_of_none hstores.id_free hstores.digest_free] at hstore
  rw [hstores.mint_eq, bind_ok (access_ok hstore)]
  rfl

theorem issue_of_stores (hstores : svc.Stores table request s k s₁ s₂ s₃ s₄) :
    svc.issue request s₁ = svc.settle k s₄ := by
  unfold issue
  rw [bind_ok (h.mint_of_stores hstores), hstores.reported]
  rfl

theorem settle_course (hstores : svc.Stores table request s k s₁ s₂ s₃ s₄) :
    svc.Creation table request s (svc.settle k s₄).1 (svc.settle k s₄).2 := by
  unfold settle
  rcases hrun : svc.plugins.run (.created k.record) s₄ with ⟨e | _ | r, s₅⟩
  · rw [bind_error hrun]
    exact .failedCreated hstores hrun
  · rw [bind_ok hrun]
    exact .issued hstores hrun
  · obtain ⟨removed, hremoved⟩ := h.remove_attempt k.id s₅
    rw [bind_ok hrun]
    dsimp only
    rw [bind_ok hremoved]
    exact .undone hstores hrun

theorem issue_course (hpermits : svc.Permits request s s₁) :
    svc.Creation table request s (svc.issue request s₁).1 (svc.issue request s₁).2 := by
  -- The two draws come first, the key before its identifier; then the table looks at the identifier
  -- before the digest.
  rcases hkey : svc.config.generator.generateWith (svc.labelOf request) svc.random s₁ with
    ⟨e | key, s₂⟩
  · have hmint : svc.mint request s₁ = (.error e, s₂) := bind_error hkey
    unfold issue
    rw [bind_error hmint]
    exact .keyless hpermits hkey
  rcases hid : svc.freshId s₂ with ⟨e | id, s₃⟩
  · have hmint : svc.mint request s₁ = (.error e, s₃) := (bind_ok hkey).trans (bind_error hid)
    unfold issue
    rw [bind_error hmint]
    exact .nameless hpermits hkey hid
  let k : IssuedKey := ⟨id, key, svc.recordOf request id key (svc.now s₃)⟩
  have hmakes : svc.Makes request s k s₁ s₂ s₃ := ⟨hpermits, hkey, hid, rfl⟩
  have hcreate := create_apply k.record (table.get s₃)
  by_cases htaken : (table.get s₃).records.contains k.record.id
  · rw [if_pos htaken] at hcreate
    unfold issue
    rw [bind_error (h.mint_of_turned_away hmakes hcreate)]
    exact .idTaken hmakes fun hnone => not_contains_iff.2 hnone htaken
  rw [if_neg htaken] at hcreate
  have hfree := not_contains_iff.1 htaken
  by_cases hknown : (table.get s₃).index.contains k.record.digest
  · rw [if_pos hknown] at hcreate
    unfold issue
    rw [bind_error (h.mint_of_turned_away hmakes hcreate)]
    exact .digestTaken hmakes hfree fun hnone => not_contains_iff.2 hnone hknown
  have hstores : svc.Stores table request s k s₁ s₂ s₃ _ :=
    ⟨hmakes, hfree, not_contains_iff.1 hknown, rfl⟩
  rw [h.issue_of_stores hstores]
  exact h.settle_course hstores

theorem create_course (request : CreateRequest) (s : σ) :
    svc.Creation table request s (svc.create request s).1 (svc.create request s).2 := by
  cases hfit : request.label.bind Label.fault? with
  | some f =>
      have hcheck : checkLabel request s = (.error (.error (.validation f.message)), s) := by
        unfold checkLabel
        rw [hfit]
        rfl
      rw [create_eq, bind_error hcheck]
      exact .unfit hfit
  | none =>
      rcases hrun : svc.plugins.run (.beforeCreate request) s with ⟨e | _ | r, s₁⟩
      · have hdemand : svc.demand (.beforeCreate request) s = (.error e, s₁) := bind_error hrun
        rw [create_eq, checkLabel_of_fit hfit, pure_bind, bind_error hdemand]
        exact .failedBefore hfit hrun
      · have hpermits : svc.Permits request s s₁ := ⟨hfit, hrun⟩
        rw [hpermits.create_eq]
        exact h.issue_course hpermits
      · rw [create_eq, checkLabel_of_fit hfit, pure_bind, bind_error (demand_of_run hrun)]
        exact .prevented hfit hrun

/-! ### What a creation does to the table -/

section Table

variable (hbefore : (svc.plugins.run (.beforeCreate request)).Keeps table.get)
  (hcreated : ∀ r, (svc.plugins.run (.created r)).Keeps table.get)

include hbefore

theorem table_of_key {r : Except (Failure Error) String} (hpermits : svc.Permits request s s₁)
    (hkey : svc.config.generator.generateWith (svc.labelOf request) svc.random s₁ = (r, s₂)) :
    table.get s₂ = table.get s :=
  ((h.generateWith_keeps _).view_eq hkey).trans (hbefore.view_eq hpermits.passed)

theorem table_of_makes (hmakes : svc.Makes request s k s₁ s₂ s₃) : table.get s₃ = table.get s :=
  (h.freshId_keeps.view_eq hmakes.id_drawn).trans
    (h.table_of_key hbefore hmakes.toPermits hmakes.key_drawn)

include hcreated

theorem table_of_settled {r : Except (Failure Error) (Option Rejection)}
    (hstores : svc.Stores table request s k s₁ s₂ s₃ s₄)
    (hrun : svc.plugins.run (.created k.record) s₄ = (r, s')) :
    table.get s' = (table.get s).add k.record := by
  obtain ⟨s₅, htrack, hs₅⟩ := h.track_apply (.created k.id k.record.owner)
    (table.set ((table.get s₃).add k.record) s₃)
  calc table.get s'
    _ = table.get s₄ := (hcreated k.record).view_eq hrun
    _ = table.get (table.set ((table.get s₃).add k.record) s₃) := by
        rw [hstores.reported, htrack, hs₅]
    _ = (table.get s).add k.record := by
        rw [h.lawful.get_set, h.table_of_makes hbefore hstores.toMakes]

theorem gains_of_settled {r : Except (Failure Error) (Option Rejection)}
    (hstores : svc.Stores table request s k s₁ s₂ s₃ s₄)
    (hrun : svc.plugins.run (.created k.record) s₄ = (r, s')) :
    (table.get s).Gains (table.get s') k.record := by
  have htable := h.table_of_makes hbefore hstores.toMakes
  rw [h.table_of_settled hbefore hcreated hstores hrun]
  exact gains_add (htable ▸ hstores.id_free) (htable ▸ hstores.digest_free)

/-- What has been stored for a rejected key is taken out again. -/
theorem table_of_undone {r : Except (Failure Error) (Option Rejection)}
    (hstores : svc.Stores table request s k s₁ s₂ s₃ s₄)
    (hrun : svc.plugins.run (.created k.record) s₄ = (r, s')) :
    table.get (svc.store.remove k.id s').2 = table.get s := by
  have hgains := h.gains_of_settled hbefore hcreated hstores hrun
  have hid : k.record.id = k.id := congrArg KeyRecord.id hstores.record_eq
  have hstored : (table.get s').records.get? k.id = some k.record := by
    rw [hgains.records_eq, if_pos hid]
  rw [h.remove_store_apply hstored, h.lawful.get_set,
    h.table_of_settled hbefore hcreated hstores hrun, ← hid,
    delete_add hgains.id_free hgains.digest_free]

/-- Without a key only plugins that do not answer can have left a record behind. -/
theorem table_of_error {e : Failure Error} (hcreate : svc.create request s = (.error e, s')) :
    table.get s' = table.get s ∨
      ∃ k s₁ s₂ s₃ s₄, svc.Stores table request s k s₁ s₂ s₃ s₄ ∧
        svc.plugins.run (.created k.record) s₄ = (.error e, s') := by
  have hcourse := h.create_course request s
  rw [hcreate] at hcourse
  cases hcourse with
  | unfit => exact .inl rfl
  | failedBefore _ hrun | prevented _ hrun => exact .inl (hbefore.view_eq hrun)
  | keyless hpermits hkey => exact .inl (h.table_of_key hbefore hpermits hkey)
  | nameless hpermits hkey hid =>
      exact .inl ((h.freshId_keeps.view_eq hid).trans (h.table_of_key hbefore hpermits hkey))
  | idTaken hmakes | digestTaken hmakes => exact .inl (h.table_of_makes hbefore hmakes)
  | failedCreated hstores hrun => exact .inr ⟨_, _, _, _, _, hstores, hrun⟩
  | undone hstores hrun => exact .inl (h.table_of_undone hbefore hcreated hstores hrun)

end Table

/-- A key is issued exactly if every point of the course is passed. -/
theorem create_eq_ok_iff :
    svc.create request s = (.ok k, s') ↔
      ∃ s₁ s₂ s₃ s₄, svc.Stores table request s k s₁ s₂ s₃ s₄ ∧
        svc.plugins.run (.created k.record) s₄ = (.ok none, s') := by
  constructor
  · intro hcreate
    have hcourse := h.create_course request s
    rw [hcreate] at hcourse
    cases hcourse with
    | issued hstores hrun => exact ⟨_, _, _, _, hstores, hrun⟩
  · rintro ⟨s₁, s₂, s₃, s₄, hstores, hrun⟩
    rw [hstores.create_eq, h.issue_of_stores hstores]
    exact bind_ok hrun

/-- A creation that ends without a key leaves the records and the index as they were, whichever way it
takes. It issues a key exactly if it passes every point of its course, and then the record made for the
request is all that the table gains. -/
theorem create_all_or_nothing (hplugins : svc.plugins.OnlyJudge table) (request : CreateRequest)
    (s : σ) :
    svc.Creation table request s (svc.create request s).1 (svc.create request s).2 ∧
      (∀ e s', svc.create request s = (.error e, s') → table.get s' = table.get s) ∧
      (∀ k s', svc.create request s = (.ok k, s') ↔
        ∃ s₁ s₂ s₃ s₄, svc.Stores table request s k s₁ s₂ s₃ s₄ ∧
          svc.plugins.run (.created k.record) s₄ = (.ok none, s')) ∧
      ∀ k s', svc.create request s = (.ok k, s') →
        (table.get s).Gains (table.get s') k.record ∧
          ∃ s₁ s₂ s₃, svc.Makes request s k s₁ s₂ s₃ ∧
            ((∀ recipe, svc.config.generator.kind ≠ .custom recipe) →
              ∃ bytes, k.key = svc.labelOf request ++ svc.config.generator.kind.body bytes ∧
                (svc.config.generator.kind.byteCount = 0 ∧ bytes = [] ∨
                  svc.random svc.config.generator.kind.byteCount s₁ = (.ok bytes, s₂))) := by
  have hbefore : (svc.plugins.run (.beforeCreate request)).Keeps table.get :=
    hplugins.run_keeps (.inl rfl)
  have hcreated : ∀ r, (svc.plugins.run (.created r)).Keeps table.get :=
    fun r => hplugins.run_keeps (.inr rfl)
  refine ⟨h.create_course request s, fun e s' hcreate => ?_, fun k s' => h.create_eq_ok_iff,
    fun k s' hcreate => ?_⟩
  · rcases h.table_of_error hbefore hcreated hcreate with hsame | ⟨k, s₁, s₂, s₃, s₄, -, hrun⟩
    · exact hsame
    · obtain ⟨rejection, hanswer⟩ : ∃ rejection, (svc.plugins.run (.created k.record) s₄).1 =
          .ok rejection := hplugins.run_answers (.inr rfl) s₄
      rw [hrun] at hanswer
      cases hanswer
  · obtain ⟨s₁, s₂, s₃, s₄, hstores, hrun⟩ := h.create_eq_ok_iff.1 hcreate
    exact ⟨h.gains_of_settled hbefore hcreated hstores hrun, s₁, s₂, s₃, hstores.toMakes,
      fun hkind => Generator.generateWith_ok hkind hstores.key_drawn⟩

end OnTable

end Service

namespace World

/-- Rejects the records that have no owner. -/
def owned : Plugin World where
  name := "owned"
  answer
    | .created r => pure (if r.owner.isNone then some (.rejecting "no owner") else none)
    | _ => pure none

def owners : Service World :=
  service [owned] { generator := { label := "sk_", kind := .hex 4 }, hasher := .custom id }

theorem owners_onlyJudge : owners.plugins.OnlyJudge keysPart where
  keeps p hp hook _ := by
    obtain rfl := List.mem_singleton.1 hp
    cases hook <;> exact fun _ => rfl
  answers p hp hook _ s := by
    obtain rfl := List.mem_singleton.1 hp
    cases hook <;> exact nofun

/-- The source of random bytes gives nothing but zeros. -/
def zeros : World := { entropy := .cycle [0] 0 }

def zeroId : KeyId := ⟨"00000000-0000-4000-8000-000000000000"⟩

/-- What there is after a key is issued. -/
def owning : World := (owners.create { owner := some "a" } zeros).2

/-- A creation without an owner is undone, one with an owner adds its record, and the same bytes drawn
once more lead to the same identifier, which is turned away. -/
theorem owner_required :
    (owners.create {} zeros).1 = .error (Service.blockedBy ⟨"owned", "no owner"⟩) ∧
      keysPart.get (owners.create {} zeros).2 = {} ∧
      (keysPart.get zeros).Gains (keysPart.get owning)
        (owners.recordOf { owner := some "a" } zeroId "sk_0000" .epoch) ∧
      (owners.create { owner := some "b" } owning).1 =
        .error (Service.turnedAway (KeyTable.idTaken zeroId)) ∧
      keysPart.get (owners.create { owner := some "b" } owning).2 = keysPart.get owning := by
  have h : owners.OnTable keysPart := service_onTable _ _
  obtain ⟨-, hundone, -, -⟩ := h.create_all_or_nothing owners_onlyJudge {} zeros
  obtain ⟨-, -, -, hissued⟩ := h.create_all_or_nothing owners_onlyJudge { owner := some "a" } zeros
  obtain ⟨-, hturned, -, -⟩ := h.create_all_or_nothing owners_onlyJudge { owner := some "b" } owning
  refine ⟨rfl, hundone _ _ rfl, ?_, rfl, hturned _ _ rfl⟩
  exact (hissued ⟨zeroId, "sk_0000", _⟩ owning rfl).1

end World

end Latchkey
