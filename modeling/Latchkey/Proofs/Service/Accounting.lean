import Latchkey.Proofs.Service.EventLog
import Latchkey.Proofs.Service.Footprint
/-!
# The log accounts for the keys

Over a run of any length the events about an identifier balance with its record, also where the identifier
is used again after its record was removed: one more was created than was removed exactly while there is a
record. From when a record comes in until it is removed it is revoked in at most one event, and in one if it
is revoked; and every acceptance of a key has been reported. Only the numbers of events matter here, and not
their order.
-/

namespace Latchkey

open Act KeyTable

variable {σ : Type}

namespace Event

/-- How many events of a name a log has about a key. -/
def count (name : String) (id : KeyId) (log : List Event) : Nat :=
  log.countP fun e => e.name = name && e.id = id

@[simp] theorem count_append (name : String) (id : KeyId) (log log' : List Event) :
    count name id (log ++ log') = count name id log + count name id log' :=
  List.countP_append

theorem count_eq_about (name : String) (id : KeyId) (log : List Event) :
    count name id log = (about id log).countP (·.name = name) :=
  List.countP_filter.symm

end Event

open Event

namespace Standing

def records : Standing → Nat
  | absent => 0
  | active | revoked => 1

def revocations : Standing → Nat
  | absent | active => 0
  | revoked => 1

end Standing

theorem KeyTable.records_standing (t : KeyTable) (id : KeyId) :
    (t.standing id).records = if t.records.contains id then 1 else 0 := by
  unfold standing Table.contains
  cases t.records.get? id with
  | none => rfl
  | some r => cases hr : r.isRevoked <;> simp [Standing.ofRecord, Standing.records, hr]

theorem KeyTable.revocations_standing {t : KeyTable} {id : KeyId} {r : KeyRecord}
    (hr : t.records.get? id = some r) :
    (t.standing id).revocations = if r.isRevoked then 1 else 0 := by
  rw [standing_of_get? hr]
  cases hrevoked : r.isRevoked <;> simp [Standing.ofRecord, Standing.revocations, hrevoked]

namespace Accounts

variable {id : KeyId} {log : List Event} {x y : Standing}

theorem count_silent (h : about id log = []) (name : String) : count name id log = 0 := by
  rw [count_eq_about, h]
  rfl

theorem count_told {e : Event} (h : about id log = [e]) (name : String) :
    count name id log = if e.name = name then 1 else 0 := by
  rw [count_eq_about, h]
  simp [List.countP_singleton]

theorem created_eq (h : Accounts id log x y) :
    count "key.created" id log + x.records = count "key.removed" id log + y.records := by
  cases h with
  | silent h => rw [count_silent h, count_silent h]
  | told h he =>
      rw [count_told h, count_told h]
      cases he with
      | removed _ _ hx => cases x <;> simp_all [Event.name, Standing.records]
      | _ => simp [Event.name, Standing.records]

theorem revoked_eq (h : Accounts id log x y) (hy : y ≠ .absent) :
    count "key.revoked" id log + x.revocations = y.revocations := by
  cases h with
  | silent h => rw [count_silent h, Nat.zero_add]
  | told h he =>
      rw [count_told h]
      cases he with
      | removed => exact absurd rfl hy
      | _ => simp [Event.name, Standing.revocations]

theorem revoked_eq_zero (h : Accounts id log x .absent) : count "key.revoked" id log = 0 := by
  cases h with
  | silent h => exact count_silent h _
  | told h he =>
      rw [count_told h]
      cases he
      simp [Event.name]

end Accounts

/-! ### Runs -/

namespace Service

/-- What happens next, and the call that is made if one is: where none is made, neither the keys nor the
events change. -/
inductive Step (svc : Service σ) (table : Lens σ KeyTable) (events : σ → List Event) :
    σ → List (σ × Call) → σ → Prop where
  | call {s : σ} {c : Call} (h : ∀ r, c ≠ .put r) : Step svc table events s [(s, c)] (c.after svc s)
  | elsewhere {s s' : σ} (htable : table.get s' = table.get s) (hevents : events s' = events s) :
    Step svc table events s [] s'

inductive History (svc : Service σ) (table : Lens σ KeyTable) (events : σ → List Event) :
    σ → List (σ × Call) → σ → Prop where
  | start (s : σ) : History svc table events s [] s
  | step {s s' s'' : σ} {calls calls' : List (σ × Call)} (hpast : History svc table events s calls s')
    (hstep : svc.Step table events s' calls' s'') : History svc table events s (calls ++ calls') s''

/-- A record of the identifier comes in with the first step after a state, and is there from then on. -/
inductive Life (svc : Service σ) (table : Lens σ KeyTable) (events : σ → List Event) (id : KeyId) :
    σ → σ → Prop where
  | comes {s s' : σ} {calls : List (σ × Call)} (hfree : (table.get s).records.get? id = none)
    (hstep : svc.Step table events s calls s') (hin : (table.get s').records.contains id) :
    Life svc table events id s s'
  | stays {s s' s'' : σ} {calls : List (σ × Call)} (hlife : Life svc table events id s s')
    (hstep : svc.Step table events s' calls s'') (hin : (table.get s'').records.contains id) :
    Life svc table events id s s''

namespace Recorded

variable {svc : Service σ} {table : Lens σ KeyTable} {events : σ → List Event}
  (h : svc.Recorded table events) {s s' : σ} {calls : List (σ × Call)}

include h

theorem step_reported (hs : (table.get s).OwnIds) (hstep : svc.Step table events s calls s') :
    Reported (books table events s) (books table events s') ∧ (table.get s').OwnIds := by
  cases hstep with
  | call hput => exact h.call_reported hs hput
  | elsewhere htable hevents =>
      rw [htable]
      exact ⟨.of_eq (Prod.ext hevents (congrArg standing htable)), hs⟩

theorem acceptances_step (hs : (table.get s).OwnIds) (hstep : svc.Step table events s calls s')
    (id : KeyId) :
    count "key.verified" id (events s) + acceptances svc id calls ≤
      count "key.verified" id (events s') := by
  cases hstep with
  | elsewhere _ hevents =>
      rw [hevents]
      rfl
  | @call c hput =>
      have hcalls : acceptances svc id [(s, c)] = (c.accepted svc id s).toNat := by simp [acceptances]
      rw [hcalls]
      cases haccepted : c.accepted svc id s with
      | false =>
          obtain ⟨log, hlog, -⟩ := (h.call_reported hs hput).1
          have hlog : events (c.after svc s) = events s ++ log := hlog
          rw [hlog, count_append]
          exact Nat.le_add_right _ _
      | true =>
          cases c with
          | verify request =>
              obtain ⟨owner, partition, hlog⟩ := h.accepted_reported hs haccepted
              have hone : count "key.verified" id [.verified id owner partition] = 1 := by
                simp [count, Event.name, Event.id]
              rw [Call.after, hlog, count_append, hone]
              rfl
          | _ => cases haccepted

/-- The events balance with the record after every run from an empty table. -/
theorem history_balance {s₀ : σ} (hkeys : table.get s₀ = {}) (hevents : events s₀ = [])
    (hrun : svc.History table events s₀ calls s) (id : KeyId) :
    (table.get s).OwnIds ∧
      count "key.created" id (events s) =
        count "key.removed" id (events s) + ((table.get s).standing id).records ∧
      acceptances svc id calls ≤ count "key.verified" id (events s) := by
  induction hrun with
  | start =>
      rw [hkeys, hevents]
      exact ⟨ownIds_empty, rfl, Nat.le_refl 0⟩
  | @step s' s'' calls calls' hpast hstep ih =>
      obtain ⟨hs, hbalance, haccepted⟩ := ih
      obtain ⟨⟨log, hlog, hkeys⟩, hs''⟩ := h.step_reported hs hstep
      have hlog : events s'' = events s' ++ log := hlog
      have hcreated := (hkeys id).created_eq
      have hverified := h.acceptances_step hs hstep id
      have hcalls : acceptances svc id (calls ++ calls') =
          acceptances svc id calls + acceptances svc id calls' := by simp [acceptances]
      refine ⟨hs'', ?_, ?_⟩
      · change count _ id log + ((table.get s').standing id).records =
          count _ id log + ((table.get s'').standing id).records at hcreated
        rw [hlog, count_append, count_append]
        omega
      · omega

/-- A step that leaves a record where one may have been adds an event exactly if it is revoked by it. -/
theorem revoked_in_step (hs : (table.get s).OwnIds) (hstep : svc.Step table events s calls s')
    {id : KeyId} (hin : (table.get s').records.get? id ≠ none) :
    count "key.revoked" id (events s') + ((table.get s).standing id).revocations =
      count "key.revoked" id (events s) + ((table.get s').standing id).revocations := by
  obtain ⟨⟨log, hlog, hkeys⟩, -⟩ := h.step_reported hs hstep
  have hlog : events s' = events s ++ log := hlog
  have hrevoked := (hkeys id).revoked_eq (mt standing_eq_absent_iff.1 hin)
  change count _ id log + ((table.get s).standing id).revocations =
    ((table.get s').standing id).revocations at hrevoked
  rw [hlog, count_append]
  omega

theorem revoked_at_end (hs : (table.get s).OwnIds) (hstep : svc.Step table events s calls s')
    {id : KeyId} (hgone : (table.get s').records.get? id = none) :
    count "key.revoked" id (events s') = count "key.revoked" id (events s) := by
  obtain ⟨⟨log, hlog, hkeys⟩, -⟩ := h.step_reported hs hstep
  have hlog : events s' = events s ++ log := hlog
  have hid : Accounts id log ((table.get s).standing id) ((table.get s').standing id) := hkeys id
  rw [standing_eq_absent_iff.2 hgone] at hid
  rw [hlog, count_append, hid.revoked_eq_zero, Nat.add_zero]

theorem revoked_in_life {id : KeyId} (hs : (table.get s).OwnIds)
    (hlife : svc.Life table events id s s') :
    (table.get s').OwnIds ∧ count "key.revoked" id (events s') =
      count "key.revoked" id (events s) + ((table.get s').standing id).revocations := by
  have hthere : ∀ {s : σ}, (table.get s).records.contains id → (table.get s).records.get? id ≠ none :=
    fun hin => mt not_contains_iff.2 (not_not.2 hin)
  induction hlife with
  | comes hfree hstep hin =>
      have hstart : ((table.get s).standing id).revocations = 0 := by
        rw [standing_eq_absent_iff.2 hfree]
        rfl
      have hrevoked := h.revoked_in_step hs hstep (hthere hin)
      exact ⟨(h.step_reported hs hstep).2, by omega⟩
  | stays _ hstep hin ih =>
      obtain ⟨hs', hrevoked⟩ := ih
      have hnext := h.revoked_in_step hs' hstep (hthere hin)
      exact ⟨(h.step_reported hs' hstep).2, by omega⟩

/-- The events account for the keys, from an empty table on. Those of every identifier balance with its
record. In the life of a record one event says that it was revoked if it is, and none if it is not, and its
removal adds none. There are at least as many events of verified keys as were accepted. -/
theorem log_accounts_for_keys {s₀ : σ} (hkeys : table.get s₀ = {}) (hevents : events s₀ = [])
    (hrun : svc.History table events s₀ calls s) (id : KeyId) :
    count "key.created" id (events s) =
        count "key.removed" id (events s) + (if (table.get s).records.contains id then 1 else 0) ∧
      (∀ s', svc.Life table events id s s' →
        (∀ r, (table.get s').records.get? id = some r → count "key.revoked" id (events s') =
          count "key.revoked" id (events s) + if r.isRevoked then 1 else 0) ∧
        ∀ calls s'', svc.Step table events s' calls s'' → (table.get s'').records.get? id = none →
          count "key.revoked" id (events s'') = count "key.revoked" id (events s')) ∧
      acceptances svc id calls ≤ count "key.verified" id (events s) := by
  obtain ⟨hs, hbalance, haccepted⟩ := h.history_balance hkeys hevents hrun id
  refine ⟨?_, fun s' hlife => ?_, haccepted⟩
  · rw [hbalance, records_standing]
  · obtain ⟨hs', hrevoked⟩ := h.revoked_in_life hs hlife
    refine ⟨fun r hr => ?_, fun calls s'' hstep hgone => h.revoked_at_end hs' hstep hgone⟩
    rw [hrevoked, revocations_standing hr]

end Recorded

end Service

namespace World

theorem guarded_recorded : guarded.Recorded keysPart events where
  toOnTable := guarded_inMemory.toOnTable
  recorded _ _ := rfl
  events_set _ _ := rfl
  random_silent n := Keeps.onPart (fun _ _ => rfl) (Entropy.draw n)
  plugins p hp := (guarded_inMemory.plugins p hp).unobtrusive guarded_inMemory.apart (fun _ _ => rfl)
    fun _ _ => rfl

/-! A key is issued, used, revoked twice and removed, and then the same identifier is drawn once more. -/

def held : World := (guarded.create {} zeros).2

def used : World := (guarded.verify { key := "k" } held).2

def revokedOnce : World := (guarded.revoke zeroId used).2

def revokedTwice : World := (guarded.revoke zeroId revokedOnce).2

def emptied : World := (guarded.remove zeroId revokedTwice).2

def heldAgain : World := (guarded.create {} emptied).2

def callsOfTwoLives : List (World × Call) :=
  [(zeros, .create {}), (held, .verify { key := "k" }), (used, .revoke zeroId),
    (revokedOnce, .revoke zeroId), (revokedTwice, .remove zeroId), (emptied, .create {})]

theorem two_lives_accounted :
    (count "key.created" zeroId heldAgain.events = count "key.removed" zeroId heldAgain.events + 1 ∧
        count "key.removed" zeroId heldAgain.events = 1) ∧
      (count "key.revoked" zeroId revokedTwice.events = count "key.revoked" zeroId zeros.events + 1 ∧
        count "key.revoked" zeroId emptied.events = count "key.revoked" zeroId revokedTwice.events) ∧
      acceptances guarded zeroId callsOfTwoLives = 1 ∧
        acceptances guarded zeroId callsOfTwoLives ≤ count "key.verified" zeroId heldAgain.events := by
  have h := guarded_recorded
  have hcall : ∀ {s : World} (c : Call), (∀ r, c ≠ .put r) →
      guarded.Step keysPart events s [(s, c)] (c.after guarded s) := fun _ hput => .call hput
  have hcreate : ∀ r, Call.create {} ≠ .put r := fun _ hc => by cases hc
  have hverify : ∀ r, Call.verify { key := "k" } ≠ .put r := fun _ hc => by cases hc
  have hrevoke : ∀ r, Call.revoke zeroId ≠ .put r := fun _ hc => by cases hc
  have hremove : ∀ r, Call.remove zeroId ≠ .put r := fun _ hc => by cases hc
  have hrun : guarded.History keysPart events zeros callsOfTwoLives heldAgain :=
    .step (.step (.step (.step (.step (.step (.start zeros) (hcall _ hcreate)) (hcall _ hverify))
      (hcall _ hrevoke)) (hcall _ hrevoke)) (hcall _ hremove)) (hcall _ hcreate)
  have hheld : (keysPart.get held).records.contains zeroId := by decide
  have hused : (keysPart.get used).records.contains zeroId := by decide
  have honce : (keysPart.get revokedOnce).records.contains zeroId := by decide
  have htwice : (keysPart.get revokedTwice).records.contains zeroId := by decide
  have hlife : guarded.Life keysPart events zeroId zeros revokedTwice :=
    .stays (.stays (.stays (.comes rfl (hcall _ hcreate) hheld) (hcall _ hverify) hused)
      (hcall _ hrevoke) honce) (hcall _ hrevoke) htwice
  obtain ⟨hbalance, -, hverified⟩ := h.log_accounts_for_keys rfl rfl hrun zeroId
  obtain ⟨-, hlives, -⟩ := h.log_accounts_for_keys rfl rfl (.start zeros) zeroId
  obtain ⟨hrevoked, hended⟩ := hlives revokedTwice hlife
  have hthere : (keysPart.get heldAgain).records.contains zeroId := by decide
  rw [if_pos hthere] at hbalance
  obtain ⟨r, hr, hisRevoked⟩ :
      ∃ r, (keysPart.get revokedTwice).records.get? zeroId = some r ∧ r.isRevoked = true :=
    ⟨_, rfl, rfl⟩
  have honce := hrevoked r hr
  rw [if_pos hisRevoked] at honce
  have hend : guarded.Step keysPart events revokedTwice [(revokedTwice, .remove zeroId)] emptied :=
    hcall _ hremove
  have hgone : ¬(keysPart.get emptied).records.contains zeroId := by decide
  exact ⟨⟨hbalance, by decide⟩, ⟨honce, hended _ emptied hend (not_contains_iff.1 hgone)⟩, by decide,
    hverified⟩

end World

end Latchkey
