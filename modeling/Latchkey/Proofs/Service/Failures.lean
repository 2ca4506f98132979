import Latchkey.Proofs.Service.Creation
import Latchkey.Proofs.Service.Journal
/-!
# Failures of the store

An operation stops at the first call to its store that fails, and says by an error what it was doing then.
There are three calls whose failure is always forgiven: the removal of an expired record that a
verification came across, the removal of a record that a plugin rejected after its creation, and the
removals of a sweep, which counts them. The journal of an operation shows both: what it answers, and what
comes after the failed call.
-/

namespace Latchkey

open Act

/-- An operation of a service on its keys. -/
inductive Operation where
  | create (request : CreateRequest)
  | verify (request : VerifyRequest)
  | get (id : KeyId)
  | revoke (id : KeyId)
  | remove (id : KeyId)
  | extend (id : KeyId) (span : Duration)
  | updateMetadata (id : KeyId) (patch : Metadata)
  | sweep (options : SweepOptions)

abbrev Operation.Answer : Operation → Type
  | create _ => IssuedKey
  | verify _ => VerifyOutcome
  | get _ => Option KeyRecord
  | revoke _ => Option KeyRecord
  | remove _ => Bool
  | extend _ _ => Option KeyRecord
  | updateMetadata _ _ => Option KeyRecord
  | sweep _ => SweepResult

variable {σ α β : Type}

def Service.perform (svc : Service σ) : (o : Operation) → Act σ Error o.Answer
  | .create request => svc.create request
  | .verify request => svc.verify request
  | .get id => svc.get id
  | .revoke id => svc.revoke id
  | .remove id => svc.remove id
  | .extend id span => svc.extend id span
  | .updateMetadata id patch => svc.updateMetadata id patch
  | .sweep options => svc.sweep options

/-- `e` has the code, is worth a retry exactly when `cause` is, and shows it to callers. -/
structure Error.Wraps (code : ErrorCode) (cause e : Error) : Prop where
  code_eq : e.code = code
  retryable_eq : e.retryable = cause.retryable
  cause_eq : e.payload.get? "cause" = some (.string cause.message)

/-- How the caller hears of a call that failed with `cause`. No operation makes the store ready or spends
a use itself. -/
def StoreCall.Reports (cause e : Error) : StoreCall → Prop
  | findByDigest _ | findById _ => Error.Wraps .keystoreReadFailed cause e
  | create _ | update _ | remove _ => Error.Wraps .keystoreWriteFailed cause e
  | revoke _ _ => Error.Wraps .keystoreRevokeFailed cause e
  | findExpired _ _ =>
    if cause.code = .sweepUnsupported then e = cause else Error.Wraps .keystoreReadFailed cause e
  | ready | spend _ => False

namespace Note

/-- The identifiers whose records were to be removed, in order. -/
def removals (notes : List Note) : List KeyId :=
  notes.filterMap fun
    | .call (.remove id) _ => some id
    | _ => none

/-- How many removals failed. -/
def failedRemovals (notes : List Note) : Nat :=
  notes.countP fun
    | .call (.remove _) (some (.error _)) => true
    | _ => false

/-- No call has failed with an error. -/
def Calm (notes : List Note) : Prop := ∀ c e, .call c (some (.error e)) ∉ notes

@[simp] theorem calm_nil : Calm [] := fun _ _ => List.not_mem_nil

@[simp] theorem calm_cons_iff {note : Note} {notes : List Note} :
    Calm (note :: notes) ↔ (∀ c e, note ≠ .call c (some (.error e))) ∧ Calm notes := by
  simp only [Calm, List.mem_cons, not_or, forall_and, ne_comm, ne_eq]

end Note

def StoreCall.isRemoval : StoreCall → Bool
  | remove _ => true
  | _ => false

/-- The calls whose failure an operation forgives. -/
def Operation.spares : Operation → StoreCall → Bool
  | create _ | verify _ | sweep _ => StoreCall.isRemoval
  | get _ | revoke _ | remove _ | extend _ _ | updateMetadata _ _ => fun _ => false

/-- What forgiving a failed call comes to, in the journal of the operation and with what is noted after the
call. -/
def Operation.Forgives (svc : Service σ) (s : σ) (notes : List Note) (c : StoreCall) (after : List Note) :
    (o : Operation) → Except (Failure Error) o.Answer → Prop
  | verify _, result => svc.config.autoDeleteExpired = true ∧ after = [] ∧
    ∃ r : KeyRecord, c = .remove r.id ∧ result = .ok (.invalidFor r Reason.expired)
  | create _, result => after = [] ∧ ∃ id plugin reason, c = .remove id ∧
    result = .error (.error (.pluginBlocked plugin reason))
  | sweep options, result => (∃ id, c = .remove id) ∧
    -- A removal that leaves the range of instants ends the sweep.
    ((∃ id, .call (.remove id) (some .outOfTime) ∈ notes ∧ result = .error .outOfTime) ∨
      ∃ ids s' counts, result = .ok counts ∧
        svc.store.findExpired (options.olderThan.getD (svc.now s)) options.batch s = (.ok ids, s') ∧
        Note.removals notes = ids ∧ counts.processed = ids.length ∧
        counts.failed = Note.failedRemovals notes)
  | get _, _ | revoke _, _ | remove _, _ | extend _ _, _ | updateMetadata _ _, _ => False

theorem Error.keystore_wraps (kind : StoreAccess) (purpose : String) (cause : Error) :
    Error.Wraps (Error.keystore kind purpose none).code cause (.keystore kind purpose (some cause)) where
  code_eq := by cases kind <;> rfl
  retryable_eq := by rw [Error.retryable]
  cause_eq := by
    unfold Error.payload Json.get?
    simp [List.lookup_cons, Json.optional, Error.cause?]

theorem StoreCall.reports_scanError (cutoff : Instant) (limit : Nat) (cause : Error) :
    (findExpired cutoff limit).Reports cause (Service.scanError cause) := by
  change if cause.code = .sweepUnsupported then Service.scanError cause = cause
    else Error.Wraps .keystoreReadFailed cause (Service.scanError cause)
  unfold Service.scanError
  split
  · rfl
  · exact Error.keystore_wraps .read _ cause

/-! ### Heeding the first failure -/

/-- What comes of a failed call that is to be spared is `F`; any other is the last that is done, and is
reported. -/
def Heeds (spared : StoreCall → Bool) (F : StoreCall → List Note → Except (Failure Error) α → Prop)
    (result : Except (Failure Error) α) (notes : List Note) : Prop :=
  ∀ before c cause after, notes = before ++ .call c (some (.error cause)) :: after →
    (spared c = true → F c after result) ∧
      (spared c = false → after = [] ∧ ∃ e, result = .error (.error e) ∧ c.Reports cause e)

/-- No failed call is to be spared, and all are reported. -/
abbrev HeedsAll (spared : StoreCall → Bool) (result : Except (Failure Error) α) (notes : List Note) :
    Prop :=
  Heeds spared (fun _ _ _ => False) result notes

namespace Heeds

variable {spared : StoreCall → Bool} {F : StoreCall → List Note → Except (Failure Error) α → Prop}
  {result : Except (Failure Error) α} {notes notes' : List Note}

theorem of_calm (h : Note.Calm notes) : Heeds spared F result notes := by
  intro before c cause after heq
  exact absurd (heq ▸ List.mem_append_right before List.mem_cons_self) (h c cause)

theorem nil : Heeds spared F result [] := of_calm Note.calm_nil

theorem calm_of_ok {a : β} (h : HeedsAll spared (.ok a) notes) : Note.Calm notes := by
  intro c cause hmem
  obtain ⟨before, after, heq⟩ := List.append_of_mem hmem
  obtain ⟨hspared, hreported⟩ := h before c cause after heq
  cases hc : spared c with
  | true => exact hspared hc
  | false =>
      obtain ⟨-, e, he, -⟩ := hreported hc
      cases he

/-- The one call that was made has failed. -/
theorem single {c : StoreCall} {cause : Error} (hspared : spared c = true → F c [] result)
    (hreported : spared c = false → ∃ e, result = .error (.error e) ∧ c.Reports cause e) :
    Heeds spared F result [.call c (some (.error cause))] := by
  intro before c' cause' after heq
  rcases List.cons_eq_append_iff.1 heq with ⟨rfl, hrest⟩ | ⟨_, rfl, hrest⟩
  · cases hrest
    exact ⟨hspared, fun hc => ⟨rfl, hreported hc⟩⟩
  · cases (List.append_eq_nil_iff.1 hrest.symm).2

theorem append (h : Note.Calm notes) (h' : Heeds spared F result notes') :
    Heeds spared F result (notes ++ notes') := by
  intro before c cause after heq
  rcases List.append_eq_append_iff.1 heq with ⟨mid, hbefore, hnotes'⟩ | ⟨mid, hnotes, hmid⟩
  · exact h' mid c cause after hnotes'
  · -- The failed call would be one of the first notes, unless these end before it.
    cases mid with
    | nil => exact h' [] c cause after hmid.symm
    | cons note mid =>
        cases hmid
        exact absurd (hnotes ▸ List.mem_append_right before List.mem_cons_self) (h c cause)

theorem mono {G : StoreCall → List Note → Except (Failure Error) α → Prop}
    (h : Heeds spared F result notes) (hle : ∀ c after, F c after result → G c after result) :
    Heeds spared G result notes := by
  intro before c cause after heq
  exact (h before c cause after heq).imp_left fun hspared hc => hle c after (hspared hc)

theorem error_of_error {e : Failure Error}
    (h : HeedsAll spared (.error e : Except (Failure Error) β) notes) :
    Heeds spared F (.error e) notes := by
  intro before c cause after heq
  obtain ⟨hspared, hreported⟩ := h before c cause after heq
  refine ⟨fun hc => (hspared hc).elim, fun hc => ?_⟩
  obtain ⟨hafter, e', he, hreports⟩ := hreported hc
  cases he
  exact ⟨hafter, e', rfl, hreports⟩

end Heeds

section Journals

variable {x : Act (σ × List Note) Error α} {y : Act σ Error α} {f : α → Act (σ × List Note) Error β}
  {g : α → Act σ Error β} {spared : StoreCall → Bool}
  {F : StoreCall → List Note → Except (Failure Error) β → Prop}

/-- What reports all failures may be followed by anything that reports some. -/
theorem Act.Journals.bind_heeds (hx : x.Journals y fun _ => HeedsAll spared)
    (hf : ∀ a, (f a).Journals (g a) fun _ => Heeds spared F) :
    (x >>= f).Journals (y >>= g) fun _ => Heeds spared F :=
  Journals.bind hx hf (fun _ _ _ _ _ h => h.error_of_error)
    fun _ _ _ _ _ _ _ h h' => Heeds.append h.calm_of_ok h'

theorem Act.Silent.bind_heeds (hx : Silent x y)
    (hf : ∀ a, (f a).Journals (g a) fun _ => Heeds spared F) :
    (x >>= f).Journals (y >>= g) fun _ => Heeds spared F :=
  Journals.bind_heeds (hx.mono fun _ _ _ h => h ▸ Heeds.nil) hf

theorem Act.Silent.heeds {F : StoreCall → List Note → Except (Failure Error) α → Prop}
    (hx : Silent x y) : x.Journals y fun _ => Heeds spared F :=
  hx.mono fun _ _ _ h => h ▸ Heeds.nil

/-- A call that is not to be spared, whose error is passed on as what is to be reported. -/
theorem StoreCall.mapError_heeds (c : StoreCall) (y : Act σ Error α) {f : Error → Error}
    (hspared : spared c = false) (hreports : ∀ cause, c.Reports cause (f cause)) :
    ((c.noted y).mapError f).Journals (y.mapError f) fun _ => HeedsAll spared := by
  refine (noted_mapError c y f).mono fun s result new h => ?_
  rcases h with ⟨a, s', -, -, rfl⟩ | ⟨cause, rfl, rfl⟩ | ⟨-, rfl⟩
  · exact Heeds.of_calm (by simp)
  · exact Heeds.single (fun hc => by simp [hspared] at hc) fun _ => ⟨_, rfl, hreports cause⟩
  · exact Heeds.of_calm (by simp)

end Journals

namespace Service

variable (svc : Service σ)

theorem journaled_track_heeds {spared : StoreCall → Bool} (e : Event) :
    (svc.journaled.track e).Journals (svc.track e) fun _ => HeedsAll spared := by
  refine (svc.journaled_track e).mono fun s result new h => ?_
  obtain ⟨-, rfl⟩ := h
  exact Heeds.of_calm (by simp)

/-! ### Operations on one record, which spare nothing -/

theorem journaled_load (id : KeyId) :
    (svc.journaled.load id).Journals (svc.load id) fun _ => HeedsAll fun _ => false :=
  (StoreCall.findById id).mapError_heeds _ rfl fun cause => Error.keystore_wraps .read _ cause

theorem journaled_save (purpose : String) (r : KeyRecord) :
    (svc.journaled.save purpose r).Journals (svc.save purpose r) fun _ => HeedsAll fun _ => false := by
  refine Journals.bind_heeds ?_ fun _ => (Silent.pure _).heeds
  exact (StoreCall.update r).mapError_heeds _ rfl fun cause => Error.keystore_wraps .write _ cause

theorem journaled_revoke (id : KeyId) :
    (svc.journaled.revoke id).Journals (svc.revoke id) fun _ => HeedsAll fun _ => false := by
  refine Journals.bind_heeds (svc.journaled_load id) fun found => ?_
  cases found with
  | none => exact (Silent.pure _).heeds
  | some r =>
      dsimp only
      split
      · exact (Silent.pure _).heeds
      · refine Silent.bind_heeds svc.journaled_clock fun now => ?_
        refine Journals.bind_heeds ?_ fun _ => ?_
        · exact (StoreCall.revoke id now).mapError_heeds _ rfl fun cause =>
            Error.keystore_wraps .revoke _ cause
        · exact Journals.bind_heeds (svc.journaled_track_heeds _) fun _ => (Silent.pure _).heeds

theorem journaled_remove (id : KeyId) :
    (svc.journaled.remove id).Journals (svc.remove id) fun _ => HeedsAll fun _ => false := by
  refine Journals.bind_heeds ?_ fun removed => ?_
  · exact (StoreCall.remove id).mapError_heeds _ rfl fun cause => Error.keystore_wraps .write _ cause
  · cases removed with
    | true => exact Journals.bind_heeds (svc.journaled_track_heeds _) fun _ => (Silent.pure _).heeds
    | false => exact (Silent.pure _).heeds

theorem journaled_extend (id : KeyId) (span : Duration) :
    (svc.journaled.extend id span).Journals (svc.extend id span) fun _ => HeedsAll fun _ => false := by
  refine Journals.bind_heeds (svc.journaled_load id) fun found => ?_
  cases found with
  | none => exact (Silent.pure _).heeds
  | some r =>
      dsimp only
      cases r.expiresAt
      case' none => refine Silent.bind_heeds svc.journaled_clock fun start => ?_
      case' some => refine Silent.bind_heeds (Silent.pure _) fun start => ?_
      all_goals
        cases start.add? span with
        | none => exact (Silent.fail _).heeds
        | some at' => exact svc.journaled_save _ _

theorem journaled_updateMetadata (id : KeyId) (patch : Metadata) :
    (svc.journaled.updateMetadata id patch).Journals (svc.updateMetadata id patch)
      fun _ => HeedsAll fun _ => false := by
  refine Journals.bind_heeds (svc.journaled_load id) fun found => ?_
  cases found with
  | none => exact (Silent.pure _).heeds
  | some r => exact svc.journaled_save _ _

/-! ### Verifying -/

/-- How a verification forgives a failed removal. -/
def ForgivesDrop (c : StoreCall) (after : List Note) (result : Except (Failure Error) VerifyOutcome) :
    Prop :=
  svc.config.autoDeleteExpired = true ∧ after = [] ∧
    ∃ r : KeyRecord, c = .remove r.id ∧ result = .ok (.invalidFor r Reason.expired)

/-- The removal of an expired record, up to the answer of the verification. -/
theorem journaled_dropExpired (r : KeyRecord) :
    (svc.journaled.dropExpired r >>= fun _ => pure (VerifyOutcome.invalidFor r Reason.expired)).Journals
      (svc.dropExpired r >>= fun _ => pure (VerifyOutcome.invalidFor r Reason.expired))
      fun _ => Heeds StoreCall.isRemoval svc.ForgivesDrop := by
  have hconfig : svc.journaled.config = svc.config := rfl
  unfold Service.dropExpired
  rw [hconfig]
  split
  · rename_i hauto
    rw [bind_assoc, bind_assoc]
    refine noted_attempt_bind (.remove r.id) _ (fun _ => ?_) (fun cause => ?_) ?_
    · refine Journals.bind (svc.journaled_track _) (fun _ => journals_pure _) ?_ ?_
      · rintro _ e _ new - ⟨-, rfl⟩
        exact Heeds.of_calm (by simp)
      · rintro _ _ _ _ _ _ - ⟨-, rfl⟩ ⟨-, rfl⟩
        exact Heeds.of_calm (by simp)
    · refine (journals_pure _).mono fun _ _ _ h => ?_
      obtain ⟨rfl, rfl⟩ := h
      exact Heeds.single (fun _ => ⟨hauto, rfl, r, rfl, rfl⟩) nofun
    · exact Heeds.of_calm (by simp)
  · exact (Silent.pure _).heeds

theorem journaled_verifyStanding (request : VerifyRequest) (r : KeyRecord) :
    (svc.journaled.verifyStanding request r).Journals (svc.verifyStanding request r)
      fun _ => Heeds StoreCall.isRemoval svc.ForgivesDrop := by
  refine Silent.bind_heeds svc.journaled_clock fun now => ?_
  split
  · exact svc.journaled_dropExpired r
  · split
    · exact (Silent.pure _).heeds
    · refine Journals.bind_heeds (svc.journaled_track_heeds _) fun _ => ?_
      refine Silent.bind_heeds (svc.journaled_run _) fun rejection => ?_
      cases rejection with
      | some rejection => exact (Silent.pure _).heeds
      | none => exact (Silent.pure _).heeds

theorem journaled_verify (request : VerifyRequest) :
    (svc.journaled.verify request).Journals (svc.verify request)
      fun _ => Heeds StoreCall.isRemoval svc.ForgivesDrop := by
  refine Silent.bind_heeds (svc.journaled_checkFields request) fun _ => ?_
  refine Silent.bind_heeds (svc.journaled_run _) fun rejection => ?_
  cases rejection with
  | some rejection => exact (Silent.pure _).heeds
  | none =>
      refine Journals.bind_heeds ?_ fun found => ?_
      · exact (StoreCall.findByDigest _).mapError_heeds _ rfl fun cause =>
          Error.keystore_wraps .read _ cause
      cases found with
      | none => exact (Silent.pure _).heeds
      | some r =>
          dsimp only
          unfold verifyRecord
          split
          · exact (Silent.pure _).heeds
          · refine Silent.bind_heeds (svc.journaled_run _) fun rejection => ?_
            cases rejection with
            | some rejection => exact (Silent.pure _).heeds
            | none => exact svc.journaled_verifyStanding request r

/-! ### Creating -/

/-- How a creation forgives a failed removal. -/
def ForgivesRollback (c : StoreCall) (after : List Note)
    (result : Except (Failure Error) IssuedKey) : Prop :=
  after = [] ∧ ∃ id plugin reason, c = .remove id ∧
    result = .error (.error (.pluginBlocked plugin reason))

theorem journaled_mint (request : CreateRequest) :
    (svc.journaled.mint request).Journals (svc.mint request) fun _ => HeedsAll StoreCall.isRemoval := by
  refine Silent.bind_heeds (svc.journaled_generateWith _ _) fun key => ?_
  refine Silent.bind_heeds svc.journaled_freshId fun id => ?_
  refine Silent.bind_heeds svc.journaled_clock fun now => ?_
  refine Journals.bind_heeds ?_ fun _ => (Silent.pure _).heeds
  exact (StoreCall.create _).mapError_heeds _ rfl fun cause => Error.keystore_wraps .write _ cause

theorem journaled_settle (k : IssuedKey) :
    (svc.journaled.settle k).Journals (svc.settle k)
      fun _ => Heeds StoreCall.isRemoval ForgivesRollback := by
  refine Silent.bind_heeds (svc.journaled_run _) fun rejection => ?_
  cases rejection with
  | none => exact (Silent.pure _).heeds
  | some r =>
      refine noted_attempt_bind (.remove k.id) _ (fun _ => ?_) (fun cause => ?_) ?_
      · refine (journals_fail _).mono fun _ _ _ h => ?_
        obtain ⟨rfl, rfl⟩ := h
        exact Heeds.of_calm (by simp)
      · refine (journals_fail _).mono fun _ _ _ h => ?_
        obtain ⟨rfl, rfl⟩ := h
        exact Heeds.single (fun _ => ⟨rfl, k.id, r.plugin, r.reason, rfl, rfl⟩) nofun
      · exact Heeds.of_calm (by simp)

theorem journaled_create (request : CreateRequest) :
    (svc.journaled.create request).Journals (svc.create request)
      fun _ => Heeds StoreCall.isRemoval ForgivesRollback := by
  rw [create_eq, create_eq]
  refine Silent.bind_heeds (checkLabel_silent request) fun _ => ?_
  refine Silent.bind_heeds (svc.journaled_demand _) fun _ => ?_
  refine Journals.bind_heeds (svc.journaled_mint request) fun k => ?_
  exact Journals.bind_heeds (svc.journaled_track_heeds _) fun _ => svc.journaled_settle k

/-! ### Sweeping -/

/-- The journal of removing records one after another, with the counts to begin with and the answer. -/
inductive Removals : SweepResult → List KeyId → Except (Failure Error) SweepResult → List Note → Prop where
  | done {counts : SweepResult} : Removals counts [] (.ok counts) []
  | removed {counts : SweepResult} {id : KeyId} {ids : List KeyId}
    {result : Except (Failure Error) SweepResult} {notes : List Note}
    (h : Removals { counts with removed := counts.removed + 1 } ids result notes) :
    Removals counts (id :: ids) result (.call (.remove id) none :: .event (.removed id true) :: notes)
  | absent {counts : SweepResult} {id : KeyId} {ids : List KeyId}
    {result : Except (Failure Error) SweepResult} {notes : List Note}
    (h : Removals counts ids result notes) :
    Removals counts (id :: ids) result (.call (.remove id) none :: notes)
  | failed {counts : SweepResult} {id : KeyId} {ids : List KeyId} {cause : Error}
    {result : Except (Failure Error) SweepResult} {notes : List Note}
    (h : Removals { counts with failed := counts.failed + 1 } ids result notes) :
    Removals counts (id :: ids) result (.call (.remove id) (some (.error cause)) :: notes)
  | outOfTime {counts : SweepResult} {id : KeyId} {ids : List KeyId} :
    Removals counts (id :: ids) (.error .outOfTime) [.call (.remove id) (some .outOfTime)]

theorem journaled_removeEach (counts : SweepResult) (ids : List KeyId) :
    (svc.journaled.removeEach counts ids).Journals (svc.removeEach counts ids)
      fun _ => Removals counts ids := by
  induction ids generalizing counts with
  | nil =>
      refine (journals_pure counts).mono fun _ _ _ h => ?_
      obtain ⟨rfl, rfl⟩ := h
      exact .done
  | cons id ids ih =>
      refine noted_attempt_bind (.remove id) _ (fun removed => ?_) (fun cause => ?_) .outOfTime
      · cases removed with
        | false => exact (ih counts).mono fun _ _ _ h => .absent h
        | true =>
            refine Journals.bind (svc.journaled_track _) (fun _ => ih _) ?_ ?_
            · rintro _ _ _ _ - ⟨he, -⟩
              cases he
            · rintro _ _ _ _ _ _ - ⟨-, rfl⟩ h
              exact .removed h
      · exact (ih _).mono fun _ _ _ h => .failed h

variable {svc} {counts : SweepResult} {ids : List KeyId} {notes : List Note}
  {result : Except (Failure Error) SweepResult}

theorem Removals.remove_of_mem (h : Removals counts ids result notes) {c : StoreCall}
    {failure : Option (Failure Error)} (hmem : .call c failure ∈ notes) : ∃ id, c = .remove id := by
  induction h with
  | done => cases hmem
  | @removed _ id _ _ _ _ ih =>
      rcases List.mem_cons.1 hmem with he | hmem
      · cases he
        exact ⟨id, rfl⟩
      · rcases List.mem_cons.1 hmem with he | hmem
        · cases he
        · exact ih hmem
  | @absent _ id _ _ _ _ ih | @failed _ id _ _ _ _ _ ih =>
      rcases List.mem_cons.1 hmem with he | hmem
      · cases he
        exact ⟨id, rfl⟩
      · exact ih hmem
  | @outOfTime _ id _ =>
      cases List.mem_singleton.1 hmem
      exact ⟨id, rfl⟩

/-- Unless a removal leaves the range of instants, all are made, and those that fail are counted. -/
theorem Removals.outOfTime_or_counted (h : Removals counts ids result notes) :
    ((∃ id, .call (.remove id) (some .outOfTime) ∈ notes) ∧ result = .error .outOfTime) ∨
      ∃ counts', result = .ok counts' ∧ Note.removals notes = ids ∧
        counts'.processed = counts.processed ∧
        counts'.failed = counts.failed + Note.failedRemovals notes := by
  induction h with
  | done => exact .inr ⟨_, rfl, rfl, rfl, rfl⟩
  | removed _ ih =>
      rcases ih with ⟨⟨id, hmem⟩, he⟩ | ⟨counts', he, hids, hprocessed, hfailed⟩
      · exact .inl ⟨⟨id, List.mem_cons_of_mem _ (List.mem_cons_of_mem _ hmem)⟩, he⟩
      · exact .inr ⟨counts', he, congrArg (_ :: ·) hids, hprocessed, hfailed⟩
  | absent _ ih =>
      rcases ih with ⟨⟨id, hmem⟩, he⟩ | ⟨counts', he, hids, hprocessed, hfailed⟩
      · exact .inl ⟨⟨id, List.mem_cons_of_mem _ hmem⟩, he⟩
      · exact .inr ⟨counts', he, congrArg (_ :: ·) hids, hprocessed, hfailed⟩
  | failed _ ih =>
      rcases ih with ⟨⟨id, hmem⟩, he⟩ | ⟨counts', he, hids, hprocessed, hfailed⟩
      · exact .inl ⟨⟨id, List.mem_cons_of_mem _ hmem⟩, he⟩
      · refine .inr ⟨counts', he, congrArg (_ :: ·) hids, hprocessed, ?_⟩
        rw [hfailed, Note.failedRemovals, Note.failedRemovals, List.countP_cons_of_pos rfl,
          Nat.add_assoc, Nat.add_comm 1]
  | outOfTime => exact .inl ⟨⟨_, List.mem_cons_self⟩, rfl⟩

/-- The journal of a sweep that looks for what had expired by `cutoff`. -/
inductive Sweeping (svc : Service σ) (batch : Nat) (cutoff : Instant) (s : σ) :
    Except (Failure Error) SweepResult → List Note → Prop where
  | unscanned {cause : Error} : Sweeping svc batch cutoff s (.error (.error (scanError cause)))
    [.call (.findExpired cutoff batch) (some (.error cause))]
  | outOfTime : Sweeping svc batch cutoff s (.error .outOfTime)
    [.call (.findExpired cutoff batch) (some .outOfTime)]
  | scanned {ids : List KeyId} {s' : σ} {result : Except (Failure Error) SweepResult}
    {notes : List Note} (h : svc.store.findExpired cutoff batch s = (.ok ids, s'))
    (hremovals : Removals ⟨ids.length, 0, 0, ids.length = batch⟩ ids result notes) :
    Sweeping svc batch cutoff s result (.call (.findExpired cutoff batch) none :: notes)

theorem journaled_sweep (svc : Service σ) (o : SweepOptions) :
    (svc.journaled.sweep o).Journals (svc.sweep o) fun s =>
      Sweeping svc o.batch (o.olderThan.getD (svc.now s)) s := by
  have hscan : ∀ cutoff, Journals
      ((svc.journaled.store.findExpired cutoff o.batch).mapError scanError >>= fun ids =>
        svc.journaled.removeEach ⟨ids.length, 0, 0, ids.length = o.batch⟩ ids)
      ((svc.store.findExpired cutoff o.batch).mapError scanError >>= fun ids =>
        svc.removeEach ⟨ids.length, 0, 0, ids.length = o.batch⟩ ids)
      (Sweeping svc o.batch cutoff) := by
    intro cutoff
    refine Journals.bind (noted_mapError (.findExpired cutoff o.batch) _ scanError)
      (fun ids => svc.journaled_removeEach _ ids) ?_ ?_
    · rintro s e s' new - (⟨_, _, -, he, -⟩ | ⟨cause, he, rfl⟩ | ⟨he, rfl⟩)
      · cases he
      · cases he
        exact .unscanned
      · cases he
        exact .outOfTime
    · rintro s ids s' new result new' - (⟨ids', s₁, hfound, he, rfl⟩ | ⟨_, he, -⟩ | ⟨he, -⟩) hremovals
      · cases he
        exact .scanned hfound hremovals
      · cases he
      · cases he
  unfold sweep
  cases o.olderThan with
  | some cutoff =>
      dsimp only
      rw [pure_bind, pure_bind]
      exact hscan cutoff
  | none =>
      refine Journals.bind svc.journaled_clock hscan ?_ ?_
      · rintro s e s' new he
        cases he
      · rintro s now s' new result new' he rfl hsweeping
        cases he
        exact hsweeping

/-- The store fails as a removal, or its failure ends the sweep. -/
theorem Sweeping.heeds {svc : Service σ} {o : SweepOptions} {s : σ}
    (h : Sweeping svc o.batch (o.olderThan.getD (svc.now s)) s result notes) :
    Heeds StoreCall.isRemoval
      (fun c after result => (Operation.sweep o).Forgives svc s notes c after result) result notes := by
  cases h with
  | unscanned => exact Heeds.single nofun fun _ => ⟨_, rfl, StoreCall.reports_scanError _ _ _⟩
  | outOfTime => exact Heeds.of_calm (by simp)
  | @scanned ids s' _ notes hfound hremovals =>
      intro before c cause after heq
      have hmem : .call c (some (.error cause)) ∈ notes := by
        rcases List.cons_eq_append_iff.1 heq with ⟨-, hrest⟩ | ⟨_, -, hrest⟩
        · cases hrest
        · exact hrest ▸ List.mem_append_right _ List.mem_cons_self
      obtain ⟨id, rfl⟩ := hremovals.remove_of_mem hmem
      refine ⟨fun _ => ⟨⟨id, rfl⟩, ?_⟩, nofun⟩
      rcases hremovals.outOfTime_or_counted with ⟨⟨id, hid⟩, he⟩ | ⟨counts, he, hids, hprocessed, hfailed⟩
      · exact .inl ⟨id, List.mem_cons_of_mem _ hid, he⟩
      · exact .inr ⟨ids, s', counts, he, hfound, hids, hprocessed, hfailed.trans (Nat.zero_add _)⟩

theorem journaled_perform (svc : Service σ) (o : Operation) :
    (svc.journaled.perform o).Journals (svc.perform o) fun s result notes =>
      Heeds o.spares (fun c after result => o.Forgives svc s notes c after result) result notes := by
  have hall : ∀ {α : Type} {x : Act (σ × List Note) Error α} {y : Act σ Error α}
      {F : σ → List Note → StoreCall → List Note → Except (Failure Error) α → Prop},
      x.Journals y (fun _ => HeedsAll fun _ => false) →
        x.Journals y fun s result notes => Heeds (fun _ => false) (F s notes) result notes :=
    fun h => h.mono fun _ _ _ h => h.mono fun _ _ hno => hno.elim
  cases o with
  | create request => exact svc.journaled_create request
  | verify request => exact svc.journaled_verify request
  | get id => exact hall (svc.journaled_load id)
  | revoke id => exact hall (svc.journaled_revoke id)
  | remove id => exact hall (svc.journaled_remove id)
  | extend id span => exact hall (svc.journaled_extend id span)
  | updateMetadata id patch => exact hall (svc.journaled_updateMetadata id patch)
  | sweep options => exact (svc.journaled_sweep options).mono fun _ _ _ h => h.heeds

/-- A call to the store that fails is the last that an operation does, no event is reported after it, and
its error reaches the caller as the cause of one that says what the store was asked for; but for the
removals that the operation spares, and those are all forgiven. -/
theorem store_failures_heeded (svc : Service σ) (o : Operation) (s : σ) :
    ∃ notes, svc.journaled.perform o (s, []) =
        ((svc.perform o s).1, (svc.perform o s).2, notes) ∧
      ∀ before c cause after, notes = before ++ .call c (some (.error cause)) :: after →
        (o.spares c = true → o.Forgives svc s notes c after (svc.perform o s).1) ∧
          (o.spares c = false →
            after = [] ∧ ∃ e, (svc.perform o s).1 = .error (.error e) ∧ c.Reports cause e) := by
  obtain ⟨notes, hrun, hheeds⟩ := svc.journaled_perform o s []
  exact ⟨notes, hrun, hheeds⟩

end Service

namespace World

open Service

/-- The service over a store that removes nothing. -/
def keepingAll (svc : Service World) : Service World :=
  { svc with store := { svc.store with remove := fun _ => .fail (.storage "read only" true) } }

/-- A service that deletes expired keys. -/
def tidy : Service World := service [] { sameKey with autoDeleteExpired := true }

/-- What there is after a key is issued that has expired at once. -/
def expiredKey : World := (tidy.create { expiresAt := some .epoch } {}).2

/-- That a record cannot be removed is nothing to one who presents the expired key, and nothing to one whose
new key a plugin rejects, but it is reported to one who asks for the removal. -/
theorem failed_removal_forgiven_or_reported :
    (∃ r, ((keepingAll tidy).verify { key := "k" } expiredKey).1 =
        .ok (.invalidFor r Reason.expired)) ∧
      (∃ plugin reason, ((keepingAll owners).create {} zeros).1 =
        .error (.error (.pluginBlocked plugin reason))) ∧
      ∃ e, ((keepingAll tidy).remove firstId expiredKey).1 = .error (.error e) ∧
        Error.Wraps .keystoreWriteFailed (.storage "read only" true) e := by
  let failed (id : KeyId) := Note.call (.remove id) (some (.error (.storage "read only" true)))
  refine ⟨?_, ?_, ?_⟩
  · obtain ⟨notes, hrun, h⟩ := store_failures_heeded (keepingAll tidy) (.verify { key := "k" }) expiredKey
    have hnotes : [.call (.findByDigest "k") none, failed firstId] = notes := congrArg (·.2.2) hrun
    obtain ⟨-, -, r, -, hresult⟩ := (h [_] _ _ _ hnotes.symm).1 rfl
    exact ⟨r, hresult⟩
  · obtain ⟨notes, hrun, h⟩ := store_failures_heeded (keepingAll owners) (.create {}) zeros
    have hnotes : [.call (.create (owners.recordOf {} zeroId "sk_0000" .epoch)) none,
        .event (.created zeroId none), failed zeroId] = notes := congrArg (·.2.2) hrun
    obtain ⟨-, _, plugin, reason, -, hresult⟩ := (h [_, _] _ _ _ hnotes.symm).1 rfl
    exact ⟨plugin, reason, hresult⟩
  · obtain ⟨notes, hrun, h⟩ := store_failures_heeded (keepingAll tidy) (.remove firstId) expiredKey
    have hnotes : [failed firstId] = notes := congrArg (·.2.2) hrun
    exact ((h [] _ _ _ hnotes.symm).2 rfl).2

end World

end Latchkey
