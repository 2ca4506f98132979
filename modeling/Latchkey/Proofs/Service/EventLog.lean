import Latchkey.Proofs.Key.Standing
import Latchkey.Proofs.Plugin.InMemory
import Latchkey.Proofs.Service.Budget
import Latchkey.Proofs.Service.Change
import Latchkey.Proofs.Service.Sweep
/-!
# What operations report

Where every event is kept, an operation says in the log what it has made of the standing of each key: of
every key that it has changed in one event, which tells of that change, and of the others in none, but for
the verification of a key that is accepted. Plugins may spend uses and update records, as long as they
neither create, revoke nor remove any.
-/

namespace Latchkey

open Act KeyTable

variable {σ : Type}

/-! ### Events and standings -/

namespace Event

/-- How a key stood before an event and how it stands after it. -/
inductive Tells : Event → Standing → Standing → Prop where
  | created (id : KeyId) (owner : Option String) : Tells (.created id owner) .absent .active
  | verified (id : KeyId) (owner partition : Option String) :
    Tells (.verified id owner partition) .active .active
  | revoked (id : KeyId) : Tells (.revoked id) .active .revoked
  | removed (id : KeyId) (sweep : Bool) {x : Standing} (h : x ≠ .absent) :
    Tells (.removed id sweep) x .absent

def about (id : KeyId) (log : List Event) : List Event := log.filter (·.id = id)

@[simp] theorem about_nil (id : KeyId) : about id [] = [] := rfl

@[simp] theorem about_singleton (id : KeyId) (e : Event) :
    about id [e] = if e.id = id then [e] else [] := by
  by_cases h : e.id = id <;> simp [about, h]

@[simp] theorem about_append (id : KeyId) (log log' : List Event) :
    about id (log ++ log') = about id log ++ about id log' :=
  List.filter_append ..

end Event

open Event (about about_append)

/-- The log leads from the one standing of a key to the other, in one event about the key at most. -/
inductive Accounts (id : KeyId) (log : List Event) : Standing → Standing → Prop where
  | silent {x : Standing} (h : about id log = []) : Accounts id log x x
  | told {x y : Standing} {e : Event} (h : about id log = [e]) (he : e.Tells x y) :
    Accounts id log x y

/-- What has been reported so far, and how the keys stand. -/
abbrev Books : Type := List Event × (KeyId → Standing)

def books (table : Lens σ KeyTable) (events : σ → List Event) (s : σ) : Books :=
  (events s, (table.get s).standing)

/-- The later books have new events, and these account for every change of a standing. -/
def Reported (b c : Books) : Prop :=
  ∃ log, c.1 = b.1 ++ log ∧ ∀ id, Accounts id log (b.2 id) (c.2 id)

/-- Keys have been removed, each of them reported in an event. -/
def Purged (b c : Books) : Prop :=
  ∃ log, c.1 = b.1 ++ log ∧ ∀ id,
    (about id log = [] ∧ c.2 id = b.2 id) ∨
      ∃ sweep, about id log = [.removed id sweep] ∧ b.2 id ≠ .absent ∧ c.2 id = .absent

section Books

variable {b c : Books} {e : Event}

theorem Reported.of_eq (h : c = b) : Reported b c :=
  ⟨[], by rw [h, List.append_nil], fun id => h ▸ .silent rfl⟩

theorem Reported.single (hlog : c.1 = b.1 ++ [e]) (he : e.Tells (b.2 e.id) (c.2 e.id))
    (hothers : ∀ id, e.id ≠ id → c.2 id = b.2 id) : Reported b c := by
  refine ⟨[e], hlog, fun id => ?_⟩
  by_cases hid : e.id = id
  · subst hid
    exact .told (by simp) he
  · rw [hothers id hid]
    exact .silent (by simp [hid])

theorem Purged.reported (h : Purged b c) : Reported b c := by
  obtain ⟨log, hlog, hkeys⟩ := h
  refine ⟨log, hlog, fun id => ?_⟩
  rcases hkeys id with ⟨hsilent, hsame⟩ | ⟨sweep, hevent, hthere, hgone⟩
  · rw [hsame]
    exact .silent hsilent
  · rw [hgone]
    exact .told hevent (.removed id sweep hthere)

theorem Purged.single {id : KeyId} {sweep : Bool} (hlog : c.1 = b.1 ++ [.removed id sweep])
    (hthere : b.2 id ≠ .absent) (hkeys : ∀ id', c.2 id' = if id = id' then .absent else b.2 id') :
    Purged b c := by
  refine ⟨[.removed id sweep], hlog, fun id' => ?_⟩
  rw [hkeys]
  by_cases hid : id = id'
  · subst hid
    exact .inr ⟨sweep, by simp [Event.id], hthere, if_pos rfl⟩
  · exact .inl ⟨by simp [Event.id, hid], if_neg hid⟩

/-- A key that has been removed is not removed once more. -/
instance : IsPreorder Books Purged where
  refl b := ⟨[], (List.append_nil b.1).symm, fun _ => .inl ⟨rfl, rfl⟩⟩
  trans b c d := by
    rintro ⟨log, hlog, hkeys⟩ ⟨log', hlog', hkeys'⟩
    refine ⟨log ++ log', by rw [hlog', hlog, List.append_assoc], fun id => ?_⟩
    rw [about_append]
    rcases hkeys id with ⟨hsilent, hsame⟩ | ⟨sweep, hevent, hthere, hgone⟩
    · rw [hsilent, List.nil_append, ← hsame]
      exact hkeys' id
    · rcases hkeys' id with ⟨hsilent', hsame'⟩ | ⟨_, _, hthere', _⟩
      · rw [hsilent', List.append_nil]
        exact .inr ⟨sweep, hevent, hthere, hsame'.trans hgone⟩
      · exact absurd hgone hthere'

end Books

/-! ### The service -/

/-- The hooks neither create, revoke nor remove a record, report nothing, and do not reject a key once it is
stored. -/
structure Plugin.Unobtrusive (p : Plugin σ) (table : Lens σ KeyTable) (events : σ → List Event) :
    Prop where
  writes : ∀ hook, (p.answer hook).Within table.get (Writes KeyTable.Unobtrusive)
  silent : ∀ hook, (p.answer hook).Keeps events
  lets : ∀ r s, p.rejectionAt? (.created r) s = none

/-- What the library has for plugins is of this kind. -/
theorem Plugin.InMemory.unobtrusive {p : Plugin σ} {table : Lens σ KeyTable}
    {rates : Lens σ (RateTable Float)} {now : σ → Instant} {events : σ → List Event}
    (h : p.InMemory table rates now) (hapart : table.Apart rates now)
    (htable : ∀ t s, events (table.set t s) = events s)
    (hrates : ∀ t s, events (rates.set t s) = events s) : p.Unobtrusive table events where
  writes hook := by
    refine h.answer_within hapart.table_set (fun id => ?_) hook
    exact .onPart hapart.table_lawful fun _ => Writes.single (w := .spend id) trivial
  silent hook := h.answer_within hrates (fun _ => Keeps.onPart htable _) hook
  lets r s := by cases h <;> rfl

/-- Events are kept in the order in which they are reported, and nothing else comes among them. -/
structure Service.Recorded (svc : Service σ) (table : Lens σ KeyTable) (events : σ → List Event) : Prop
    extends svc.OnTable table where
  recorded : ∀ e s, events (svc.sink.track e s).2 = events s ++ [e]
  events_set : ∀ t s, events (table.set t s) = events s
  random_silent : ∀ n, (svc.random n).Keeps events
  plugins : ∀ p ∈ svc.plugins, p.Unobtrusive table events

namespace Service.Recorded

variable {svc : Service σ} {table : Lens σ KeyTable} {events : σ → List Event}
  (h : svc.Recorded table events)

include h

theorem run_keeps (hook : Hook) : (svc.plugins.run hook).Keeps (books table events) := by
  refine Pipeline.run_within fun p hp s => Prod.ext ?_ ?_
  · exact (h.plugins p hp).silent hook s
  · exact ((h.plugins p hp).writes hook s).standing_eq.symm

theorem run_ownIds (hook : Hook) : (svc.plugins.run hook).Within table.get KeepsOwnIds :=
  Pipeline.run_within fun p hp s => ((h.plugins p hp).writes hook s).keepsOwnIds

theorem run_created_lets {r : KeyRecord} {rejection : Option Rejection} {s s' : σ}
    (hrun : svc.plugins.run (.created r) s = (.ok rejection, s')) : rejection = none := by
  cases rejection with
  | none => rfl
  | some rejection =>
      obtain ⟨turn, hturn, hreject⟩ := Pipeline.exists_turn_of_run hrun
      rw [(h.plugins _ (Pipeline.fst_mem_of_mem_turns hturn)).lets] at hreject
      cases hreject

theorem books_track (e : Event) (s : σ) :
    books table events (svc.track e s).2 = (events s ++ [e], (table.get s).standing) := by
  have hstanding : (table.get (svc.track e s).2).standing = (table.get s).standing := by
    rw [← h.track_within e s]
  exact Prod.ext (h.recorded e s) hstanding

/-! ### Operations that remove -/

theorem purged_of_delete {id : KeyId} {r : KeyRecord} {s : σ}
    (hr : (table.get s).records.get? id = some r) (sweep : Bool) :
    Purged (books table events s) (books table events
      (svc.track (.removed id sweep) (table.set ((table.get s).delete id r) s)).2) := by
  have hthere : (table.get s).standing id ≠ .absent := by
    rw [ne_eq, standing_eq_absent_iff, hr]
    exact Option.some_ne_none r
  rw [h.books_track, h.events_set, h.lawful.get_set]
  exact .single rfl hthere (standing_delete id r _)

theorem remove_purged (id : KeyId) : (svc.remove id).Within (books table events) Purged := by
  intro s
  unfold Service.remove
  cases hr : (table.get s).records.get? id with
  | none =>
      rw [bind_ok (access_ok (h.remove_store_of_none hr))]
      exact refl_of Purged _
  | some r =>
      rw [bind_ok (access_ok (h.remove_store_apply hr))]
      exact h.purged_of_delete hr false

theorem removeEach_purged (result : SweepResult) (ids : List KeyId) :
    (svc.removeEach result ids).Within (books table events) Purged := by
  induction ids generalizing result with
  | nil => exact Within.pure result
  | cons id ids ih =>
      intro s
      unfold removeEach
      cases hr : (table.get s).records.get? id with
      | none =>
          rw [bind_ok (attempt_ok (h.remove_store_of_none hr))]
          exact ih _ s
      | some r =>
          rw [bind_ok (attempt_ok (h.remove_store_apply hr))]
          exact trans_of Purged (h.purged_of_delete hr true) (ih _ _)

theorem sweep_purged (o : SweepOptions) : (svc.sweep o).Within (books table events) Purged := by
  intro s
  rw [h.sweep_apply]
  exact h.removeEach_purged _ _ s

theorem dropExpired_purged {r : KeyRecord} {s : σ} (hr : (table.get s).standing r.id ≠ .absent) :
    Purged (books table events s) (books table events (svc.dropExpired r s).2) := by
  unfold dropExpired
  split
  · obtain ⟨r', hr'⟩ := Option.ne_none_iff_exists'.1 (mt standing_eq_absent_iff.2 hr)
    rw [bind_ok (attempt_ok (h.remove_store_apply hr'))]
    exact h.purged_of_delete hr' false
  · exact refl_of Purged _

/-! ### Operations on one record -/

theorem revoke_reported (id : KeyId) (s : σ) :
    Reported (books table events s) (books table events (svc.revoke id s).2) := by
  rw [h.revoke_apply]
  cases hr : (table.get s).records.get? id with
  | none => exact .of_eq rfl
  | some r =>
      dsimp only
      split
      · exact .of_eq rfl
      · rename_i hactive
        rw [h.books_track, h.events_set, h.lawful.get_set]
        have hbefore : (table.get s).standing id = .active :=
          standing_eq_active hr (Bool.eq_false_iff.2 hactive)
        have hafter : ((table.get s).modifyRecord id (·.revoke (svc.now s))).standing id = .revoked := by
          rw [standing_modifyRecord, if_pos rfl, hr, Option.map_some, r.revoke_eq]
          rfl
        refine .single (e := .revoked id) rfl ?_ fun id' hid => ?_
        · change Event.Tells _ ((table.get s).standing id)
            (((table.get s).modifyRecord id (·.revoke (svc.now s))).standing id)
          rw [hbefore, hafter]
          exact .revoked id
        · exact (standing_modifyRecord id _ _ id').trans (if_neg hid)

omit h in
theorem reported_of_replaced {K : KeyRecord → KeyRecord → Prop} {id : KeyId} {s s' : σ}
    (hs : (table.get s).OwnIds) (hK : ∀ r r', K r r' → r'.id = r.id ∧ r'.revokedAt = r.revokedAt)
    (hreplaced : Replaced K id (table.get s) (table.get s')) (hevents : events s' = events s) :
    Reported (books table events s) (books table events s') ∧ (table.get s').OwnIds := by
  rcases hreplaced with hsame | ⟨r, r', hr, hk, hafter⟩
  · exact ⟨.of_eq (Prod.ext hevents (congrArg standing hsame)), hsame ▸ hs⟩
  · obtain ⟨hid, hrevoked⟩ := hK r r' hk
    have hr' : (table.get s).records.get? r'.id = some r := by
      rw [hid, hs.id_eq hr, hr]
    have hupdate : (Write.update r').apply (table.get s) = table.get s' := by
      rw [Write.apply, update_of_some hr', hafter]
    refine ⟨.of_eq (Prod.ext hevents ?_), hupdate ▸ hs.apply _⟩
    change (table.get s').standing = (table.get s).standing
    rw [hafter]
    refine standing_replace hr' fun hrev => ?_
    rwa [KeyRecord.isRevoked, ← hrevoked]

/-! ### Creations -/

section Creations

variable {request : CreateRequest} {k : IssuedKey} {s s₁ s₂ s₃ s₄ : σ}

theorem random_keeps_books (n : Nat) : (svc.random n).Keeps (books table events) :=
  fun s => Prod.ext (h.random_silent n s) (congrArg standing (h.random_keeps n s))

theorem books_of_key {result : Except (Failure Error) String} (hpermits : svc.Permits request s s₁)
    (hkey : svc.config.generator.generateWith (svc.labelOf request) svc.random s₁ = (result, s₂)) :
    books table events s₂ = books table events s := by
  have hdrawn := Keeps.view_eq (generateWith_within h.random_keeps_books _) hkey
  exact hdrawn.trans ((h.run_keeps _).view_eq hpermits.passed)

theorem books_of_draws {result : Except (Failure Error) KeyId} {key : String}
    (hpermits : svc.Permits request s s₁)
    (hkey : svc.config.generator.generateWith (svc.labelOf request) svc.random s₁ = (.ok key, s₂))
    (hid : svc.freshId s₂ = (result, s₃)) : books table events s₃ = books table events s := by
  have hdrawn := Keeps.view_eq (freshId_within h.random_keeps_books) hid
  exact hdrawn.trans (h.books_of_key hpermits hkey)

theorem books_of_makes (hmakes : svc.Makes request s k s₁ s₂ s₃) :
    books table events s₃ = books table events s :=
  h.books_of_draws hmakes.toPermits hmakes.key_drawn hmakes.id_drawn

theorem stores_reported (hstores : svc.Stores table request s k s₁ s₂ s₃ s₄) :
    Reported (books table events s) (books table events s₄) := by
  have hid : k.record.id = k.id := congrArg KeyRecord.id hstores.record_eq
  have hrevoked : k.record.isRevoked = false := by
    rw [hstores.record_eq]
    rfl
  rw [← h.books_of_makes hstores.toMakes, hstores.reported, h.books_track, h.events_set,
    h.lawful.get_set]
  refine .single (e := .created k.id k.record.owner) rfl ?_ fun id hne => ?_
  · change Event.Tells _ ((table.get s₃).standing k.id) (((table.get s₃).add k.record).standing k.id)
    rw [standing_add, if_pos hid, ← hid, standing_eq_absent_iff.2 hstores.id_free, Standing.ofRecord,
      hrevoked]
    exact .created _ _
  · exact (standing_add k.record _ id).trans (if_neg fun he => hne (hid.symm.trans he))

end Creations

/-- The key is told of as soon as it is stored. -/
theorem create_reported (request : CreateRequest) (s : σ) :
    Reported (books table events s) (books table events (svc.create request s).2) := by
  have hcourse := h.create_course request s
  generalize (svc.create request s).1 = result at hcourse
  generalize (svc.create request s).2 = s' at hcourse
  cases hcourse with
  | unfit => exact .of_eq rfl
  | failedBefore _ hrun | prevented _ hrun => exact .of_eq ((h.run_keeps _).view_eq hrun)
  | keyless hpermits hkey => exact .of_eq (h.books_of_key hpermits hkey)
  | nameless hpermits hkey hid => exact .of_eq (h.books_of_draws hpermits hkey hid)
  | idTaken hmakes | digestTaken hmakes => exact .of_eq (h.books_of_makes hmakes)
  | failedCreated hstores hrun | issued hstores hrun =>
      rw [(h.run_keeps _).view_eq hrun]
      exact h.stores_reported hstores
  | undone hstores hrun => cases h.run_created_lets hrun

/-! ### Verifications -/

section Verifications

variable {request : VerifyRequest} {r : KeyRecord} {s s₁ s₂ s₃ : σ}

theorem standing_of_finds (hs : (table.get s).OwnIds) (hfinds : svc.Finds table request s r s₁) :
    books table events s₁ = books table events s ∧ (table.get s₁).records.get? r.id = some r := by
  refine ⟨(h.run_keeps _).view_eq hfinds.passed, ?_⟩
  have hs₁ : (table.get s₁).OwnIds := by
    have hrun := h.run_ownIds (.beforeVerify request) s hs
    rwa [hfinds.passed] at hrun
  obtain ⟨id, -, hr⟩ := Option.bind_eq_some_iff.1 hfinds.found
  rw [hs₁.id_eq hr, hr]

theorem standing_of_clears (hs : (table.get s).OwnIds) (hclears : svc.Clears table request s r s₁ s₂) :
    books table events s₂ = books table events s ∧ (table.get s).standing r.id = .active := by
  obtain ⟨hsame, hr⟩ := h.standing_of_finds hs hclears.toFinds
  have hactive := standing_eq_active hr hclears.unrevoked
  have hstanding : (table.get s₁).standing = (table.get s).standing := congrArg Prod.snd hsame
  rw [hstanding] at hactive
  exact ⟨((h.run_keeps _).view_eq hclears.shown).trans hsame, hactive⟩

theorem stands_reported (hs : (table.get s).OwnIds)
    (hstands : svc.Stands table request s r s₁ s₂ s₃) :
    events s₃ = events s ++ [.verified r.id r.owner request.partition] ∧
      Reported (books table events s) (books table events s₃) := by
  obtain ⟨hsame, hactive⟩ := h.standing_of_clears hs hstands.toClears
  have hevents : events s₂ = events s := congrArg Prod.fst hsame
  have hstanding : (table.get s₂).standing = (table.get s).standing := congrArg Prod.snd hsame
  rw [hstands.reported]
  refine ⟨hevents ▸ h.recorded _ s₂, ?_⟩
  rw [h.books_track, hevents, hstanding]
  refine .single rfl ?_ fun _ _ => rfl
  change Event.Tells _ ((table.get s).standing r.id) ((table.get s).standing r.id)
  rw [hactive]
  exact .verified _ _ _

theorem verify_reported (hs : (table.get s).OwnIds) (request : VerifyRequest) :
    Reported (books table events s) (books table events (svc.verify request s).2) := by
  have hcourse := h.verify_course request s
  generalize (svc.verify request s).1 = result at hcourse
  generalize (svc.verify request s).2 = s' at hcourse
  cases hcourse with
  | missing => exact .of_eq rfl
  | failedBefore _ hrun | blocked _ hrun => exact .of_eq ((h.run_keeps _).view_eq hrun)
  | unknown hadmits => exact .of_eq ((h.run_keeps _).view_eq hadmits.passed)
  | revoked hfinds => exact .of_eq (h.standing_of_finds hs hfinds).1
  | failedShown hfinds _ hrun | refused hfinds _ hrun =>
      exact .of_eq (((h.run_keeps _).view_eq hrun).trans (h.standing_of_finds hs hfinds).1)
  | @expired r _ s₂ hclears =>
      obtain ⟨hsame, hactive⟩ := h.standing_of_clears hs hclears
      have hstanding : (table.get s₂).standing = (table.get s).standing := congrArg Prod.snd hsame
      rw [← hsame]
      refine (h.dropExpired_purged ?_).reported
      rw [hstanding, hactive]
      exact nofun
  | exhausted hclears => exact .of_eq (h.standing_of_clears hs hclears).1
  | failedVerified hstands hrun | vetoed hstands hrun | accepted hstands hrun =>
      rw [(h.run_keeps _).view_eq hrun]
      exact (h.stands_reported hs hstands).2

theorem accepted_reported (hs : (table.get s).OwnIds) {id : KeyId}
    (haccepts : accepts id (svc.verify request s).1 = true) :
    ∃ owner partition, events (svc.verify request s).2 = events s ++ [.verified id owner partition] := by
  have hcourse := h.verify_course request s
  generalize (svc.verify request s).1 = result at hcourse haccepts
  generalize (svc.verify request s).2 = s' at hcourse
  cases hcourse with
  | @accepted r _ _ _ _ hstands hrun =>
      have hevents : events s' = _ := congrArg Prod.fst ((h.run_keeps _).view_eq hrun)
      obtain rfl : r.id = id := by simpa [accepts, VerifyOutcome.accepted] using haccepts
      exact ⟨r.owner, request.partition, hevents.trans (h.stands_reported hs hstands).1⟩
  | _ => cases haccepts

end Verifications

/-! ### Calls -/

theorem ownIds_of_create (request : CreateRequest) : (svc.create request).Within table.get KeepsOwnIds :=
  h.create_within_of h.run_ownIds (fun r => keepsOwnIds_apply (.create r))
    (fun id => keepsOwnIds_apply (.remove id)) request

theorem ownIds_of_verify (request : VerifyRequest) : (svc.verify request).Within table.get KeepsOwnIds := by
  refine VerifyWithin.verify ⟨fun d => ?_, ?_, fun e => (h.track_keeps e).within⟩ h.run_ownIds
  · rw [h.store_eq]
    intro s
    rw [KeyStore.memory_findByDigest h.lawful]
    exact id
  · exact h.remove_store_within fun id => keepsOwnIds_apply (.remove id)

/-- Every call to the service reports what it does. -/
theorem call_reported {s : σ} (hs : (table.get s).OwnIds) {c : Call} (hput : ∀ r, c ≠ .put r) :
    Reported (books table events s) (books table events (c.after svc s)) ∧
      (table.get (c.after svc s)).OwnIds := by
  have hremove : ∀ id t, KeepsOwnIds t ((Write.remove id).apply t) :=
    fun id => keepsOwnIds_apply (.remove id)
  cases c with
  | create request => exact ⟨h.create_reported request s, h.ownIds_of_create request s hs⟩
  | verify request => exact ⟨h.verify_reported hs request, h.ownIds_of_verify request s hs⟩
  | revoke id =>
      have hrevoke : ∀ id at' t, KeepsOwnIds t ((Write.revoke id at').apply t) :=
        fun id at' => keepsOwnIds_apply (.revoke id at')
      exact ⟨h.revoke_reported id s, h.revoke_within_of hrevoke id s hs⟩
  | remove id => exact ⟨(h.remove_purged id s).reported, h.remove_within_of hremove id s hs⟩
  | sweep options =>
      exact ⟨(h.sweep_purged options s).reported, h.sweep_within_of hremove options s hs⟩
  | get id =>
      have hsame : (Call.get id).after svc s = s := congrArg Prod.snd (h.load_apply id s)
      rw [hsame]
      exact ⟨.of_eq rfl, hs⟩
  | extend id span =>
      refine reported_of_replaced hs ?_ (h.extend_replaced hs id span) ?_
      · rintro r _ ⟨expiresAt, rfl⟩
        exact ⟨rfl, rfl⟩
      · rw [Call.after, h.extend_apply hs]
        split
        · rfl
        · split
          · rfl
          · exact h.events_set _ s
  | updateMetadata id patch =>
      refine reported_of_replaced hs ?_ (h.updateMetadata_replaced hs id patch) ?_
      · rintro r _ rfl
        exact ⟨rfl, rfl⟩
      · rw [Call.after, h.updateMetadata_apply hs]
        split
        · rfl
        · exact h.events_set _ s
  | topUp id amount =>
      refine reported_of_replaced hs ?_ (h.topUp_replaced hs id amount) ?_
      · rintro r _ ⟨left, -, rfl⟩
        exact ⟨rfl, rfl⟩
      · rw [Call.after, h.topUp_apply hs]
        split
        · rfl
        · split
          · rfl
          · exact h.events_set _ s
  | setRemaining id uses =>
      refine reported_of_replaced hs ?_ (h.setRemaining_replaced hs id uses) ?_
      · rintro r _ rfl
        exact ⟨rfl, rfl⟩
      · rw [Call.after, h.setRemaining_apply hs]
        split
        · rfl
        · exact h.events_set _ s
  | put r => exact absurd rfl (hput r)

end Service.Recorded

end Latchkey
