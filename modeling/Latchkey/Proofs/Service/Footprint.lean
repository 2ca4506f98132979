import Latchkey.Proofs.Plugin.InMemory
import Latchkey.Proofs.Service.Course
import Latchkey.Proofs.Service.Issued
/-!
# The footprint of a verification

What a verification may change, where both stores are in memory and the plugins are those of the
library. A request that does not lead to a live key changes nothing and reports nothing, whatever it
presents. Any other can take one use from the record that it has led to, or remove that record if it
has expired, and is counted once by the rate limiter.
-/

namespace Latchkey

open Act KeyTable

variable {σ : Type}

namespace Service

/-- A service on two tables in memory, with plugins of the library as it registers them. -/
structure InMemory (svc : Service σ) (table : Lens σ KeyTable) (rates : Lens σ (RateTable Float)) :
    Prop extends svc.OnTable table where
  apart : table.Apart rates svc.now
  track_keeps_rates : ∀ e, (svc.sink.track e).Keeps rates.get
  plugins : ∀ p ∈ svc.plugins, p.InMemory table rates svc.now
  distinct : svc.plugins.names.Nodup

/-- The answers to a request that has not led to a live key. -/
def NoLiveKey : Except (Failure Error) VerifyOutcome → Prop
  | .ok o => o.reason = some Reason.notFound ∨ o.reason = some Reason.revoked
  | .error (.error e) => e.code = .validationFailed
  | .error .outOfTime => False

/-- The verification leaves the state as it is, and would do so with any sink for its events: it changes
nothing and reports nothing. -/
def Untouched (svc : Service σ) (request : VerifyRequest) (s : σ) : Prop :=
  ∀ sink, { svc with sink }.verify request s = ((svc.verify request s).1, s)

/-! ### Verifications that end before plugins see a record -/

section Early

variable (svc : Service σ) {request : VerifyRequest} {s s₁ s₂ : σ}

theorem verify_of_missing {plugin : String} {field : VerifyField}
    (h : svc.missing? request = some (plugin, field)) (s : σ) :
    svc.verify request s = (.error (.error (missingField plugin field)), s) :=
  bind_error (checkFields_of_missing? h s)

theorem verify_of_not_found (hfields : svc.missing? request = none)
    (hrun : svc.plugins.run (.beforeVerify request) s = (.ok none, s₁))
    (hfound : svc.lookup request.key s₁ = (.ok none, s₂)) :
    svc.verify request s = (.ok (.invalid Reason.notFound), s₂) := by
  unfold verify
  rw [bind_ok (checkFields_of_missing?_eq_none hfields s), bind_ok hrun]
  dsimp only
  rw [bind_ok hfound]
  rfl

theorem verify_of_found {r : KeyRecord} (hfields : svc.missing? request = none)
    (hrun : svc.plugins.run (.beforeVerify request) s = (.ok none, s₁))
    (hfound : svc.lookup request.key s₁ = (.ok (some r), s₂)) :
    svc.verify request s = svc.verifyRecord request r s₂ := by
  unfold verify
  rw [bind_ok (checkFields_of_missing?_eq_none hfields s), bind_ok hrun]
  dsimp only
  rw [bind_ok hfound]

end Early

/-- A verification that lets the plugins see a record ends with what they leave behind, but for the
removal of a record that has expired. -/
structure ShownTo (svc : Service σ) (table : Lens σ KeyTable) (rates : Lens σ (RateTable Float))
    (request : VerifyRequest) (s : σ) (result : Except (Failure Error) VerifyOutcome) (s' : σ)
    (r : KeyRecord) (s₂ : σ) : Prop where
  found : (table.get s).lookup (svc.config.hasher.hash request.key) = some r
  shown : s₂ = (svc.plugins.run (.recordLoaded request r) s).2
  keys : table.get s' = table.get s₂ ∨
    svc.config.autoDeleteExpired = true ∧ result = .ok (.invalidFor r Reason.expired) ∧
      table.get s' = (Write.remove r.id).apply (table.get s₂)
  rates_eq : rates.get s' = rates.get s₂

theorem not_noLiveKey {r : KeyRecord} {reason : String}
    (h : reason ≠ Reason.notFound ∧ reason ≠ Reason.revoked) :
    ¬NoLiveKey (.ok (.invalidFor r reason)) := by
  rintro (hreason | hreason)
  · exact h.1 (Option.some.inj hreason)
  · exact h.2 (Option.some.inj hreason)

namespace InMemory

variable {svc : Service σ} {table : Lens σ KeyTable} {rates : Lens σ (RateTable Float)}
  (h : svc.InMemory table rates) {request : VerifyRequest} {r : KeyRecord} {s s₁ s' : σ}
  {result : Except (Failure Error) VerifyOutcome}

include h

theorem builtIn : ∀ p ∈ svc.plugins, p.BuiltIn table svc.now :=
  fun p hp => (h.plugins p hp).builtIn h.apart

/-- The plugins have nothing to say before a record is loaded. -/
theorem run_beforeVerify (request : VerifyRequest) (s : σ) :
    svc.plugins.run (.beforeVerify request) s = (.ok none, s) :=
  Pipeline.run_of_ne h.builtIn _ (by simp [Hook.phase]) s

theorem run_verified (request : VerifyRequest) (r : KeyRecord) (s : σ) :
    svc.plugins.run (.verified request r) s = (.ok none, s) :=
  Pipeline.run_of_ne h.builtIn _ (by simp [Hook.phase]) s

theorem eq_of_admits (hadmits : svc.Admits request s s₁) : s₁ = s := by
  have hpassed := hadmits.passed
  rw [h.run_beforeVerify] at hpassed
  exact (congrArg Prod.snd hpassed).symm

omit h in
theorem untouched_of_missing {plugin : String} {field : VerifyField}
    (hmissing : svc.missing? request = some (plugin, field)) : svc.Untouched request s := by
  intro sink
  rw [verify_of_missing svc hmissing s]
  exact verify_of_missing { svc with sink } hmissing s

theorem untouched_of_unknown (hadmits : svc.Admits request s s)
    (hnone : (table.get s).lookup (svc.config.hasher.hash request.key) = none) :
    svc.Untouched request s := by
  intro sink
  have hlookup := h.lookup_apply request.key s
  rw [hnone] at hlookup
  rw [verify_of_not_found svc hadmits.fields hadmits.passed hlookup]
  exact verify_of_not_found { svc with sink } hadmits.fields hadmits.passed hlookup

theorem untouched_of_revoked (hfinds : svc.Finds table request s r s) (hrevoked : r.isRevoked = true) :
    svc.Untouched request s := by
  intro sink
  have hlookup := h.lookup_apply request.key s
  rw [hfinds.found] at hlookup
  rw [verify_of_found svc hfinds.fields hfinds.passed hlookup,
    verify_of_found { svc with sink } hfinds.fields hfinds.passed hlookup]
  simp [verifyRecord, hrevoked]

/-! ### Where a verification ends -/

theorem verifyWithin_rates : svc.VerifyWithin rates.get Eq where
  find d := by
    rw [h.store_eq]
    exact Keeps.onPart h.apart.rates_set _
  remove id := by
    rw [h.store_eq]
    exact Keeps.onPart h.apart.rates_set _
  track := h.track_keeps_rates

theorem run_answers (hook : Hook) (hclock : svc.now s ≤ .minuteBeforeLatest) :
    ∃ rejection s', svc.plugins.run hook s = (.ok rejection, s') :=
  Pipeline.run_answers h.builtIn h.apart.now_set_table hook hclock

/-- Nothing has been done, or a record that stands under the presented key was shown to the plugins and
not found dead. -/
theorem ends (hclock : svc.now s ≤ .minuteBeforeLatest)
    (hcourse : svc.Course table request s result s') :
    s' = s ∧ svc.Untouched request s ∨
      ¬NoLiveKey result ∧ ∃ r s₂, ShownTo svc table rates request s result s' r s₂ := by
  -- What the plugins do before a record is loaded, and after a success, is nothing.
  cases hcourse with
  | missing hmissing => exact .inl ⟨rfl, untouched_of_missing hmissing⟩
  | failedBefore hfields hrun =>
      rw [h.run_beforeVerify] at hrun
      cases hrun
  | blocked hfields hrun =>
      rw [h.run_beforeVerify] at hrun
      cases hrun
  | unknown hadmits hnone =>
      obtain rfl := h.eq_of_admits hadmits
      exact .inl ⟨rfl, h.untouched_of_unknown hadmits hnone⟩
  | revoked hfinds hrevoked =>
      obtain rfl := h.eq_of_admits hfinds.toAdmits
      exact .inl ⟨rfl, h.untouched_of_revoked hfinds hrevoked⟩
  | failedShown hfinds hrevoked hrun =>
      obtain rfl := h.eq_of_admits hfinds.toAdmits
      obtain ⟨rejection, s'', hok⟩ := h.run_answers _ hclock
      rw [hok] at hrun
      cases hrun
  | @refused r rejection _ _ hfinds hrevoked hrun =>
      obtain rfl := h.eq_of_admits hfinds.toAdmits
      have hreason := Pipeline.reason_of_rejection h.plugins hrun
      refine .inr ⟨not_noLiveKey ?_, r, s', hfinds.found, ?_, .inl rfl, rfl⟩
      · exact Reason.ne_of_ofPlugins hreason
      · rw [hrun]
  | @expired r _ s₂ hclears hexpired =>
      obtain rfl := h.eq_of_admits hclears.toAdmits
      refine .inr ⟨not_noLiveKey (by decide), r, s₂, hclears.found, ?_, ?_, ?_⟩
      · rw [hclears.shown]
      · have htable := (h.dropExpired_apply r s₂).2
        split at htable
        · rename_i hauto
          exact .inr ⟨hauto, rfl, htable⟩
        · exact .inl htable
      · exact (h.verifyWithin_rates.dropExpired r s₂).symm
  | @exhausted r _ s₂ hclears hexpired hexhausted =>
      obtain rfl := h.eq_of_admits hclears.toAdmits
      refine .inr ⟨not_noLiveKey (by decide), r, s', hclears.found, ?_, .inl rfl, rfl⟩
      rw [hclears.shown]
  | failedVerified hstands hrun =>
      rw [h.run_verified] at hrun
      cases hrun
  | vetoed hstands hrun =>
      rw [h.run_verified] at hrun
      cases hrun
  | @accepted r _ s₂ s₃ _ hstands hrun =>
      obtain rfl := h.eq_of_admits hstands.toAdmits
      rw [h.run_verified] at hrun
      obtain rfl := congrArg Prod.snd hrun
      refine .inr ⟨nofun, r, s₂, hstands.found, ?_, .inl ?_, ?_⟩
      · rw [hstands.shown]
      · rw [hstands.reported]
        exact (h.track_within _ s₂).symm
      · rw [hstands.reported]
        exact (h.track_keeps_rates _ s₂).symm

end InMemory

/-- What a verification may do to the table of keys. -/
def KeysFootprint (svc : Service σ) (request : VerifyRequest) (t : KeyTable)
    (result : Except (Failure Error) VerifyOutcome) (t' : KeyTable) : Prop :=
  t' = t ∨ ∃ r, t.lookup (svc.config.hasher.hash request.key) = some r ∧
    (OneSpent r t t' ∨ svc.config.autoDeleteExpired = true ∧
      result = .ok (.invalidFor r Reason.expired) ∧ t' = t.delete r.id r)

/-- What a verification may do to the table of rates. -/
def RatesFootprint (svc : Service σ) (request : VerifyRequest) (t : KeyTable) (now : Instant)
    (rates rates' : RateTable Float) : Prop :=
  rates' = rates ∨ ∃ r limits, t.lookup (svc.config.hasher.hash request.key) = some r ∧
    Plugin.rateLimit limits ∈ svc.plugins ∧ limits.Counts request r now rates rates'

namespace InMemory

variable {svc : Service σ} {table : Lens σ KeyTable} {rates : Lens σ (RateTable Float)}
  (h : svc.InMemory table rates) {request : VerifyRequest} {r : KeyRecord} {s s₂ s' : σ}
  {result : Except (Failure Error) VerifyOutcome}

include h

theorem keysFootprint_of_shown (hs : (table.get s).Consistent)
    (hshown : ShownTo svc table rates request s result s' r s₂) :
    svc.KeysFootprint request (table.get s) result (table.get s') := by
  have hr := (hs.lookup_eq_some_iff.1 hshown.found).1
  have hplugins := Pipeline.table_of_shown h.apart h.plugins h.distinct request hr
  rw [← hshown.shown] at hplugins
  rcases hshown.keys with hsame | ⟨hauto, hresult, hremoved⟩
  · rw [hsame]
    exact hplugins.imp_right fun hspent => ⟨r, hshown.found, .inl hspent⟩
  · refine .inr ⟨r, hshown.found, .inr ⟨hauto, hresult, ?_⟩⟩
    rw [hremoved]
    rcases hplugins with hsame | hspent
    · rw [hsame, Write.apply, remove_of_some hr]
    · exact hspent.remove hr

theorem ratesFootprint_of_shown (hclock : svc.now s ≤ .minuteBeforeLatest)
    (hshown : ShownTo svc table rates request s result s' r s₂) :
    svc.RatesFootprint request (table.get s) (svc.now s) (rates.get s) (rates.get s') := by
  have hplugins := Pipeline.rates_of_shown h.apart h.plugins h.distinct request r hclock
  rw [← hshown.shown, ← hshown.rates_eq] at hplugins
  refine hplugins.imp_right ?_
  intro ⟨limits, hlimits, hcounts⟩
  exact ⟨r, limits, hshown.found, hlimits, hcounts⟩

/-- A verification changes only what it may: nothing at all, and not even a report is made, unless it
has led to a live key, and then at most one use or an expired record and one entry of the rate limiter. -/
theorem verify_footprint (request : VerifyRequest) (hs : (table.get s).Consistent)
    (hclock : svc.now s ≤ .minuteBeforeLatest) :
    (NoLiveKey (svc.verify request s).1 → svc.Untouched request s) ∧
      svc.KeysFootprint request (table.get s) (svc.verify request s).1
        (table.get (svc.verify request s).2) ∧
      svc.RatesFootprint request (table.get s) (svc.now s) (rates.get s)
        (rates.get (svc.verify request s).2) := by
  rcases h.ends hclock (h.verify_course request s) with ⟨hsame, hsilent⟩ | ⟨hlive, r, s₂, hshown⟩
  · rw [hsame]
    exact ⟨fun _ => hsilent, .inl rfl, .inl rfl⟩
  · refine ⟨fun hno => absurd hno hlive, ?_, ?_⟩
    · exact h.keysFootprint_of_shown hs hshown
    · exact h.ratesFootprint_of_shown hclock hshown

end InMemory

end Service

namespace World

theorem guarded_inMemory : guarded.InMemory keysPart ratesPart where
  toOnTable := service_onTable plugins sameKey
  apart := ⟨keysPart_lawful, ratesPart_lawful, fun _ _ => rfl, fun _ _ => rfl, fun _ _ => rfl,
    fun _ _ => rfl⟩
  track_keeps_rates _ _ := rfl
  plugins p hp := by
    simp only [guarded, service, plugins, List.mem_cons, List.not_mem_nil, or_false] at hp
    rcases hp with rfl | rfl | rfl
    · exact .rateLimit _ rfl
    · exact .usageLimits
    · exact .scopes
  distinct := by decide

/-- What there is after a key for two uses is issued, -/
def withTwoUses : World := (guarded.create { uses := some 2 } {}).2

/-- and after one of them. -/
def withOneUse : World := (guarded.verify { key := "k" } withTwoUses).2

theorem withTwoUses_consistent : (keysPart.get withTwoUses).Consistent := by
  have h := service_onTable plugins sameKey
  have hspends := Pipeline.onlySpends_of_builtIn plugins_builtIn keysPart_lawful
  exact (h.create_served hspends { uses := some 2 } {}).consistent consistent_empty

end World

namespace Service

/-- A key that is not stored leaves no trace. One that is stored loses one of its two uses, and its
request is counted. -/
theorem footprint_of_limited_key :
    (NoLiveKey (World.guarded.verify { key := "x" } World.withTwoUses).1 ∧
        World.guarded.Untouched { key := "x" } World.withTwoUses) ∧
      (World.guarded.KeysFootprint { key := "k" } (World.keysPart.get World.withTwoUses)
          (World.guarded.verify { key := "k" } World.withTwoUses).1
          (World.keysPart.get World.withOneUse) ∧
        (World.withOneUse.keys.records.get? World.firstId).map (·.uses) = some (some 1)) ∧
      World.guarded.RatesFootprint { key := "k" } (World.keysPart.get World.withTwoUses)
          (World.guarded.now World.withTwoUses) (World.ratesPart.get World.withTwoUses)
          (World.ratesPart.get World.withOneUse) ∧
        World.withOneUse.rates.windows.size = 1 := by
  have h := World.guarded_inMemory
  have hs := World.withTwoUses_consistent
  have hclock : World.guarded.now World.withTwoUses ≤ .minuteBeforeLatest := by decide
  have hunknown : NoLiveKey (World.guarded.verify { key := "x" } World.withTwoUses).1 := .inl rfl
  have hsilent := (h.verify_footprint { key := "x" } hs hclock).1
  obtain ⟨-, hkeys, hrates⟩ := h.verify_footprint { key := "k" } hs hclock
  exact ⟨⟨hunknown, hsilent hunknown⟩, ⟨hkeys, by decide⟩, hrates, by decide⟩

end Service

end Latchkey
