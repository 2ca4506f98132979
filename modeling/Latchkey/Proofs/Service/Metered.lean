import Latchkey.Proofs.Key.Uses
import Latchkey.Proofs.Service.Issued
import Latchkey.Proofs.Service.Stages
/-!
# Verifications that spend uses

The plugin for usage limits spends from the table of the service itself, wherever it stands among plugins
that leave the table alone. A verification takes at most one use, and one exactly if it accepts the key.
The record that it has loaded is looked at twice, by the plugin and after all plugins; the store has the
last word in the first look, and the two agree.
-/

namespace Latchkey

open Act KeyTable

variable {σ : Type}

/-- Whether a verification has accepted the key with an identifier. -/
def accepts (id : KeyId) : Except (Failure Error) VerifyOutcome → Bool
  | .ok o => o.valid && o.keyId = some id
  | .error _ => false

namespace Service

/-- Uses are spent from the table of the service, whatever the other plugins are as long as they leave
the table alone. No two plugins of a pipeline have one name. -/
structure Metered (svc : Service σ) (table : Lens σ KeyTable) (before after : Pipeline σ) : Prop
    extends svc.OnTable table where
  plugins_eq : svc.plugins = before ++ Plugin.usageLimits ⟨svc.store⟩ :: after
  others_keep : ∀ p ∈ before ++ after, ∀ hook, (p.answer hook).Keeps table.get
  others_named : ∀ p ∈ before ++ after, p.name ≠ UsageLimits.pluginName

/-- The plugins answer, and if they reject, it is the one for usage limits that does. -/
def OnlyUsageRejects (svc : Service σ) (hook : Hook) (s : σ) : Prop :=
  ∃ rejection, (svc.plugins.run hook s).1 = .ok rejection ∧
    ∀ r, rejection = some r → r.plugin = UsageLimits.pluginName

theorem OnlyUsageRejects.ne_error {svc : Service σ} {hook : Hook} {s s' : σ} {e : Failure Error}
    (h : svc.OnlyUsageRejects hook s) (hrun : svc.plugins.run hook s = (.error e, s')) : False := by
  obtain ⟨rejection, he, -⟩ := h
  rw [hrun] at he
  cases he

theorem OnlyUsageRejects.plugin_eq {svc : Service σ} {hook : Hook} {s s' : σ} {rejection : Rejection}
    (h : svc.OnlyUsageRejects hook s) (hrun : svc.plugins.run hook s = (.ok (some rejection), s')) :
    rejection.plugin = UsageLimits.pluginName := by
  obtain ⟨answer, he, hplugin⟩ := h
  rw [hrun] at he
  cases he
  exact hplugin rejection rfl

namespace Metered

variable {svc : Service σ} {table : Lens σ KeyTable} {before after : Pipeline σ}
  (h : svc.Metered table before after)

include h

/-! ### The plugins -/

theorem mem_plugins_iff {p : Plugin σ} :
    p ∈ svc.plugins ↔ p ∈ before ++ after ∨ p = Plugin.usageLimits ⟨svc.store⟩ := by
  rw [h.plugins_eq]
  simp only [List.mem_append, List.mem_cons, or_comm, or_assoc]

theorem usageLimits_builtIn : (Plugin.usageLimits ⟨svc.store⟩).BuiltIn table svc.now := by
  rw [h.store_eq]
  exact .usageLimits

theorem onlySpends : svc.plugins.OnlySpends table := by
  intro p hp hook
  rcases h.mem_plugins_iff.1 hp with hp | rfl
  · exact (h.others_keep p hp hook).within
  · refine h.usageLimits_builtIn.answer_within (fun he _ => he) ?_
    exact KeyStore.memory_spend_within h.lawful

/-- But to loaded records, no plugin does anything to the table. -/
theorem run_keeps (hook : Hook) (hhook : hook.phase ≠ .recordLoaded) :
    (svc.plugins.run hook).Keeps table.get := by
  refine Pipeline.run_within fun p hp => ?_
  rcases h.mem_plugins_iff.1 hp with hp | rfl
  · exact h.others_keep p hp hook
  · rw [h.usageLimits_builtIn.answer_of_ne hhook]
    exact Within.pure none

theorem create_cases (request : CreateRequest) (s : σ) :
    (∃ e s', svc.create request s = (.error e, s') ∧ (table.get s' = table.get s ∨
        ∃ r, (table.get s).records.get? r.id = none ∧ table.get s' = (table.get s).add r)) ∨
      ∃ k s', svc.create request s = (.ok k, s') ∧
        k.Added svc request (table.get s) (table.get s') := by
  have hbefore := h.run_keeps (.beforeCreate request) fun hphase => by cases hphase
  have hcreated := fun r => h.run_keeps (.created r) fun hphase => by cases hphase
  rcases h.create_cases_of_keeps hbefore hcreated s with ⟨e, s', he, hs' | ⟨r, -, hadded⟩⟩ | hadded
  · exact .inl ⟨e, s', he, .inl hs'⟩
  · exact .inl ⟨e, s', he, .inr ⟨r, hadded⟩⟩
  · exact .inr hadded

/-- A creation does nothing to the records that are stored. -/
theorem create_keeps_record (request : CreateRequest) {s : σ} {id : KeyId} {r : KeyRecord}
    (hr : (table.get s).records.get? id = some r) :
    (table.get (svc.create request s).2).records.get? id = some r := by
  have hadd : ∀ r', (table.get s).records.get? r'.id = none →
      ((table.get s).add r').records.get? id = some r := by
    intro r' hfree
    rw [records_add, if_neg, hr]
    rintro rfl
    rw [hfree] at hr
    cases hr
  rcases h.create_cases request s with ⟨e, s', he, hs' | ⟨r', hfree, hs'⟩⟩ | ⟨k, s', he, hadded⟩ <;>
    rw [he]
  · exact (congrArg (·.records.get? id) hs').trans hr
  · exact (congrArg (·.records.get? id) hs').trans (hadd r' hfree)
  · exact (congrArg (·.records.get? id) hadded.table_eq).trans (hadd _ hadded.id_free)

theorem table_of_beforeVerify {request : VerifyRequest} {s s' : σ}
    {result : Except (Failure Error) (Option Rejection)}
    (hrun : svc.plugins.run (.beforeVerify request) s = (result, s')) :
    table.get s' = table.get s :=
  (h.run_keeps (.beforeVerify request) fun hphase => by cases hphase).view_eq hrun

/-- To report the use and to show it to the plugins does nothing to the table either. -/
theorem table_of_stands {request : VerifyRequest} {s s₁ s₂ s₃ s₄ : σ} {r : KeyRecord}
    {result : Except (Failure Error) (Option Rejection)}
    (hstands : svc.Stands table request s r s₁ s₂ s₃)
    (hrun : svc.plugins.run (.verified request r) s₃ = (result, s₄)) :
    table.get s₄ = table.get s₂ := by
  have htrack := h.track_within (.verified r.id r.owner request.partition) s₂
  rw [← hstands.reported] at htrack
  have hkeeps := h.run_keeps (.verified request r) fun hphase => by cases hphase
  exact (hkeeps.view_eq hrun).trans htrack.symm

/-- The use is there to be spent if the record that was loaded is the one that is stored. -/
theorem answer_of_left {r : KeyRecord} {n : Int64} {s : σ}
    (hr : (table.get s).records.get? r.id = some r) (hn : r.uses = some n) (hpos : 0 < n) :
    ∃ s', UsageLimits.answer ⟨svc.store⟩ r s = (.ok none, s') ∧
      table.get s' = (Write.spend r.id).apply (table.get s) := by
  have hstore : svc.store.spend r.id s = (.ok (.spent (n - 1)),
      table.set ((Write.spend r.id).apply (table.get s)) s) := by
    rw [h.store_eq]
    change (KeyTable.spend r.id).onPart table s = _
    rw [onPart_apply, spend_of_left hr hn hpos]
    rfl
  refine ⟨_, ?_, h.lawful.get_set _ s⟩
  unfold UsageLimits.answer
  rw [hn]
  dsimp only
  rw [if_neg (Int64.not_le.2 hpos), bind_ok (mapError_ok hstore)]
  rfl

/-! ### What a verification does to the uses of a record -/

/-- A loaded record is charged if all plugins let it pass, and otherwise perhaps. -/
theorem useStep_of_shown {request : VerifyRequest} {r : KeyRecord} {s : σ} {id : KeyId}
    (hr : (table.get s).records.get? r.id = some r) (hlimited : (table.get s).uses? id ≠ some none)
    {paid : Bool}
    (hpaid : paid = true → r.id = id ∧ (svc.plugins.run (.recordLoaded request r) s).1 = .ok none) :
    UseStep ((table.get s).uses? id) none paid
      ((table.get (svc.plugins.run (.recordLoaded request r) s).2).uses? id) := by
  have haround := Pipeline.run_around (p := Plugin.usageLimits ⟨svc.store⟩)
    (fun q hq => h.others_keep q hq (.recordLoaded request r)) s
  rw [← h.plugins_eq] at haround
  generalize svc.plugins.run (.recordLoaded request r) s = run at haround hpaid
  have hunpaid : run.1 ≠ .ok none → table.get run.2 = table.get s →
      UseStep ((table.get s).uses? id) none paid ((table.get run.2).uses? id) := by
    intro hreject hsame
    have hpaid' : paid = false := Bool.eq_false_iff.2 fun hp => hreject (hpaid hp).2
    rw [hpaid', hsame]
    exact useStep_of_same rfl hlimited none
  rcases haround with ⟨hreject, hsame⟩ | ⟨s₁, hs₁, hafter, hpasses⟩
  · exact hunpaid hreject hsame
  -- The plugin is asked in a state `s₁` with the same table.
  change table.get run.2 = table.get (UsageLimits.answer ⟨svc.store⟩ r s₁).2 at hafter
  cases hn : r.uses with
  | none =>
      rw [UsageLimits.answer_of_unlimited hn, hs₁] at hafter
      have hid : r.id ≠ id := by
        rintro rfl
        exact hlimited (by rw [uses?, hr, Option.map_some, hn])
      have hpaid' : paid = false := Bool.eq_false_iff.2 fun hp => hid (hpaid hp).1
      rw [hpaid', hafter]
      exact useStep_of_same rfl hlimited none
  | some n =>
      by_cases hpos : 0 < n
      · obtain ⟨s₂, hanswer, hs₂⟩ := h.answer_of_left (hs₁ ▸ hr) hn hpos
        rw [hanswer, hs₂, hs₁] at hafter
        have hrecord := (spend_apply r.id (table.get s)).2 id
        by_cases hid : r.id = id
        · have hspent : (table.get run.2).uses? id = some (some (n - 1)) := by
            rw [hafter, uses?, Write.apply, hrecord, if_pos hid, ← hid, hr, Option.map_some,
              Option.map_some, KeyRecord.uses_spent hn hpos]
          have hbefore : (table.get s).uses? id = some (some n) := by
            rw [uses?, ← hid, hr, Option.map_some, hn]
          rw [hbefore, hspent]
          exact .charged n hpos paid
        · have hpaid' : paid = false := Bool.eq_false_iff.2 fun hp => hid (hpaid hp).1
          rw [if_neg hid] at hrecord
          rw [hpaid', hafter]
          exact useStep_of_same hrecord hlimited none
      · -- Nothing is left, and the plugin rejects.
        have hanswer : UsageLimits.answer ⟨svc.store⟩ r s₁ = _ :=
          UsageLimits.answer_of_nothing_left hn (Int64.not_lt.1 hpos) s₁
        rw [hanswer, hs₁] at hafter
        refine hunpaid (fun hok => ?_) hafter
        obtain ⟨result, hresult, hpass⟩ := (hpasses hok).answer_eq
        change (UsageLimits.answer ⟨svc.store⟩ r s₁).1 = _ at hresult
        rw [hanswer] at hresult
        cases result with
        | error e => cases hresult
        | ok decision =>
            cases hresult
            cases hpass

section Verify

variable {request : VerifyRequest} {s : σ} {id : KeyId} (hs : (table.get s).Consistent)

include hs

theorem table_of_finds {r : KeyRecord} {s₁ : σ} (hfinds : svc.Finds table request s r s₁) :
    table.get s₁ = table.get s ∧ (table.get s).records.get? r.id = some r := by
  have hs₁ := h.table_of_beforeVerify hfinds.passed
  have hlookup := hfinds.found
  rw [hs₁] at hlookup
  exact ⟨hs₁, (hs.lookup_eq_some_iff.1 hlookup).1⟩

variable (hlimited : (table.get s).uses? id ≠ some none)

include hlimited

theorem useStep_of_finds {r : KeyRecord} {s₁ s₂ : σ}
    {result : Except (Failure Error) (Option Rejection)} (hfinds : svc.Finds table request s r s₁)
    (hrun : svc.plugins.run (.recordLoaded request r) s₁ = (result, s₂)) (paid : Bool)
    (hpaid : paid = true → r.id = id ∧ result = .ok none) :
    UseStep ((table.get s).uses? id) none paid ((table.get s₂).uses? id) := by
  obtain ⟨hs₁, hr⟩ := h.table_of_finds hs hfinds
  rw [← hs₁] at hr hlimited ⊢
  have hstep : UseStep ((table.get s₁).uses? id) none paid
      ((table.get (svc.plugins.run (.recordLoaded request r) s₁).2).uses? id) :=
    h.useStep_of_shown hr hlimited (by rwa [hrun])
  rwa [hrun] at hstep

/-- A verification takes at most one use, and just one if it accepts the key. -/
theorem useStep_of_verify :
    UseStep ((table.get s).uses? id) none (accepts id (svc.verify request s).1)
      ((table.get (svc.verify request s).2).uses? id) := by
  have hcourse := h.verify_course request s
  generalize svc.verify request s = answer at hcourse ⊢
  obtain ⟨result, s'⟩ := answer
  dsimp only at hcourse ⊢
  have hsame : ∀ {s₁}, table.get s₁ = table.get s →
      UseStep ((table.get s).uses? id) none false ((table.get s₁).uses? id) := by
    intro s₁ hs₁
    rw [hs₁]
    exact useStep_of_same rfl hlimited none
  have hshown := @useStep_of_finds _ _ _ _ _ h request s id hs hlimited
  cases hcourse with
  | missing => exact hsame rfl
  | failedBefore _ hrun => exact hsame (h.table_of_beforeVerify hrun)
  | blocked _ hrun => exact hsame (h.table_of_beforeVerify hrun)
  | unknown hadmits => exact hsame (h.table_of_beforeVerify hadmits.passed)
  | revoked hfinds => exact hsame (h.table_of_finds hs hfinds).1
  | failedShown hfinds _ hrun => exact hshown hfinds hrun false nofun
  | refused hfinds _ hrun => exact hshown hfinds hrun false nofun
  | @expired r _ _ hclears =>
      refine useStep_of_dropped r.id (hshown hclears.toFinds hclears.shown false nofun) ?_
      rw [(h.dropExpired_apply _ _).2]
      split
      · exact .inr rfl
      · exact .inl rfl
  | exhausted hclears => exact hshown hclears.toFinds hclears.shown false nofun
  | failedVerified hstands hrun =>
      have hstep := hshown hstands.toFinds hstands.shown false nofun
      rwa [← h.table_of_stands hstands hrun] at hstep
  | vetoed hstands hrun =>
      have hstep := hshown hstands.toFinds hstands.shown false nofun
      rwa [← h.table_of_stands hstands hrun] at hstep
  | accepted hstands hrun =>
      rw [h.table_of_stands hstands hrun]
      refine hshown hstands.toFinds hstands.shown _ fun hpaid => ⟨?_, rfl⟩
      have hkey := of_decide_eq_true hpaid
      exact Option.some.inj hkey

end Verify

/-! ### Verifications that nothing else stands against -/

/-- If the plugin for usage limits alone rejects, it does so in its turn, with the table as it was. -/
theorem rejectionAt?_of_run {hook : Hook} {s s' : σ} {rejection : Rejection}
    (honly : svc.OnlyUsageRejects hook s)
    (hrun : svc.plugins.run hook s = (.ok (some rejection), s')) :
    ∃ s₁, table.get s₁ = table.get s ∧
      (Plugin.usageLimits ⟨svc.store⟩).rejectionAt? hook s₁ = some rejection := by
  obtain ⟨turn, hturn, hrejects⟩ := Pipeline.exists_turn_of_run hrun
  have hname : turn.1.name = UsageLimits.pluginName :=
    (Plugin.plugin_of_rejectionAt? hrejects).symm.trans (honly.plugin_eq hrun)
  rw [h.plugins_eq, Pipeline.turns_append] at hturn
  rcases List.mem_append.1 hturn with hbefore | hrest
  · have hmem := List.mem_append_left after (Pipeline.fst_mem_of_mem_turns hbefore)
    exact absurd hname (h.others_named _ hmem)
  rcases List.mem_cons.1 hrest with rfl | hafter
  · refine ⟨_, ?_, hrejects⟩
    exact Pipeline.endState_keeps (fun p hp => h.others_keep p (List.mem_append_left after hp) hook) s
  · have hmem := List.mem_append_right before (Pipeline.fst_mem_of_mem_turns hafter)
    exact absurd hname (h.others_named _ hmem)

theorem run_ne_rejection {hook : Hook} {s s' : σ} {rejection : Rejection}
    (hhook : hook.phase ≠ .recordLoaded) (honly : svc.OnlyUsageRejects hook s)
    (hrun : svc.plugins.run hook s = (.ok (some rejection), s')) : False := by
  obtain ⟨s₁, -, hrejects⟩ := h.rejectionAt?_of_run honly hrun
  unfold Plugin.rejectionAt? at hrejects
  rw [h.usageLimits_builtIn.answer_of_ne hhook] at hrejects
  cases hrejects

theorem rejection_of_shown {request : VerifyRequest} {r : KeyRecord} {n : Int64} {s s' : σ}
    {rejection : Rejection} (hr : (table.get s).records.get? r.id = some r) (hn : r.uses = some n)
    (honly : svc.OnlyUsageRejects (.recordLoaded request r) s)
    (hrun : svc.plugins.run (.recordLoaded request r) s = (.ok (some rejection), s')) :
    rejection.reason = Reason.usageExceeded ∧ ¬0 < n := by
  obtain ⟨s₁, hs₁, hrejects⟩ := h.rejectionAt?_of_run honly hrun
  have hasked : ∀ {decision : Option Decision} {s₂ : σ},
      UsageLimits.answer ⟨svc.store⟩ r s₁ = (.ok decision, s₂) →
      (Plugin.usageLimits ⟨svc.store⟩).rejectionAt? (.recordLoaded request r) s₁ =
        Pipeline.rejection? (Plugin.usageLimits ⟨svc.store⟩) (.ok decision) :=
    fun hanswer => Plugin.rejectionAt?_of_ok hanswer
  by_cases hpos : 0 < n
  · obtain ⟨s₂, hanswer, -⟩ := h.answer_of_left (hs₁ ▸ hr) hn hpos
    rw [hasked hanswer] at hrejects
    cases hrejects
  · rw [hasked (UsageLimits.answer_of_nothing_left hn (Int64.not_lt.1 hpos) s₁)] at hrejects
    cases hrejects
    exact ⟨rfl, hpos⟩

/-- Whether a use is left decides. -/
theorem verify_iff_left {request : VerifyRequest} {s : σ} {r : KeyRecord} {n : Int64}
    (hs : (table.get s).Consistent) (hr : (table.get s).records.get? r.id = some r)
    (hn : r.uses = some n) (hkey : svc.config.hasher.hash request.key = r.digest)
    (hfields : svc.missing? request = none) (hrevoked : r.isRevoked = false)
    (hunexpired : r.isExpiredAt (svc.now (svc.stateAtExpiry request s r)) = false)
    (hbefore : svc.OnlyUsageRejects (.beforeVerify request) s)
    (hshown : svc.OnlyUsageRejects (.recordLoaded request r) (svc.stateAtLookup request s))
    (hverified : svc.OnlyUsageRejects (.verified request r) (svc.stateAtSuccess request s r)) :
    ∃ o, (svc.verify request s).1 = .ok o ∧ o.keyId = some r.id ∧ (o.valid = true ↔ 0 < n) ∧
      (o.valid = false → o.reason = some Reason.usageExceeded) := by
  have hcourse := h.verify_course request s
  generalize svc.verify request s = answer at hcourse ⊢
  obtain ⟨result, s'⟩ := answer
  have hlookup : (table.get s).lookup (svc.config.hasher.hash request.key) = some r :=
    hs.lookup_eq_some_iff.2 ⟨hr, hkey.symm⟩
  have hsame : ∀ {r' s₁}, svc.Finds table request s r' s₁ → r' = r := by
    intro r' s₁ hfinds
    have hfound := hfinds.found
    rw [(h.table_of_finds hs hfinds).1, hlookup] at hfound
    exact (Option.some.inj hfound).symm
  cases hcourse with
  | missing hmissing =>
      rw [hfields] at hmissing
      cases hmissing
  | failedBefore _ hrun => exact (hbefore.ne_error hrun).elim
  | blocked _ hrun => exact (h.run_ne_rejection (fun hphase => by cases hphase) hbefore hrun).elim
  | unknown hadmits hnone =>
      rw [h.table_of_beforeVerify hadmits.passed, hlookup] at hnone
      cases hnone
  | revoked hfinds hrev =>
      rw [hsame hfinds, hrevoked] at hrev
      cases hrev
  | failedShown hfinds _ hrun =>
      obtain rfl := hsame hfinds
      rw [hfinds.stateAtLookup_eq] at hshown
      exact (hshown.ne_error hrun).elim
  | refused hfinds _ hrun =>
      obtain rfl := hsame hfinds
      rw [hfinds.stateAtLookup_eq] at hshown
      have hs₁ := (h.table_of_finds hs hfinds).1
      obtain ⟨hreason, hnone⟩ := h.rejection_of_shown (hs₁ ▸ hr) hn hshown hrun
      exact ⟨_, rfl, rfl, iff_of_false nofun hnone, fun _ => congrArg some hreason⟩
  | expired hclears hexpired =>
      obtain rfl := hsame hclears.toFinds
      rw [hclears.stateAtExpiry_eq, hexpired] at hunexpired
      cases hunexpired
  | exhausted hclears _ hexhausted =>
      obtain rfl := hsame hclears.toFinds
      unfold KeyRecord.isExhausted at hexhausted
      rw [hn] at hexhausted
      have hnone := Int64.not_lt.2 (of_decide_eq_true hexhausted)
      exact ⟨_, rfl, rfl, iff_of_false nofun hnone, fun _ => rfl⟩
  | failedVerified hstands hrun =>
      obtain rfl := hsame hstands.toFinds
      rw [hstands.stateAtSuccess_eq] at hverified
      exact (hverified.ne_error hrun).elim
  | vetoed hstands hrun =>
      obtain rfl := hsame hstands.toFinds
      rw [hstands.stateAtSuccess_eq] at hverified
      exact (h.run_ne_rejection (fun hphase => by cases hphase) hverified hrun).elim
  | accepted hstands hrun =>
      obtain rfl := hsame hstands.toFinds
      have husable := hstands.usable
      unfold KeyRecord.isExhausted at husable
      rw [hn] at husable
      exact ⟨_, rfl, rfl, iff_of_true rfl (Int64.not_le.1 (of_decide_eq_false husable)), nofun⟩

end Metered

end Service

end Latchkey
