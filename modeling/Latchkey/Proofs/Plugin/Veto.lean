import Mathlib.Data.List.Induction
import Mathlib.Data.List.Nodup
import Latchkey.Proofs.Plugin.Turns
/-!
# A veto is final

Plugins are asked in the order of their registration, up to the first that rejects. Its reason is the
answer of the run, and none after it is asked at all. Where what plugins answer follows from the hook alone,
those that fail, allow or have nothing to say might as well be left out, and one that is put in anywhere
cannot undo what another has rejected.
-/

namespace Latchkey

open Act

variable {σ : Type} {hook : Hook} {s s' : σ} {r : Rejection}

/-! ### What a plugin does in its turn -/

namespace Plugin

variable {p : Plugin σ}

/-- The plugin fails, has nothing to say or allows what is about to happen. -/
def LetsPass (p : Plugin σ) (hook : Hook) (s : σ) : Prop :=
  (∃ e, (p.answer hook s).1 = .error (.error e)) ∨ (p.answer hook s).1 = .ok none ∨
    ∃ d, (p.answer hook s).1 = .ok (some d) ∧ d.reject = false

/-- The plugin rejects, with its own reason if it gives one. -/
def Rejects (p : Plugin σ) (hook : Hook) (s : σ) (r : Rejection) : Prop :=
  ∃ d, (p.answer hook s).1 = .ok (some d) ∧ d.reject = true ∧ r = ⟨p.name, d.reason.getD "rejected"⟩

/-- What the plugin answers follows from the hook, whatever it does to the state. -/
def Stateless (p : Plugin σ) (hook : Hook) : Prop :=
  ∀ s s', (p.answer hook s).1 = (p.answer hook s').1

theorem Stateless.letsPass (h : p.Stateless hook) (hpass : p.LetsPass hook s) : p.LetsPass hook s' := by
  rwa [LetsPass, h s' s]

theorem Stateless.rejects (h : p.Stateless hook) (hreject : p.Rejects hook s r) :
    p.Rejects hook s' r := by
  rwa [Rejects, h s' s]

theorem answer_cases (p : Plugin σ) (hook : Hook) (s : σ) :
    p.LetsPass hook s ∨ (∃ r, p.Rejects hook s r) ∨ (p.answer hook s).1 = .error .outOfTime := by
  unfold LetsPass Rejects
  rcases (p.answer hook s).1 with (e | -) | (- | d)
  · exact .inl (.inl ⟨e, rfl⟩)
  · exact .inr (.inr rfl)
  · exact .inl (.inr (.inl rfl))
  · cases hd : d.reject with
    | false => exact .inl (.inr (.inr ⟨d, rfl, hd⟩))
    | true => exact .inr (.inl ⟨_, d, rfl, hd, rfl⟩)

theorem LetsPass.run_eq (h : p.LetsPass hook s) (ps : Pipeline σ) :
    Pipeline.run hook (p :: ps) s = Pipeline.run hook ps (p.answer hook s).2 := by
  refine Pipeline.Passes.run_eq ?_
  rcases h with ⟨e, he⟩ | hnone | ⟨d, hd, hreject⟩
  · exact ⟨.error e, attempt_error (Prod.ext he rfl), rfl⟩
  · exact ⟨.ok none, attempt_ok (Prod.ext hnone rfl), rfl⟩
  · refine ⟨.ok (some d), attempt_ok (Prod.ext hd rfl), ?_⟩
    rw [Pipeline.rejection?, hreject]
    rfl

theorem Rejects.run_eq (h : p.Rejects hook s r) (ps : Pipeline σ) :
    Pipeline.run hook (p :: ps) s = (.ok (some r), (p.answer hook s).2) := by
  obtain ⟨d, hd, hreject, rfl⟩ := h
  refine Pipeline.run_of_rejectionAt?_eq_some ps ?_
  rw [rejectionAt?_of_ok (Prod.ext hd rfl), Pipeline.rejection?, hreject]
  rfl

theorem run_of_outOfTime (h : (p.answer hook s).1 = .error .outOfTime) (ps : Pipeline σ) :
    Pipeline.run hook (p :: ps) s = (.error .outOfTime, (p.answer hook s).2) := by
  rw [Pipeline.run_cons, bind_error (attempt_outOfTime (Prod.ext h rfl))]

/-- The plugin with a note of every call of it. -/
def recorded (p : Plugin σ) : Plugin (σ × List (String × Hook)) where
  name := p.name
  requiredFields := p.requiredFields
  answer hook := fun (s, calls) =>
    ((p.answer hook s).1, (p.answer hook s).2, calls ++ [(p.name, hook)])

end Plugin

namespace Pipeline

/-! ### Registration -/

/-- The plugins registered one by one, but for those that are refused. -/
def registerEach (plugins : List (Plugin σ)) : Pipeline σ :=
  plugins.foldl (fun ps p => ((ps.register p).toOption).getD ps) []

theorem register_cases (ps : Pipeline σ) (p : Plugin σ) :
    (p.name ∉ ps.names ∧ ps.register p = .ok (ps ++ [p])) ∨
      (p.name ∈ ps.names ∧ ps.register p = .error (.alreadyRegistered p.name)) := by
  by_cases h : p.name ∈ ps.names
  · exact .inr ⟨h, if_pos (List.contains_iff_mem.2 h)⟩
  · exact .inl ⟨h, if_neg fun hcontains => h (List.contains_iff_mem.1 hcontains)⟩

theorem registerEach_concat (plugins : List (Plugin σ)) (p : Plugin σ) :
    registerEach (plugins ++ [p]) =
      if p.name ∈ (registerEach plugins).names then registerEach plugins
      else registerEach plugins ++ [p] := by
  have hstep : registerEach (plugins ++ [p]) =
      (((registerEach plugins).register p).toOption).getD (registerEach plugins) :=
    List.foldl_append
  rcases register_cases (registerEach plugins) p with ⟨hname, hregister⟩ | ⟨hname, hregister⟩
  · rw [hstep, hregister, if_neg hname]
    rfl
  · rw [hstep, hregister, if_pos hname]
    rfl

theorem nodup_names_concat {ps : Pipeline σ} {p : Plugin σ} :
    (names (ps ++ [p])).Nodup ↔ p.name ∉ ps.names ∧ ps.names.Nodup := by
  rw [names, List.map_append, List.nodup_append_comm]
  exact List.nodup_cons

theorem names_registerEach_nodup (plugins : List (Plugin σ)) : (registerEach plugins).names.Nodup := by
  induction plugins using List.reverseRecOn with
  | nil => exact List.nodup_nil
  | append_singleton plugins p ih =>
      rw [registerEach_concat]
      split
      · exact ih
      · rename_i hname
        exact nodup_names_concat.2 ⟨hname, ih⟩

theorem registerEach_sublist (plugins : List (Plugin σ)) : (registerEach plugins).Sublist plugins := by
  induction plugins using List.reverseRecOn with
  | nil => exact List.Sublist.refl []
  | append_singleton plugins p ih =>
      rw [registerEach_concat]
      split
      · exact ih.trans (List.sublist_append_left plugins [p])
      · exact ih.append_right [p]

theorem ofPlugins_concat (plugins : List (Plugin σ)) (p : Plugin σ) :
    ofPlugins (plugins ++ [p]) = ofPlugins plugins >>= (·.register p) := by
  rw [ofPlugins, List.foldlM_append]
  refine congrArg (ofPlugins plugins >>= ·) (funext fun ps => ?_)
  rw [List.foldlM_cons]
  exact bind_pure (ps.register p)

/-- All plugins of a list are accepted if no two of them have one name. -/
theorem ofPlugins_eq_ok_iff {plugins : List (Plugin σ)} {ps : Pipeline σ} :
    ofPlugins plugins = .ok ps ↔ ps = plugins ∧ (names plugins).Nodup := by
  induction plugins using List.reverseRecOn generalizing ps with
  | nil => exact ⟨fun h => ⟨(Except.ok.inj h).symm, List.nodup_nil⟩, fun h => congrArg Except.ok h.1.symm⟩
  | append_singleton plugins p ih =>
      rw [ofPlugins_concat, nodup_names_concat]
      cases hprefix : ofPlugins plugins with
      | error e =>
          refine iff_of_false nofun fun ⟨_, _, hplugins⟩ => ?_
          cases hprefix.symm.trans (ih.2 ⟨rfl, hplugins⟩)
      | ok qs =>
          obtain ⟨rfl, hqs⟩ := ih.1 hprefix
          rcases register_cases qs p with ⟨hname, hregister⟩ | ⟨hname, hregister⟩
          · refine Iff.trans ?_ (and_iff_left ⟨hname, hqs⟩).symm
            change qs.register p = .ok ps ↔ _
            rw [hregister, Except.ok.injEq, eq_comm]
          · refine iff_of_false ?_ fun ⟨_, hfresh, _⟩ => hfresh hname
            change qs.register p ≠ .ok ps
            rw [hregister]
            nofun

theorem registerEach_of_nodup {plugins : List (Plugin σ)} (h : (names plugins).Nodup) :
    registerEach plugins = plugins := by
  induction plugins using List.reverseRecOn with
  | nil => rfl
  | append_singleton plugins p ih =>
      obtain ⟨hname, hplugins⟩ := nodup_names_concat.1 h
      rw [registerEach_concat, ih hplugins, if_neg hname]

/-! ### Runs -/

/-- The ways in which a run ends that has called these plugins and none of those after them. -/
inductive Ends (hook : Hook) (s : σ) :
    Pipeline σ → Pipeline σ → Except (Failure Error) (Option Rejection) → Prop where
  | passed {called : Pipeline σ} (h : ∀ turn ∈ called.turns hook s, turn.1.LetsPass hook turn.2) :
    Ends hook s called [] (.ok none)
  | vetoed (earlier : Pipeline σ) {later : Pipeline σ} {p : Plugin σ} {r : Rejection}
    (h : ∀ turn ∈ earlier.turns hook s, turn.1.LetsPass hook turn.2)
    (hp : p.Rejects hook (endState hook earlier s) r) :
    Ends hook s (earlier ++ [p]) later (.ok (some r))
  | outOfTime (earlier : Pipeline σ) {later : Pipeline σ} {p : Plugin σ}
    (h : ∀ turn ∈ earlier.turns hook s, turn.1.LetsPass hook turn.2)
    (hp : (p.answer hook (endState hook earlier s)).1 = .error .outOfTime) :
    Ends hook s (earlier ++ [p]) later (.error .outOfTime)

theorem Ends.cons {p : Plugin σ} {called later : Pipeline σ}
    {result : Except (Failure Error) (Option Rejection)} (hp : p.LetsPass hook s)
    (h : Ends hook (p.answer hook s).2 called later result) : Ends hook s (p :: called) later result := by
  have hturns : ∀ {earlier : Pipeline σ},
      (∀ turn ∈ earlier.turns hook (p.answer hook s).2, turn.1.LetsPass hook turn.2) →
      ∀ turn ∈ turns hook (p :: earlier) s, turn.1.LetsPass hook turn.2 :=
    fun hearlier => List.forall_mem_cons.2 ⟨hp, hearlier⟩
  cases h with
  | passed h => exact .passed (hturns h)
  | vetoed earlier h hq => exact .vetoed (p :: earlier) (hturns h) hq
  | outOfTime earlier h hq => exact .outOfTime (p :: earlier) (hturns h) hq

/-- The calls of a run, and what comes of them. -/
theorem run_ends (hook : Hook) (ps : Pipeline σ) (s : σ) :
    ∃ called later, called ++ later = ps ∧ Ends hook s called later (run hook ps s).1 ∧
      (run hook ps s).2 = endState hook called s ∧
      ∀ calls, run hook (ps.map Plugin.recorded) (s, calls) =
        ((run hook ps s).1, endState hook called s, calls ++ called.map fun p => (p.name, hook)) := by
  induction ps generalizing s with
  | nil =>
      refine ⟨[], [], rfl, .passed nofun, rfl, fun calls => ?_⟩
      exact Prod.ext rfl (Prod.ext rfl (List.append_nil calls).symm)
  | cons p ps ih =>
      have hrecorded : ∀ calls, p.recorded.answer hook (s, calls) =
        ((p.answer hook s).1, (p.answer hook s).2, calls ++ [(p.name, hook)]) := fun _ => rfl
      rcases p.answer_cases hook s with hp | ⟨r, hp⟩ | hp
      · obtain ⟨called, later, rfl, hends, hstate, hcalls⟩ := ih (p.answer hook s).2
        refine ⟨p :: called, later, rfl, ?_, ?_, fun calls => ?_⟩
        · rw [hp.run_eq]
          exact hends.cons hp
        · rw [hp.run_eq]
          exact hstate
        · have hp' : p.recorded.LetsPass hook (s, calls) := hp
          rw [List.map_cons, hp'.run_eq, hrecorded, hcalls, hp.run_eq, List.append_assoc]
          rfl
      · refine ⟨[p], ps, rfl, ?_, ?_, fun calls => ?_⟩
        · rw [hp.run_eq]
          exact .vetoed [] nofun hp
        · rw [hp.run_eq]
          rfl
        · have hp' : p.recorded.Rejects hook (s, calls) r := hp
          rw [List.map_cons, hp'.run_eq, hrecorded, hp.run_eq]
          rfl
      · refine ⟨[p], ps, rfl, ?_, ?_, fun calls => ?_⟩
        · rw [Plugin.run_of_outOfTime hp]
          exact .outOfTime [] nofun hp
        · rw [Plugin.run_of_outOfTime hp]
          rfl
        · have hp' : (p.recorded.answer hook (s, calls)).1 = .error .outOfTime := hp
          rw [List.map_cons, Plugin.run_of_outOfTime hp', hrecorded, Plugin.run_of_outOfTime hp]
          rfl

/-! ### Plugins put in and left out -/

/-- Where plugins go by the hook alone, it makes no difference to leave some out that let it pass. -/
theorem run_filter {ps : Pipeline σ} (keep : Plugin σ → Bool) (h : ∀ p ∈ ps, p.Stateless hook)
    (hkeep : ∀ p ∈ ps, keep p = false → ∀ s, p.LetsPass hook s) (s s' : σ) :
    (run hook (ps.filter keep) s').1 = (run hook ps s).1 := by
  induction ps generalizing s s' with
  | nil => rfl
  | cons p ps ih =>
      have hp := h p List.mem_cons_self
      have ih := ih (fun q hq => h q (List.mem_cons_of_mem p hq))
        fun q hq => hkeep q (List.mem_cons_of_mem p hq)
      cases hkept : keep p with
      | false =>
          rw [List.filter_cons_of_neg (Bool.eq_false_iff.1 hkept),
            (hkeep p List.mem_cons_self hkept s).run_eq]
          exact ih _ _
      | true =>
          rw [List.filter_cons_of_pos hkept]
          rcases p.answer_cases hook s with hpass | ⟨r, hreject⟩ | htime
          · rw [hpass.run_eq, (hp.letsPass hpass).run_eq]
            exact ih _ _
          · rw [hreject.run_eq, (hp.rejects hreject).run_eq]
          · rw [Plugin.run_of_outOfTime htime, Plugin.run_of_outOfTime ((hp s' s).trans htime)]

theorem run_fst_eq {ps : Pipeline σ} (h : ∀ p ∈ ps, p.Stateless hook) (s s' : σ) :
    (run hook ps s').1 = (run hook ps s).1 := by
  have hfilter := run_filter (fun _ => true) h (fun _ _ hkept => Bool.noConfusion hkept) s s'
  rwa [List.filter_true] at hfilter

/-- The plugin put in may itself reject, or leave the range of instants, but what the others reject
does not pass. -/
theorem run_insert {before after : Pipeline σ} (h : ∀ p ∈ before ++ after, p.Stateless hook)
    (q : Plugin σ) (s' : σ) (hr : (run hook (before ++ after) s).1 = .ok (some r)) :
    (run hook (before ++ q :: after) s').1 = .ok (some r) ∨
      (∃ u r', q.Rejects hook u r' ∧ (run hook (before ++ q :: after) s').1 = .ok (some r')) ∨
      ∃ u, (q.answer hook u).1 = .error .outOfTime ∧
        (run hook (before ++ q :: after) s').1 = .error .outOfTime := by
  induction before generalizing s s' with
  | nil =>
      rw [List.nil_append]
      rcases q.answer_cases hook s' with hpass | ⟨r', hreject⟩ | htime
      · left
        rw [hpass.run_eq]
        exact (run_fst_eq h s _).trans hr
      · exact .inr (.inl ⟨s', r', hreject, by rw [hreject.run_eq]⟩)
      · exact .inr (.inr ⟨s', htime, by rw [Plugin.run_of_outOfTime htime]⟩)
  | cons p before ih =>
      have hp := h p List.mem_cons_self
      rw [List.cons_append] at hr ⊢
      rcases p.answer_cases hook s with hpass | ⟨r', hreject⟩ | htime
      · rw [hpass.run_eq] at hr
        rw [(hp.letsPass hpass).run_eq]
        exact ih (fun q' hq' => h q' (List.mem_cons_of_mem p hq')) _ hr
      · left
        rw [hreject.run_eq] at hr
        rw [(hp.rejects hreject).run_eq]
        exact hr
      · rw [Plugin.run_of_outOfTime htime] at hr
        cases hr

/-- Whatever is registered, a run asks the plugins in that order, each at most once and none after the
first that rejects, and answers with its rejection. A rejection stands whatever plugins that let pass are
left out and whatever others are put in. -/
theorem veto_final (plugins : List (Plugin σ)) (hook : Hook) :
    let ps := registerEach plugins
    (ps.names.Nodup ∧ ps.Sublist plugins ∧
      (∀ qs, ofPlugins plugins = .ok qs ↔ qs = plugins ∧ (names plugins).Nodup) ∧
      ((names plugins).Nodup → ps = plugins) ∧
      ∀ p, registerEach (plugins ++ [p]) = if p.name ∈ ps.names then ps else ps ++ [p]) ∧
    (∀ s, ∃ called later, called ++ later = ps ∧ called.names.Nodup ∧
      Ends hook s called later (run hook ps s).1 ∧ (run hook ps s).2 = endState hook called s ∧
      ∀ calls, run hook (ps.map Plugin.recorded) (s, calls) =
        ((run hook ps s).1, endState hook called s, calls ++ called.map fun p => (p.name, hook))) ∧
    ((∀ p ∈ ps, p.Stateless hook) →
      (∀ keep : Plugin σ → Bool, (∀ p ∈ ps, keep p = false → ∀ s, p.LetsPass hook s) →
        ∀ s s', (run hook (ps.filter keep) s').1 = (run hook ps s).1) ∧
      ∀ before after, ps = before ++ after → ∀ q s s' r, (run hook ps s).1 = .ok (some r) →
        (run hook (before ++ q :: after) s').1 = .ok (some r) ∨
          (∃ u r', q.Rejects hook u r' ∧ (run hook (before ++ q :: after) s').1 = .ok (some r')) ∨
          ∃ u, (q.answer hook u).1 = .error .outOfTime ∧
            (run hook (before ++ q :: after) s').1 = .error .outOfTime) := by
  intro ps
  have hnodup : ps.names.Nodup := names_registerEach_nodup plugins
  refine ⟨⟨hnodup, registerEach_sublist plugins, fun qs => ofPlugins_eq_ok_iff,
    registerEach_of_nodup, registerEach_concat plugins⟩, fun s => ?_, fun h => ⟨fun keep hkeep s s' => ?_, ?_⟩⟩
  · obtain ⟨called, later, hps, hends⟩ := run_ends hook ps s
    have hcalled : called.names.Nodup := by
      rw [← hps, names, List.map_append] at hnodup
      exact hnodup.of_append_left
    exact ⟨called, later, hps, hcalled, hends⟩
  · exact run_filter keep h hkeep s s'
  · intro before after hps q s s' r hr
    rw [hps] at h hr
    exact run_insert h q s' hr

/-- A plugin that fails before the veto makes no difference to it, a refused one has no second turn, and
nothing that is put in between lets the operation pass. -/
theorem veto_final_blocked (hook : Hook) :
    let failing : Plugin Nat := { name := "failing", answer := fun _ => .fail (.hookFailed "failing" "") }
    let first : Plugin Nat := { name := "first", answer := fun _ => pure (some (.rejecting "blocked")) }
    let second : Plugin Nat := { name := "second", answer := fun _ => pure (some { reject := true }) }
    registerEach [failing, first, failing, second] = [failing, first, second] ∧
    (run hook [failing, first, second] 0).1 = .ok (some ⟨"first", "blocked"⟩) ∧
    (run hook [first, second] 0).1 = .ok (some ⟨"first", "blocked"⟩) ∧
    ∀ q : Plugin Nat, (run hook ([failing] ++ q :: [first, second]) 0).1 ≠ .ok none := by
  intro failing first second
  have hps : registerEach [failing, first, failing, second] = [failing, first, second] := rfl
  have hrun : (run hook [failing, first, second] 0).1 = .ok (some ⟨"first", "blocked"⟩) := rfl
  obtain ⟨-, -, hveto⟩ := veto_final [failing, first, failing, second] hook
  rw [hps] at hveto
  have hstateless : ∀ p ∈ [failing, first, second], p.Stateless hook := by
    simp [failing, first, second, Plugin.Stateless]
  obtain ⟨hleft, hput⟩ := hveto hstateless
  refine ⟨hps, hrun, ?_, fun q => ?_⟩
  · have hfailing : ∀ p ∈ [failing, first, second], (p.name != "failing") = false →
        ∀ s, p.LetsPass hook s := by
      intro p hp hname s
      simp only [List.mem_cons, List.not_mem_nil, or_false] at hp
      rcases hp with rfl | rfl | rfl
      · exact .inl ⟨_, rfl⟩
      · exact absurd hname (by decide)
      · exact absurd hname (by decide)
    exact (hleft (·.name != "failing") hfailing 0 0).trans hrun
  · rcases hput [failing] [first, second] rfl q 0 0 _ hrun with hsame | ⟨u, r', -, hr'⟩ | ⟨u, -, htime⟩
    · rw [hsame]
      nofun
    · rw [hr']
      nofun
    · rw [htime]
      nofun

end Pipeline

end Latchkey
