import Latchkey.Plugin.Pipeline
import Latchkey.Proofs.Action
/-!
# Runs through a pipeline

What all plugins of a pipeline do to the state, the pipeline does. One plugin among others that keep a
view of the state is alone responsible for what happens to that view, if it is reached; and if the
pipeline lets pass, it was reached and did not reject. Which of the required fields is missing first
can be read off the fields of all plugins one after another.
-/

namespace Latchkey.Pipeline

open Act

variable {σ τ : Type} {view : σ → τ} {R : τ → τ → Prop} {hook : Hook} {p : Plugin σ}
  {ps before after : Pipeline σ}

theorem run_cons (hook : Hook) (p : Plugin σ) (ps : Pipeline σ) :
    run hook (p :: ps) = (p.answer hook).attempt >>= fun result =>
      match rejection? p result with
      | some rejection => pure (some rejection)
      | none => run hook ps :=
  rfl

theorem run_within [IsPreorder τ R] (h : ∀ p ∈ ps, (p.answer hook).Within view R) :
    (ps.run hook).Within view R := by
  induction ps with
  | nil => exact Within.pure none
  | cons p ps ih =>
      refine Within.bind (h p List.mem_cons_self).attempt fun result => ?_
      cases rejection? p result with
      | some rejection => exact Within.pure _
      | none => exact ih fun q hq => h q (List.mem_cons_of_mem p hq)

/-- The plugin fails or has nothing against it. -/
def Passes (p : Plugin σ) (hook : Hook) (s : σ) : Prop :=
  ∃ result, ((p.answer hook).attempt : Act σ Error _) s = (.ok result, (p.answer hook s).2) ∧
    rejection? p result = none

theorem Passes.run_eq {s : σ} (h : Passes p hook s) :
    run hook (p :: ps) s = run hook ps (p.answer hook s).2 := by
  obtain ⟨result, hresult, hpass⟩ := h
  rw [run_cons, bind_ok hresult, hpass]

theorem Passes.of_pure {s : σ} (h : p.answer hook = pure none) : Passes p hook s := by
  refine ⟨.ok none, ?_, rfl⟩
  rw [h]
  rfl

theorem Passes.of_error {s s' : σ} {e : PluginError}
    (h : p.answer hook s = (.error (.error e), s')) : Passes p hook s := by
  refine ⟨.error e, ?_, rfl⟩
  unfold Act.attempt
  rw [h]

theorem Passes.answer_eq {s : σ} (h : Passes p hook s) :
    ∃ result : Except PluginError (Option Decision),
      (p.answer hook s).1 = result.mapError .error ∧ rejection? p result = none := by
  obtain ⟨result, hresult, hpass⟩ := h
  refine ⟨result, ?_, hpass⟩
  unfold Act.attempt at hresult
  rcases he : p.answer hook s with ⟨(e | _) | a, s'⟩ <;> rw [he] at hresult <;> cases hresult <;> rfl

theorem not_passes_cases (ps : Pipeline σ) {s : σ} (h : ¬Passes p hook s) :
    (run hook (p :: ps) s).1 ≠ .ok none ∧ (run hook (p :: ps) s).2 = (p.answer hook s).2 := by
  unfold Passes Act.attempt at h
  rw [run_cons, bind_apply]
  unfold Act.attempt
  rcases he : p.answer hook s with ⟨(e | _) | a, s'⟩
  · rw [he] at h
    exact absurd ⟨_, rfl, rfl⟩ h
  · exact ⟨nofun, rfl⟩
  · rw [he] at h
    dsimp only at h ⊢
    cases hr : rejection? p (.ok a) with
    | none => exact absurd ⟨_, rfl, hr⟩ h
    | some rejection => exact ⟨nofun, rfl⟩

/-- One plugin among others that keep the view. -/
theorem run_around (h : ∀ q ∈ before ++ after, (q.answer hook).Keeps view) (s : σ) :
    ((run hook (before ++ p :: after) s).1 ≠ .ok none ∧
        view (run hook (before ++ p :: after) s).2 = view s) ∨
      ∃ s₁, view s₁ = view s ∧
        view (run hook (before ++ p :: after) s).2 = view (p.answer hook s₁).2 ∧
        ((run hook (before ++ p :: after) s).1 = .ok none → Passes p hook s₁) := by
  -- By induction on the plugins in front: each rejects, or hands on a state that looks the same.
  induction before generalizing s with
  | nil =>
      right
      refine ⟨s, rfl, ?_⟩
      rw [List.nil_append]
      by_cases hp : Passes p hook s
      · rw [hp.run_eq]
        exact ⟨(run_within (fun q hq => h q hq) _).symm, fun _ => hp⟩
      · obtain ⟨hnone, hstate⟩ := not_passes_cases after hp
        rw [hstate]
        exact ⟨rfl, fun hok => absurd hok hnone⟩
  | cons q before ih =>
      have hq := h q List.mem_cons_self s
      rw [List.cons_append]
      by_cases hpass : Passes q hook s
      · rw [hpass.run_eq, hq]
        exact ih (fun q' hq' => h q' (List.mem_cons_of_mem q hq')) _
      · obtain ⟨hnone, hstate⟩ := not_passes_cases (before ++ p :: after) hpass
        rw [hstate]
        exact .inl ⟨hnone, hq.symm⟩

/-- Of plugins with distinct names the one of a given name answers at most once. -/
theorem run_of_name (hdistinct : ps.names.Nodup) {name : String}
    (hkeeps : ∀ q ∈ ps, q.name ≠ name → (q.answer hook).Keeps view) (s : σ) :
    view (run hook ps s).2 = view s ∨
      ∃ p ∈ ps, p.name = name ∧
        ∃ s₁, view s₁ = view s ∧ view (run hook ps s).2 = view (p.answer hook s₁).2 := by
  by_cases hexists : ∃ p ∈ ps, p.name = name
  · obtain ⟨p, hp, hname⟩ := hexists
    obtain ⟨before, after, rfl⟩ := List.append_of_mem hp
    have hfirst : (before ++ p :: after).Perm (p :: (before ++ after)) := List.perm_middle
    have hname' : p.name ∉ (before ++ after).map Plugin.name :=
      (List.nodup_cons.1 ((hfirst.map Plugin.name).nodup_iff.1 hdistinct)).1
    have hothers : ∀ q ∈ before ++ after, (q.answer hook).Keeps view := by
      intro q hq
      refine hkeeps q (hfirst.mem_iff.2 (List.mem_cons_of_mem p hq)) fun hqname => hname' ?_
      rw [hname, ← hqname]
      exact List.mem_map_of_mem hq
    rcases run_around (p := p) hothers s with ⟨-, hsame⟩ | ⟨s₁, hs₁, hrun, -⟩
    · exact .inl hsame
    · exact .inr ⟨p, hp, hname, s₁, hs₁, hrun⟩
  · left
    refine (run_within (fun q hq => hkeeps q hq fun hqname => ?_) s).symm
    exact hexists ⟨q, hq, hqname⟩

/-- A plugin that passes wherever it is reached, and changes nothing, might as well not be there. -/
theorem run_without (h : ∀ s, Passes p hook s ∧ (p.answer hook s).2 = s) :
    run hook (before ++ p :: after) = run hook (before ++ after) := by
  induction before with
  | nil =>
      funext s
      rw [List.nil_append, List.nil_append, (h s).1.run_eq, (h s).2]
  | cons q before ih =>
      rw [List.cons_append, List.cons_append, run_cons, run_cons, ih]

/-! ### Required fields -/

/-- The fields of all plugins one after another, each with the plugin that asks for it. -/
def demands (ps : Pipeline σ) : List (String × VerifyField) :=
  ps.flatMap fun p => p.requiredFields.map fun field => (p.name, field)

theorem find?_addField (missing : VerifyField → Bool) (acc : List (String × VerifyField))
    (name : String) (field : VerifyField) :
    (addField acc name field).find? (fun d => missing d.2) =
      (acc ++ [(name, field)]).find? fun d => missing d.2 := by
  unfold addField
  split
  · rename_i hany
    obtain ⟨d, hd, hfield⟩ := List.any_eq_true.1 hany
    rw [List.find?_append]
    cases hfind : acc.find? fun d => missing d.2 with
    | some d => rfl
    | none =>
        have hmissing := List.find?_eq_none.1 hfind d hd
        rw [of_decide_eq_true hfield] at hmissing
        simp [hmissing]
  · rfl

theorem find?_requiredFields (missing : VerifyField → Bool) (ps : Pipeline σ) :
    ps.requiredFields.find? (fun d => missing d.2) = ps.demands.find? fun d => missing d.2 := by
  have hfields : ∀ (name : String) (fields : List VerifyField) (acc : List (String × VerifyField)),
      (fields.foldl (addField · name) acc).find? (fun d => missing d.2) =
        (acc ++ fields.map fun field => (name, field)).find? fun d => missing d.2 := by
    intro name fields
    induction fields with
    | nil => intro acc; simp
    | cons field fields ih =>
        intro acc
        rw [List.foldl_cons, ih, List.find?_append, find?_addField, ← List.find?_append]
        simp
  have hplugins : ∀ acc : List (String × VerifyField),
      (ps.foldl (fun acc p => p.requiredFields.foldl (addField · p.name) acc) acc).find?
          (fun d => missing d.2) =
        (acc ++ ps.demands).find? fun d => missing d.2 := by
    induction ps with
    | nil => intro acc; simp [demands]
    | cons p ps ih =>
        intro acc
        rw [List.foldl_cons, ih, List.find?_append, hfields, ← List.find?_append]
        simp [demands]
  exact hplugins []

end Latchkey.Pipeline
