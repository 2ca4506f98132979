import Latchkey.Proofs.Plugin.Pipeline
/-!
# The turns of plugins

A pipeline asks its plugins one after another, each in the state that the one before it has left.
`Pipeline.turns` lists the plugins with these states, as they are if nobody rejects. What a run answers
is the first rejection of the list, so that whatever is known of single plugins in their turns is known
of the run.
-/

namespace Latchkey

open Act

variable {σ τ : Type} {hook : Hook} {s : σ}

/-- The rejection that the plugin answers in a state, if it does answer with one. -/
def Plugin.rejectionAt? (p : Plugin σ) (hook : Hook) (s : σ) : Option Rejection :=
  match (p.answer hook s).1 with
  | .ok decision => Pipeline.rejection? p (.ok decision)
  | .error _ => none

theorem Plugin.rejectionAt?_of_ok {p : Plugin σ} {decision : Option Decision} {s' : σ}
    (h : p.answer hook s = (.ok decision, s')) :
    p.rejectionAt? hook s = Pipeline.rejection? p (.ok decision) := by
  unfold Plugin.rejectionAt?
  rw [h]

theorem Plugin.plugin_of_rejectionAt? {p : Plugin σ} {r : Rejection}
    (h : p.rejectionAt? hook s = some r) : r.plugin = p.name := by
  unfold Plugin.rejectionAt? Pipeline.rejection? at h
  split at h
  · split at h
    · split at h
      · cases h
        rfl
      · cases h
    · cases h
  · cases h

namespace Pipeline

/-- The plugins, each with the state in which it is asked if none before it rejects. -/
def turns (hook : Hook) : Pipeline σ → σ → List (Plugin σ × σ)
  | [], _ => []
  | p :: ps, s => (p, s) :: turns hook ps (p.answer hook s).2

/-- The state after all turns. -/
def endState (hook : Hook) : Pipeline σ → σ → σ
  | [], s => s
  | p :: ps, s => endState hook ps (p.answer hook s).2

/-- The rejection of the first turn that ends in one. -/
def firstRejection? (hook : Hook) (ps : Pipeline σ) (s : σ) : Option Rejection :=
  (ps.turns hook s).findSome? fun turn => turn.1.rejectionAt? hook turn.2

theorem turns_append (ps qs : Pipeline σ) (s : σ) :
    turns hook (ps ++ qs) s = turns hook ps s ++ turns hook qs (endState hook ps s) := by
  induction ps generalizing s with
  | nil => rfl
  | cons p ps ih => exact congrArg ((p, s) :: ·) (ih (p.answer hook s).2)

theorem fst_mem_of_mem_turns {ps : Pipeline σ} {turn : Plugin σ × σ}
    (h : turn ∈ ps.turns hook s) : turn.1 ∈ ps := by
  induction ps generalizing s with
  | nil => cases h
  | cons p ps ih =>
      rcases List.mem_cons.1 h with rfl | h
      · exact List.mem_cons_self
      · exact List.mem_cons_of_mem p (ih h)

theorem endState_keeps {view : σ → τ} {ps : Pipeline σ}
    (h : ∀ p ∈ ps, (p.answer hook).Keeps view) (s : σ) : view (endState hook ps s) = view s := by
  induction ps generalizing s with
  | nil => rfl
  | cons p ps ih =>
      have hrest := ih (fun q hq => h q (List.mem_cons_of_mem p hq)) (p.answer hook s).2
      exact hrest.trans (h p List.mem_cons_self s).symm

theorem run_of_rejectionAt?_eq_some {p : Plugin σ} (ps : Pipeline σ) {r : Rejection}
    (h : p.rejectionAt? hook s = some r) :
    run hook (p :: ps) s = (.ok (some r), (p.answer hook s).2) := by
  unfold Plugin.rejectionAt? at h
  rw [run_cons, bind_apply]
  unfold Act.attempt
  rcases he : p.answer hook s with ⟨e | decision, s'⟩ <;> rw [he] at h
  · cases h
  · dsimp only at h ⊢
    rw [h]
    rfl

/-- A plugin that does not reject hands its turn on, unless it leaves the range of instants. -/
theorem run_of_rejectionAt?_eq_none {p : Plugin σ} (ps : Pipeline σ)
    (h : p.rejectionAt? hook s = none) :
    (¬(p.answer hook).Answers s ∧ run hook (p :: ps) s = (.error .outOfTime, (p.answer hook s).2)) ∨
      run hook (p :: ps) s = run hook ps (p.answer hook s).2 := by
  unfold Plugin.rejectionAt? at h
  rw [run_cons, bind_apply]
  unfold Answers Act.attempt
  rcases he : p.answer hook s with ⟨(e | _) | decision, s'⟩ <;> rw [he] at h
  · exact .inr rfl
  · exact .inl ⟨fun hanswers => hanswers rfl, rfl⟩
  · right
    dsimp only at h ⊢
    rw [h]

/-- The first plugin that rejects in its turn decides what a run answers. -/
theorem firstRejection?_of_run {ps : Pipeline σ} {rejection : Option Rejection} {s' : σ}
    (h : run hook ps s = (.ok rejection, s')) : firstRejection? hook ps s = rejection := by
  induction ps generalizing s with
  | nil =>
      cases h
      rfl
  | cons p ps ih =>
      unfold firstRejection? turns
      rw [List.findSome?_cons]
      cases hreject : p.rejectionAt? hook s with
      | some r =>
          rw [run_of_rejectionAt?_eq_some ps hreject] at h
          cases h
          rfl
      | none =>
          rcases run_of_rejectionAt?_eq_none ps hreject with ⟨-, he⟩ | he <;> rw [he] at h
          · cases h
          · exact ih h

theorem exists_turn_of_run {ps : Pipeline σ} {r : Rejection} {s' : σ}
    (h : run hook ps s = (.ok (some r), s')) :
    ∃ turn ∈ ps.turns hook s, turn.1.rejectionAt? hook turn.2 = some r :=
  List.exists_of_findSome?_eq_some (firstRejection?_of_run h)

/-- Where `ready` holds the plugins answer, and it holds afterwards as well. -/
structure AnswersWhile (ps : Pipeline σ) (ready : σ → Prop) : Prop where
  answers : ∀ p ∈ ps, ∀ hook s, ready s → (p.answer hook).Answers s
  stays : ∀ p ∈ ps, ∀ hook s, ready s → ready (p.answer hook s).2

theorem AnswersWhile.run {ps : Pipeline σ} {ready : σ → Prop} (h : ps.AnswersWhile ready)
    {answer : Except (Failure Error) (Option Rejection)} {s' : σ} (hrun : ps.run hook s = (answer, s'))
    (hs : ready s) : (∃ rejection, answer = .ok rejection) ∧ ready s' := by
  induction ps generalizing s with
  | nil =>
      cases hrun
      exact ⟨⟨none, rfl⟩, hs⟩
  | cons p ps ih =>
      have hstays := h.stays p List.mem_cons_self hook s hs
      have hrest : AnswersWhile ps ready :=
        ⟨fun q hq => h.answers q (List.mem_cons_of_mem p hq),
          fun q hq => h.stays q (List.mem_cons_of_mem p hq)⟩
      cases hreject : p.rejectionAt? hook s with
      | some r =>
          rw [run_of_rejectionAt?_eq_some ps hreject] at hrun
          cases hrun
          exact ⟨⟨some r, rfl⟩, hstays⟩
      | none =>
          rcases run_of_rejectionAt?_eq_none ps hreject with ⟨hno, -⟩ | he
          · exact absurd (h.answers p List.mem_cons_self hook s hs) hno
          · exact ih hrest (he ▸ hrun) hstays

end Pipeline

end Latchkey
