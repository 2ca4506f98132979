import Mathlib.Order.Defs.Unbundled
import Latchkey.Act
/-!
# What an action may change

`x.Within view R` says that every run of `x`, whether it answers or fails, leads from what `view`
shows of the state to something that `R` relates to it. For a preorder `R` this passes through every
way of putting actions together, so that what a service may do to a part of its state follows from
what its single accesses may do. `x.Keeps view` is the case of equality: the action leaves what
`view` shows as it is. `x.Answers s` says that from `s` the action does not leave the range of instants.
-/

namespace Latchkey

/-- What was written is read back, and to write what is there changes nothing. -/
structure Lens.Lawful {σ τ : Type} (part : Lens σ τ) : Prop where
  get_set : ∀ t s, part.get (part.set t s) = t
  set_get : ∀ s, part.set (part.get s) s = s

namespace Act

variable {σ τ υ ε ε' α β : Type}

def Within (view : σ → τ) (R : τ → τ → Prop) (x : Act σ ε α) : Prop :=
  ∀ s, R (view s) (view (x s).2)

abbrev Keeps (view : σ → τ) (x : Act σ ε α) : Prop := x.Within view Eq

variable {view : σ → τ} {R Q : τ → τ → Prop}

theorem Within.mono {x : Act σ ε α} (h : x.Within view R) (hle : ∀ t u, R t u → Q t u) :
    x.Within view Q := fun s => hle _ _ (h s)

/-- What keeps a view keeps all that can be read off it. -/
theorem Keeps.coarser {x : Act σ ε α} (h : x.Keeps view) (g : τ → υ) : x.Keeps fun s => g (view s) :=
  fun s => congrArg g (h s)

theorem Keeps.view_eq {x : Act σ ε α} (h : x.Keeps view) {r : Except (Failure ε) α} {s s' : σ}
    (hx : x s = (r, s')) : view s' = view s := by
  have hs := h s
  rw [hx] at hs
  exact hs.symm

/-- If the first action fails, what it did must do by itself. -/
theorem Within.bind_of {S : τ → τ → Prop} {x : Act σ ε α} {f : α → Act σ ε β}
    (hx : x.Within view R) (hf : ∀ a, (f a).Within view Q) (hfail : ∀ t u, R t u → S t u)
    (hok : ∀ t u v, R t u → Q u v → S t v) : (x >>= f).Within view S := by
  intro s
  rcases h : x s with ⟨e | a, s'⟩
  · have hs := hx s
    rw [h] at hs
    rw [bind_error h]
    exact hfail _ _ hs
  · have hs := hx s
    rw [h] at hs
    rw [bind_ok h]
    exact hok _ _ _ hs (hf a s')

/-- An action that changes nothing fails, or leads on to what comes after it. -/
theorem Keeps.bind_cases {x : Act σ ε α} {f : α → Act σ ε β} (hx : x.Keeps view) (s : σ) :
    (∃ e s', (x >>= f) s = (.error e, s') ∧ view s' = view s) ∨
      ∃ a s', x s = (.ok a, s') ∧ (x >>= f) s = f a s' ∧ view s' = view s := by
  have hs := hx s
  rcases h : x s with ⟨e | a, s'⟩
  · rw [h] at hs
    exact .inl ⟨e, s', bind_error h, hs.symm⟩
  · rw [h] at hs
    exact .inr ⟨a, s', rfl, bind_ok h, hs.symm⟩

theorem Within.then_pure {x : Act σ ε α} (hx : x.Within view R) (f : α → β) :
    (x >>= fun a => Pure.pure (f a)).Within view R := by
  refine hx.bind_of (fun a => (fun _ => rfl : Keeps view _)) (fun _ _ h => h) ?_
  rintro t u v h rfl
  exact h

section Preorder

variable [IsPreorder τ R]

theorem Keeps.within {x : Act σ ε α} (h : x.Keeps view) : x.Within view R := by
  intro s
  rw [← h s]
  exact refl_of R _

theorem Within.pure (a : α) : (Pure.pure a : Act σ ε α).Within view R := fun _ => refl_of R _

theorem Within.bind {x : Act σ ε α} {f : α → Act σ ε β} (hx : x.Within view R)
    (hf : ∀ a, (f a).Within view R) : (x >>= f).Within view R :=
  hx.bind_of hf (fun _ _ h => h) fun _ _ _ => trans_of R

theorem Within.fail (e : ε) : (Act.fail e : Act σ ε α).Within view R := fun _ => refl_of R _

theorem Within.read (f : σ → α) : (Act.read f : Act σ ε α).Within view R := fun _ => refl_of R _

theorem Within.ofExcept (r : Except ε α) : (Act.ofExcept r : Act σ ε α).Within view R :=
  fun _ => refl_of R _

end Preorder

theorem Within.update {f : σ → σ} (hf : ∀ s, R (view s) (view (f s))) :
    (Act.update f : Act σ ε Unit).Within view R := hf

theorem Within.attempt {x : Act σ ε α} (hx : x.Within view R) :
    (x.attempt : Act σ ε' (Except ε α)).Within view R := by
  intro s
  have hs := hx s
  unfold Act.attempt
  rcases h : x s with ⟨(e | _) | a, s'⟩ <;> rw [h] at hs <;> exact hs

theorem Within.mapError {x : Act σ ε α} (f : ε → ε') (hx : x.Within view R) :
    (x.mapError f).Within view R := by
  intro s
  have hs := hx s
  unfold Act.mapError
  rcases h : x s with ⟨(e | _) | a, s'⟩ <;> rw [h] at hs <;> exact hs

section Runs

variable {x : Act σ ε α} {f : ε → ε'} {s s' : σ}

theorem attempt_ok {a : α} (h : x s = (.ok a, s')) :
    (x.attempt : Act σ ε' (Except ε α)) s = (.ok (.ok a), s') := by
  unfold Act.attempt
  rw [h]

theorem attempt_error {e : ε} (h : x s = (.error (.error e), s')) :
    (x.attempt : Act σ ε' (Except ε α)) s = (.ok (.error e), s') := by
  unfold Act.attempt
  rw [h]

theorem attempt_outOfTime (h : x s = (.error .outOfTime, s')) :
    (x.attempt : Act σ ε' (Except ε α)) s = (.error .outOfTime, s') := by
  unfold Act.attempt
  rw [h]

theorem mapError_ok {a : α} (h : x s = (.ok a, s')) : x.mapError f s = (.ok a, s') := by
  unfold Act.mapError
  rw [h]

theorem mapError_error {e : ε} (h : x s = (.error (.error e), s')) :
    x.mapError f s = (.error (.error (f e)), s') := by
  unfold Act.mapError
  rw [h]

theorem mapError_outOfTime (h : x s = (.error .outOfTime, s')) :
    x.mapError f s = (.error .outOfTime, s') := by
  unfold Act.mapError
  rw [h]

end Runs

theorem Within.ignore {x : Act σ ε α} (hx : x.Within view R) :
    (x.ignore : Act σ ε' Unit).Within view R := hx

/-- What an action on a part does to the part is what it does to it by itself. -/
theorem Within.onPart {part : Lens σ τ} (hpart : part.Lawful) {x : Act τ ε α}
    (hx : ∀ t, R t (x t).2) : (x.onPart part).Within part.get R := by
  intro s
  change R (part.get s) (part.get (part.set (x (part.get s)).2 s))
  rw [hpart.get_set]
  exact hx _

/-- An action on a part keeps what does not look at the part. -/
theorem Keeps.onPart {part : Lens σ υ} (hpart : ∀ u s, view (part.set u s) = view s)
    (x : Act υ ε α) : (x.onPart part).Keeps view := fun s => (hpart _ s).symm

theorem onPart_apply (part : Lens σ τ) (x : Act τ ε α) (s : σ) :
    x.onPart part s = ((x (part.get s)).1, part.set (x (part.get s)).2 s) := rfl

/-- An action that leaves the part as it is leaves the whole state as it is. -/
theorem onPart_eq_of_unchanged {part : Lens σ τ} (hpart : part.Lawful) {x : Act τ ε α} {s : σ}
    {r : Except (Failure ε) α} (hx : x (part.get s) = (r, part.get s)) :
    x.onPart part s = (r, s) := by
  rw [onPart_apply, hx]
  exact congrArg (Prod.mk r) (hpart.set_get s)

/-! ### Answers -/

/-- Whatever the action answers satisfies `Q`. -/
def Ensures (x : Act σ ε α) (Q : α → Prop) : Prop := ∀ s a s', x s = (.ok a, s') → Q a

theorem Ensures.pure {Q : α → Prop} {a : α} (h : Q a) : (Pure.pure a : Act σ ε α).Ensures Q := by
  intro s a' s' he
  cases he
  exact h

theorem Ensures.bind {Q : β → Prop} {x : Act σ ε α} {f : α → Act σ ε β}
    (hf : ∀ a, (f a).Ensures Q) : (x >>= f).Ensures Q := by
  intro s b s' he
  rcases h : x s with ⟨e | a, s₁⟩
  · rw [bind_error h] at he
    cases he
  · rw [bind_ok h] at he
    exact hf a s₁ b s' he

/-! ### Staying in the range of instants -/

/-- The action answers, or fails with an error that can be caught. -/
def Answers (x : Act σ ε α) (s : σ) : Prop := (x s).1 ≠ .error .outOfTime

section Answers

variable {x : Act σ ε α} {s : σ}

theorem Answers.of_ok {a : α} {s' : σ} (h : x s = (.ok a, s')) : x.Answers s := by
  unfold Answers
  rw [h]
  exact nofun

theorem Answers.of_error {e : ε} {s' : σ} (h : x s = (.error (.error e), s')) : x.Answers s := by
  unfold Answers
  rw [h]
  exact nofun

theorem Answers.bind {f : α → Act σ ε β} (hx : x.Answers s)
    (hf : ∀ a s', x s = (.ok a, s') → (f a).Answers s') : (x >>= f).Answers s := by
  unfold Answers at *
  rcases h : x s with ⟨e | a, s'⟩
  · rw [h] at hx
    rw [bind_error h]
    exact fun he => hx (congrArg Except.error (Except.error.inj he))
  · rw [bind_ok h]
    exact hf a s' h

theorem Answers.mapError (f : ε → ε') (hx : x.Answers s) : (x.mapError f).Answers s := by
  unfold Answers Act.mapError at *
  rcases h : x s with ⟨(e | _) | a, s'⟩
  · exact nofun
  · rw [h] at hx
    exact absurd rfl hx
  · exact nofun

theorem Answers.attempt (hx : x.Answers s) :
    ∃ r, (x.attempt : Act σ ε' (Except ε α)) s = (.ok r, (x s).2) := by
  unfold Answers at hx
  unfold Act.attempt
  rcases h : x s with ⟨(e | _) | a, s'⟩
  · exact ⟨_, rfl⟩
  · rw [h] at hx
    exact absurd rfl hx
  · exact ⟨_, rfl⟩

theorem Answers.onPart {part : Lens σ τ} {x : Act τ ε α} (hx : x.Answers (part.get s)) :
    (x.onPart part).Answers s := hx

end Answers

end Act

end Latchkey
