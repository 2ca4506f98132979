/-!
# Actions

An action reads and changes a state and then answers, or fails. What it changed before it failed
stays changed. Of the two ways to fail, an error can be caught; leaving the range of instants
cannot, and ends whatever is being done.
-/

namespace Latchkey

/-- Why an action did not answer. -/
inductive Failure (ε : Type) where
  | error (e : ε)
  /-- An instant left the representable range; no caller recovers from it. -/
  | outOfTime
deriving DecidableEq

/-- An action on a state `σ` that answers with an `α` or fails with an `ε`. -/
def Act (σ ε α : Type) : Type := σ → Except (Failure ε) α × σ

namespace Act

variable {σ τ ε ε' α β : Type}

def run (x : Act σ ε α) (s : σ) : Except (Failure ε) α × σ := x s

protected def pure (a : α) : Act σ ε α := fun s => (.ok a, s)

protected def bind (x : Act σ ε α) (f : α → Act σ ε β) : Act σ ε β := fun s =>
  match x s with
  | (.ok a, s') => f a s'
  | (.error e, s') => (.error e, s')

instance : Monad (Act σ ε) where
  pure := Act.pure
  bind := Act.bind

@[simp] theorem pure_apply (a : α) (s : σ) : (pure a : Act σ ε α) s = (.ok a, s) := rfl

theorem bind_apply (x : Act σ ε α) (f : α → Act σ ε β) (s : σ) :
    (x >>= f) s = match x s with
      | (.ok a, s') => f a s'
      | (.error e, s') => (.error e, s') := rfl

@[simp] theorem bind_ok {x : Act σ ε α} {f : α → Act σ ε β} {s s' : σ} {a : α}
    (h : x s = (.ok a, s')) : (x >>= f) s = f a s' := by
  rw [bind_apply, h]

@[simp] theorem bind_error {x : Act σ ε α} {f : α → Act σ ε β} {s s' : σ} {e : Failure ε}
    (h : x s = (.error e, s')) : (x >>= f) s = (.error e, s') := by
  rw [bind_apply, h]

instance : LawfulMonad (Act σ ε) := LawfulMonad.mk' (Act σ ε)
  (fun x => by
    funext s; change Act.bind x _ s = x s; unfold Act.bind
    rcases x s with ⟨_ | _, _⟩ <;> rfl)
  (fun _ _ => rfl)
  (fun x f g => by
    funext s; change Act.bind (Act.bind x f) g s = Act.bind x (fun a => Act.bind (f a) g) s
    unfold Act.bind
    rcases x s with ⟨_ | _, _⟩ <;> rfl)

/-- Fails with an error. -/
def fail (e : ε) : Act σ ε α := fun s => (.error (.error e), s)

/-- Fails because an instant is out of range. -/
def outOfTime : Act σ ε α := fun s => (.error .outOfTime, s)

def ofExcept (r : Except ε α) : Act σ ε α := fun s => (r.mapError .error, s)

/-- Answers with a part of the state. -/
def read (f : σ → α) : Act σ ε α := fun s => (.ok (f s), s)

def update (f : σ → σ) : Act σ ε Unit := fun s => (.ok (), f s)

/-- Answers with an error instead of failing with it. -/
def attempt (x : Act σ ε α) : Act σ ε' (Except ε α) := fun s =>
  match x s with
  | (.ok a, s') => (.ok (.ok a), s')
  | (.error (.error e), s') => (.ok (.error e), s')
  | (.error .outOfTime, s') => (.error .outOfTime, s')

/-- Does the action and takes no notice of its answer or failure. -/
def ignore (x : Act σ ε α) : Act σ ε' Unit := fun s => (.ok (), (x s).2)

/-- Fails with `f e` where `x` fails with `e`. -/
def mapError (f : ε → ε') (x : Act σ ε α) : Act σ ε' α := fun s =>
  match x s with
  | (.ok a, s') => (.ok a, s')
  | (.error (.error e), s') => (.error (.error (f e)), s')
  | (.error .outOfTime, s') => (.error .outOfTime, s')

@[simp] theorem fail_apply (e : ε) (s : σ) : (fail e : Act σ ε α) s = (.error (.error e), s) := rfl

@[simp] theorem read_apply (f : σ → α) (s : σ) : (read f : Act σ ε α) s = (.ok (f s), s) := rfl

@[simp] theorem update_apply (f : σ → σ) (s : σ) :
    (update f : Act σ ε Unit) s = (.ok (), f s) := rfl

end Act

/-- A part of a state that can be read and replaced. -/
structure Lens (σ τ : Type) where
  get : σ → τ
  set : τ → σ → σ

/-- An action on a part of the state. -/
def Act.onPart {σ τ ε α : Type} (part : Lens σ τ) (x : Act τ ε α) : Act σ ε α := fun s =>
  let (r, t) := x (part.get s)
  (r, part.set t s)

end Latchkey
