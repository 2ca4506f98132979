import Latchkey.Proofs.Plugin.Pipeline
import Latchkey.Proofs.Service.Verify
import Latchkey.Service.Issue
import Latchkey.Service.Lifecycle
import Latchkey.Service.Sweep
/-!
# A service with a journal

`Service.journaled` is a service that keeps a journal beside its state: a note of every call that it makes
to its store of keys, with how the call failed if it did, and a note of every event. What plugins do with
stores of their own is not noted. `Act.Journals` compares an action of that service with the same action
without a journal: both answer the same and do the same to the state, and the notes that the action adds
are as said. It passes through every way of putting actions together.
-/

namespace Latchkey

/-- A call to a store of keys. -/
inductive StoreCall where
  | ready
  | create (r : KeyRecord)
  | findByDigest (digest : String)
  | findById (id : KeyId)
  | update (r : KeyRecord)
  | spend (id : KeyId)
  | revoke (id : KeyId) (at' : Instant)
  | remove (id : KeyId)
  | findExpired (cutoff : Instant) (limit : Nat)

inductive Note where
  /-- The store was called, and failed if there is a failure. -/
  | call (c : StoreCall) (failure : Option (Failure Error))
  | event (e : Event)

variable {σ ε ε' α β : Type}

namespace Act

/-- The action beside a journal, which it does not touch. -/
def beside (x : Act σ ε α) : Act (σ × List Note) ε α := fun s => ((x s.1).1, (x s.1).2, s.2)

/-- The action with a note of how it went. -/
def noted (note : Except (Failure ε) α → Note) (x : Act σ ε α) : Act (σ × List Note) ε α := fun s =>
  ((x s.1).1, (x s.1).2, s.2 ++ [note (x s.1).1])

def failure? : Except (Failure ε) α → Option (Failure ε)
  | .ok _ => none
  | .error e => some e

/-- `x` does beside a journal what `y` does without one, and adds notes to it that `Q` allows for the
answer of `y` and the state it started in. -/
def Journals (x : Act (σ × List Note) ε α) (y : Act σ ε α)
    (Q : σ → Except (Failure ε) α → List Note → Prop) : Prop :=
  ∀ s notes, ∃ new, x (s, notes) = ((y s).1, (y s).2, notes ++ new) ∧ Q s (y s).1 new

/-- No notes are added. -/
abbrev Silent (x : Act (σ × List Note) ε α) (y : Act σ ε α) : Prop :=
  x.Journals y fun _ _ new => new = []

end Act

open Act

def StoreCall.noted (c : StoreCall) (x : Act σ Error α) : Act (σ × List Note) Error α :=
  x.noted fun result => .call c (failure? result)

def KeyStore.journaled (store : KeyStore σ) : KeyStore (σ × List Note) where
  ready := StoreCall.ready.noted store.ready
  create r := (StoreCall.create r).noted (store.create r)
  findByDigest digest := (StoreCall.findByDigest digest).noted (store.findByDigest digest)
  findById id := (StoreCall.findById id).noted (store.findById id)
  update r := (StoreCall.update r).noted (store.update r)
  spend id := (StoreCall.spend id).noted (store.spend id)
  revoke id at' := (StoreCall.revoke id at').noted (store.revoke id at')
  remove id := (StoreCall.remove id).noted (store.remove id)
  findExpired cutoff limit := (StoreCall.findExpired cutoff limit).noted (store.findExpired cutoff limit)

def Sink.journaled (sink : Sink σ) : Sink (σ × List Note) where
  ready := sink.ready.beside
  track e := (sink.track e).noted fun _ => .event e

def Plugin.beside (p : Plugin σ) : Plugin (σ × List Note) where
  name := p.name
  requiredFields := p.requiredFields
  setup := p.setup.beside
  answer hook := (p.answer hook).beside

/-- The service with a journal. Its plugins offer nothing to its callers, and it has no store of rate
limits of its own; neither has a part in the operations on keys. -/
def Service.journaled (svc : Service σ) : Service (σ × List Note) where
  store := svc.store.journaled
  sink := svc.sink.journaled
  plugins := svc.plugins.map Plugin.beside
  now s := svc.now s.1
  random n := (svc.random n).beside
  config := svc.config

namespace Act

/-! ### Putting actions together -/

section Rules

variable {x : Act (σ × List Note) ε α} {y : Act σ ε α}
  {P : σ → Except (Failure ε) α → List Note → Prop}

theorem Journals.mono {Q : σ → Except (Failure ε) α → List Note → Prop} (h : x.Journals y P)
    (hle : ∀ s result new, P s result new → Q s result new) : x.Journals y Q := by
  intro s notes
  obtain ⟨new, hrun, hnew⟩ := h s notes
  exact ⟨new, hrun, hle _ _ _ hnew⟩

/-- The notes of the second action come after those of the first, if there is a second. -/
theorem Journals.bind {f : α → Act (σ × List Note) ε β} {g : α → Act σ ε β}
    {R : α → σ → Except (Failure ε) β → List Note → Prop}
    {Q : σ → Except (Failure ε) β → List Note → Prop} (hx : x.Journals y P)
    (hf : ∀ a, (f a).Journals (g a) (R a))
    (hfail : ∀ s e s' new, y s = (.error e, s') → P s (.error e) new → Q s (.error e) new)
    (hok : ∀ s a s' new result new', y s = (.ok a, s') → P s (.ok a) new → R a s' result new' →
      Q s result (new ++ new')) : (x >>= f).Journals (y >>= g) Q := by
  intro s notes
  obtain ⟨new, hrun, hnew⟩ := hx s notes
  rcases hy : y s with ⟨e | a, s'⟩
  · rw [hy] at hrun hnew
    rw [bind_error hrun, bind_error hy]
    exact ⟨new, rfl, hfail s e s' new hy hnew⟩
  · rw [hy] at hrun hnew
    obtain ⟨new', hrun', hnew'⟩ := hf a s' (notes ++ new)
    rw [bind_ok hrun, bind_ok hy, hrun', List.append_assoc]
    exact ⟨new ++ new', rfl, hok s a s' new _ new' hy hnew hnew'⟩

theorem Silent.beside (y : Act σ ε α) : Silent y.beside y := by
  intro s notes
  exact ⟨[], by rw [List.append_nil]; rfl, rfl⟩

theorem Silent.pure (a : α) : Silent (Pure.pure a : Act (σ × List Note) ε α) (Pure.pure a) :=
  Silent.beside (Pure.pure a)

theorem journals_pure (a : α) :
    (Pure.pure a : Act (σ × List Note) ε α).Journals (Pure.pure a) fun _ result new =>
      result = .ok a ∧ new = [] :=
  fun _ notes => ⟨[], by rw [List.append_nil]; rfl, rfl, rfl⟩

theorem journals_fail (e : ε) :
    (Act.fail e : Act (σ × List Note) ε α).Journals (Act.fail e) fun _ result new =>
      result = .error (.error e) ∧ new = [] :=
  fun _ notes => ⟨[], by rw [List.append_nil]; rfl, rfl, rfl⟩

theorem Silent.fail (e : ε) : Silent (Act.fail e : Act (σ × List Note) ε α) (Act.fail e) :=
  Silent.beside (Act.fail e)

theorem Silent.ofExcept (r : Except ε α) :
    Silent (Act.ofExcept r : Act (σ × List Note) ε α) (Act.ofExcept r) :=
  Silent.beside (Act.ofExcept r)

theorem Silent.attempt (h : Silent x y) :
    Silent (x.attempt : Act (σ × List Note) ε' (Except ε α)) y.attempt := by
  intro s notes
  obtain ⟨new, hrun, rfl⟩ := h s notes
  refine ⟨[], ?_, rfl⟩
  unfold Act.attempt
  rw [hrun]
  rcases y s with ⟨(e | _) | a, s'⟩ <;> rfl

/-- What comes after a silent action adds all the notes. -/
theorem Silent.bind_journals {f : α → Act (σ × List Note) ε β} {g : α → Act σ ε β}
    {Q : σ → Except (Failure ε) β → List Note → Prop} (hx : Silent x y)
    (hf : ∀ a, (f a).Journals (g a) fun _ result new => ∀ s, Q s result new)
    (hfail : ∀ s e, Q s (.error e) []) : (x >>= f).Journals (y >>= g) Q := by
  refine Journals.bind hx hf (fun s e _ new _ hnew => hnew ▸ hfail s e) ?_
  rintro s a s' _ result new' _ rfl hnew'
  exact hnew' s

theorem Silent.bind {f : α → Act (σ × List Note) ε β} {g : α → Act σ ε β} (hx : Silent x y)
    (hf : ∀ a, Silent (f a) (g a)) : Silent (x >>= f) (y >>= g) :=
  hx.bind_journals (fun a => (hf a).mono fun _ _ _ h _ => h) fun _ _ => rfl

end Rules

/-! ### Calls to the store -/

section Calls

variable (c : StoreCall) (y : Act σ Error α)

/-- A call whose error is passed on as another one. -/
theorem noted_mapError (f : Error → Error) :
    ((c.noted y).mapError f).Journals (y.mapError f) fun s result new =>
      (∃ a s', y s = (.ok a, s') ∧ result = .ok a ∧ new = [.call c none]) ∨
      (∃ e, result = .error (.error (f e)) ∧ new = [.call c (some (.error e))]) ∨
      (result = .error .outOfTime ∧ new = [.call c (some .outOfTime)]) := by
  intro s notes
  unfold Act.mapError StoreCall.noted Act.noted
  rcases hy : y s with ⟨(e | _) | a, s'⟩
  · exact ⟨_, rfl, .inr (.inl ⟨e, rfl, rfl⟩)⟩
  · exact ⟨_, rfl, .inr (.inr ⟨rfl, rfl⟩)⟩
  · exact ⟨_, rfl, .inl ⟨a, s', hy, rfl, rfl⟩⟩

/-- A call whose error is looked at by what comes after it. -/
theorem noted_attempt_bind {f : Except Error α → Act (σ × List Note) Error β}
    {g : Except Error α → Act σ Error β} {Q : Except (Failure Error) β → List Note → Prop}
    (hok : ∀ a, (f (.ok a)).Journals (g (.ok a)) fun _ result new => Q result (.call c none :: new))
    (herror : ∀ cause, (f (.error cause)).Journals (g (.error cause)) fun _ result new =>
      Q result (.call c (some (.error cause)) :: new))
    (hout : Q (.error .outOfTime) [.call c (some .outOfTime)]) :
    ((c.noted y).attempt >>= f).Journals (y.attempt >>= g) fun _ => Q := by
  intro s notes
  have hx : c.noted y (s, notes) = ((y s).1, (y s).2, notes ++ [.call c (failure? (y s).1)]) := rfl
  rcases hy : y s with ⟨(cause | _) | a, s'⟩ <;> rw [hy] at hx
  · obtain ⟨new, hrun, hnew⟩ := herror cause s' (notes ++ [.call c (some (.error cause))])
    rw [bind_ok (attempt_error hx), bind_ok (attempt_error hy)]
    exact ⟨_, hrun.trans (by rw [List.append_assoc]; rfl), hnew⟩
  · rw [bind_error (attempt_outOfTime hx), bind_error (attempt_outOfTime hy)]
    exact ⟨_, rfl, hout⟩
  · obtain ⟨new, hrun, hnew⟩ := hok a s' (notes ++ [.call c none])
    rw [bind_ok (attempt_ok hx), bind_ok (attempt_ok hy)]
    exact ⟨_, hrun.trans (by rw [List.append_assoc]; rfl), hnew⟩

end Calls

end Act

/-! ### What goes on without notes -/

/-- Plugins do beside a journal what they do without one. -/
theorem Pipeline.run_beside (ps : Pipeline σ) (hook : Hook) :
    Silent (Pipeline.run hook (ps.map Plugin.beside)) (ps.run hook) := by
  induction ps with
  | nil => exact Silent.pure none
  | cons p ps ih =>
      rw [List.map_cons, run_cons, run_cons]
      refine Silent.bind (Silent.beside (p.answer hook)).attempt fun result => ?_
      have hsame : rejection? p.beside result = rejection? p result := rfl
      rw [hsame]
      cases rejection? p result with
      | some rejection => exact Silent.pure _
      | none => exact ih

theorem Pipeline.requiredFields_beside (ps : Pipeline σ) :
    Pipeline.requiredFields (ps.map Plugin.beside) = ps.requiredFields := by
  unfold requiredFields
  rw [List.foldl_map]
  rfl

namespace Service

variable (svc : Service σ)

theorem journaled_run (hook : Hook) :
    Silent (svc.journaled.plugins.run hook) (svc.plugins.run hook) :=
  svc.plugins.run_beside hook

theorem journaled_clock : Silent svc.journaled.clock svc.clock :=
  Silent.beside svc.clock

theorem journaled_checkFields (request : VerifyRequest) :
    Silent (svc.journaled.checkFields request) (svc.checkFields request) := by
  have hfields : svc.journaled.plugins.requiredFields = svc.plugins.requiredFields :=
    svc.plugins.requiredFields_beside
  unfold checkFields
  rw [hfields]
  split
  · exact Silent.fail _
  · exact Silent.pure _

theorem checkLabel_silent (request : CreateRequest) :
    Silent (checkLabel request : Act (σ × List Note) Error Unit) (checkLabel request) := by
  unfold checkLabel
  split
  · exact Silent.fail _
  · exact Silent.pure _

theorem journaled_demand (hook : Hook) : Silent (svc.journaled.demand hook) (svc.demand hook) := by
  refine Silent.bind (svc.journaled_run hook) fun rejection => ?_
  cases rejection with
  | some r => exact Silent.fail _
  | none => exact Silent.pure _

theorem journaled_generateWith (g : Generator) (label : String) :
    Silent (g.generateWith label svc.journaled.random) (g.generateWith label svc.random) := by
  unfold Generator.generateWith
  induction g.recipe label with
  | done result => exact Silent.ofExcept result
  | draw count next ih => exact Silent.bind (Silent.beside (svc.random count)).attempt ih

theorem journaled_freshId : Silent svc.journaled.freshId svc.freshId :=
  Silent.bind (Silent.beside (svc.random 16)) fun _ => Silent.pure _

/-- To report an event is noted, whatever comes of it. -/
theorem journaled_track (e : Event) :
    (svc.journaled.track e).Journals (svc.track e) fun _ result new =>
      result = .ok () ∧ new = [.event e] :=
  fun _ _ => ⟨[.event e], rfl, rfl, rfl⟩

end Service

end Latchkey
