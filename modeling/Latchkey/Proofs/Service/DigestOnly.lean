import Latchkey.Proofs.Service.Creation
import Latchkey.Proofs.Service.Issued
import Latchkey.Proofs.Service.Journal
/-!
# A key shows in nothing but its digest

Two runs that differ only in a key, and not in its digest, cannot be told apart by anything but the key
that is given out: not by the state, and so neither by a store nor by a sink for events, and not by an
answer or an error. This holds of issuing whatever the plugins are, as they are never shown a key that is
issued, and of verifying with plugins that make nothing of the key that is presented to them.
-/

namespace Latchkey

open Act

variable {σ ε α β γ δ : Type}

namespace Act

/-- The actions do the same to the state, and answer the same as far as `view` shows or fail alike. -/
def SameUpTo (view : α → γ) (x y : Act σ ε α) : Prop :=
  ∀ s, (x s).2 = (y s).2 ∧ (x s).1.map view = (y s).1.map view

theorem SameUpTo.of_eq (view : α → γ) {x y : Act σ ε α} (h : x = y) : x.SameUpTo view y := by
  intro s
  rw [h]
  exact ⟨rfl, rfl⟩

theorem SameUpTo.refl (view : α → γ) (x : Act σ ε α) : x.SameUpTo view x := SameUpTo.of_eq view rfl

theorem SameUpTo.pure {view : α → γ} {a b : α} (h : view a = view b) :
    (Pure.pure a : Act σ ε α).SameUpTo view (Pure.pure b) := by
  intro s
  exact ⟨rfl, congrArg Except.ok h⟩

/-- Two actions go on to do the same if what comes after them does so for any two answers that look the
same. -/
theorem SameUpTo.bind {view : α → γ} {view' : β → δ} {x y : Act σ ε α} {f g : α → Act σ ε β}
    (hx : x.SameUpTo view y) (hf : ∀ a b, view a = view b → (f a).SameUpTo view' (g b)) :
    (x >>= f).SameUpTo view' (y >>= g) := by
  intro s
  obtain ⟨hstate, hanswer⟩ := hx s
  rcases hxs : x s with ⟨e | a, s₁⟩ <;> rcases hys : y s with ⟨e' | b, s₂⟩ <;>
    rw [hxs, hys] at hstate hanswer <;> cases hstate
  · rw [bind_error hxs, bind_error hys, Except.error.inj hanswer]
    exact ⟨rfl, rfl⟩
  · cases hanswer
  · cases hanswer
  · rw [bind_ok hxs, bind_ok hys]
    exact hf a b (Except.ok.inj hanswer) s₁

/-- The same action comes first. -/
theorem SameUpTo.after (x : Act σ ε α) {view : β → δ} {f g : α → Act σ ε β}
    (h : ∀ a, (f a).SameUpTo view (g a)) : (x >>= f).SameUpTo view (x >>= g) := by
  apply SameUpTo.bind (SameUpTo.refl id x)
  rintro a _ rfl
  exact h a

end Act

/-! ### Issuing -/

/-- The recipes draw alike and end with the same error or with texts of one digest. -/
inductive Recipe.Alike (digest : String → String) : Recipe → Recipe → Prop where
  | text {p q : String} (h : digest p = digest q) : Alike digest (.done (.ok p)) (.done (.ok q))
  | failure (e : Error) : Alike digest (.done (.error e)) (.done (.error e))
  | draw (count : Nat) {next next' : Except Error Bytes → Recipe}
    (h : ∀ bytes, Alike digest (next bytes) (next' bytes)) :
    Alike digest (.draw count next) (.draw count next')

theorem Recipe.Alike.run {digest : String → String} {p q : Recipe} (h : p.Alike digest q)
    (source : Nat → Act σ Error Bytes) : (p.run source).SameUpTo digest (q.run source) := by
  induction h with
  | text h => exact SameUpTo.pure h
  | failure e => exact SameUpTo.refl _ _
  | draw count _ ih => exact SameUpTo.after _ ih

/-- All of an issued key but the key itself. -/
def IssuedKey.shown (k : IssuedKey) : KeyId × KeyRecord := (k.id, k.record)

namespace Service

/-- The service with keys made by a recipe. -/
def generating (svc : Service σ) (recipe : Recipe) : Service σ :=
  { svc with config := { svc.config with
      generator := { svc.config.generator with kind := .custom recipe } } }

section Issuing

variable (svc : Service σ) {p q : Recipe}

theorem mint_sameUpTo (h : p.Alike svc.config.hasher.hash q) (request : CreateRequest) :
    ((svc.generating p).mint request).SameUpTo IssuedKey.shown ((svc.generating q).mint request) := by
  apply SameUpTo.bind (h.run svc.random)
  intro a b hab
  apply SameUpTo.after svc.freshId
  intro keyId
  apply SameUpTo.after svc.clock
  intro now
  -- The record holds the digest and nothing else of the key.
  have hrecord : newRecord request keyId (svc.labelOf request) (svc.config.hasher.hash a) now =
      newRecord request keyId (svc.labelOf request) (svc.config.hasher.hash b) now := by
    rw [hab]
  have hstore := congrArg (access .write "Failed to persist key" <| svc.store.create ·) hrecord
  apply SameUpTo.bind (SameUpTo.of_eq id hstore)
  intro _ _ _
  exact SameUpTo.pure (congrArg (Prod.mk keyId) hrecord)

theorem settle_sameUpTo {k k' : IssuedKey} (h : k.shown = k'.shown) :
    (svc.settle k).SameUpTo IssuedKey.shown (svc.settle k') := by
  obtain ⟨keyId, key, record⟩ := k
  obtain ⟨keyId', key', record'⟩ := k'
  cases h
  apply SameUpTo.after (svc.plugins.run (.created record))
  rintro (_ | rejection)
  · exact SameUpTo.pure rfl
  · exact SameUpTo.refl _ _

theorem create_sameUpTo (h : p.Alike svc.config.hasher.hash q) (request : CreateRequest) :
    ((svc.generating p).create request).SameUpTo IssuedKey.shown
      ((svc.generating q).create request) := by
  rw [create_eq, create_eq]
  apply SameUpTo.after (checkLabel request)
  intro _
  apply SameUpTo.after (svc.demand (.beforeCreate request))
  intro _
  apply SameUpTo.bind (svc.mint_sameUpTo h request)
  intro k k' hk
  have hevent : Event.created k.id k.record.owner = .created k'.id k'.record.owner :=
    congrArg (fun shown => Event.created shown.1 shown.2.owner) hk
  rw [hevent]
  apply SameUpTo.after (svc.track (.created k'.id k'.record.owner))
  intro _
  exact svc.settle_sameUpTo hk

end Issuing

end Service

/-! ### Verifying -/

/-- The same request with another key presented. -/
def VerifyRequest.withKey (request : VerifyRequest) (key : String) : VerifyRequest :=
  { request with key }

/-- The same call to plugins with another key presented. -/
def Hook.withKey (key : String) : Hook → Hook
  | beforeCreate request => beforeCreate request
  | created record => created record
  | beforeVerify request => beforeVerify (request.withKey key)
  | recordLoaded request record => recordLoaded (request.withKey key) record
  | verified request record => verified (request.withKey key) record

/-- The plugin makes nothing of the key that is presented. -/
def Plugin.KeyBlind (p : Plugin σ) : Prop := ∀ key hook, p.answer (hook.withKey key) = p.answer hook

/-- The plugins that come with the service, on any stores. -/
inductive Plugin.OfLibrary : Plugin σ → Prop where
  | rateLimit (limits : RateLimits σ) : OfLibrary (Plugin.rateLimit limits)
  | usageLimits (limits : UsageLimits σ) : OfLibrary (Plugin.usageLimits limits)
  | scopes : OfLibrary Plugin.scopes

theorem Plugin.OfLibrary.keyBlind {p : Plugin σ} (h : p.OfLibrary) : p.KeyBlind := by
  intro key hook
  cases h <;> cases hook <;> rfl

theorem Plugin.KeyBlind.beside {p : Plugin σ} (h : p.KeyBlind) : p.beside.KeyBlind := by
  intro key hook
  exact congrArg Act.beside (h key hook)

theorem Pipeline.run_withKey {ps : Pipeline σ} (h : ∀ p ∈ ps, p.KeyBlind) (key : String) (hook : Hook) :
    ps.run (hook.withKey key) = ps.run hook := by
  induction ps with
  | nil => rfl
  | cons p ps ih =>
      rw [run_cons, run_cons, h p List.mem_cons_self, ih fun q hq => h q (List.mem_cons_of_mem p hq)]

namespace Service

section Presenting

variable {svc : Service σ} (hplugins : ∀ p ∈ svc.plugins, p.KeyBlind)

include hplugins

theorem journaled_keyBlind : ∀ p ∈ svc.journaled.plugins, p.KeyBlind := by
  intro p hp
  obtain ⟨q, hq, rfl⟩ := List.mem_map.1 hp
  exact (hplugins q hq).beside

theorem verifyStanding_withKey (request : VerifyRequest) (key : String) (r : KeyRecord) :
    svc.verifyStanding (request.withKey key) r = svc.verifyStanding request r := by
  have hrun := Pipeline.run_withKey hplugins key (.verified request r)
  unfold verifyStanding
  rw [← hrun]
  rfl

theorem verifyRecord_withKey (request : VerifyRequest) (key : String) (r : KeyRecord) :
    svc.verifyRecord (request.withKey key) r = svc.verifyRecord request r := by
  have hrun := Pipeline.run_withKey hplugins key (.recordLoaded request r)
  unfold verifyRecord
  rw [← hrun, verifyStanding_withKey hplugins]
  rfl

theorem verify_withKey (request : VerifyRequest) {key : String}
    (h : svc.config.hasher.hash key = svc.config.hasher.hash request.key) :
    svc.verify (request.withKey key) = svc.verify request := by
  have hrun := Pipeline.run_withKey hplugins key (.beforeVerify request)
  have hlookup : svc.lookup (request.withKey key).key = svc.lookup request.key := by
    unfold lookup
    rw [← h]
    rfl
  unfold verify
  rw [← hrun, hlookup]
  simp only [verifyRecord_withKey hplugins]
  rfl

end Presenting

/-- Keys of one digest cannot be told apart. Issuing one or the other leaves the same state, makes the same
calls to the store, reports the same events and ends with the same error or with issued keys that are
the same but for the key itself; and so does presenting one or the other, with the same outcome. -/
theorem key_shows_only_in_digest (svc : Service σ) (hplugins : ∀ p ∈ svc.plugins, p.OfLibrary) :
    (∀ p q, p.Alike svc.config.hasher.hash q → ∀ request,
      ((svc.generating p).create request).SameUpTo IssuedKey.shown
          ((svc.generating q).create request) ∧
        ((svc.generating p).journaled.create request).SameUpTo IssuedKey.shown
          ((svc.generating q).journaled.create request)) ∧
      ∀ request key, svc.config.hasher.hash key = svc.config.hasher.hash request.key →
        svc.verify (request.withKey key) = svc.verify request ∧
          svc.journaled.verify (request.withKey key) = svc.journaled.verify request := by
  have hblind : ∀ p ∈ svc.plugins, p.KeyBlind := fun p hp => (hplugins p hp).keyBlind
  constructor
  · intro p q halike request
    -- To put a recipe into a service and then to keep a journal is the other order as well.
    have hjournaled := svc.journaled.create_sameUpTo halike request
    exact ⟨svc.create_sameUpTo halike request, hjournaled⟩
  · intro request key hkey
    exact ⟨verify_withKey hblind request hkey,
      verify_withKey (journaled_keyBlind hblind) request hkey⟩

end Service

namespace World

/-- All keys have one digest. -/
def indifferent : Service World := service plugins { hasher := .custom fun _ => "d" }

theorem indifferent_plugins : ∀ p ∈ indifferent.plugins, p.OfLibrary := by
  intro p hp
  simp only [indifferent, service, plugins, List.mem_cons, List.not_mem_nil, or_false] at hp
  rcases hp with rfl | rfl | rfl
  · exact .rateLimit _
  · exact .usageLimits _
  · exact .scopes

/-- What there is after the key `a` is issued. -/
def withKeyA : World := ((indifferent.generating (.done (.ok "a"))).create {} {}).2

/-- To issue `a` and to issue `b` leaves the same world, though the one key is given out or the other, and
`b` is accepted where `a` was issued, as `a` is. -/
theorem one_digest_for_two_keys :
    ((indifferent.generating (.done (.ok "a"))).create {} {}).1.map (·.key) = .ok "a" ∧
      ((indifferent.generating (.done (.ok "b"))).create {} {}).1.map (·.key) = .ok "b" ∧
      withKeyA = ((indifferent.generating (.done (.ok "b"))).create {} {}).2 ∧
      indifferent.verify { key := "b" } = indifferent.verify { key := "a" } ∧
      (indifferent.verify { key := "b" } withKeyA).1.map (·.valid) = .ok true := by
  obtain ⟨hissue, hpresent⟩ := indifferent.key_shows_only_in_digest indifferent_plugins
  have hcreate := (hissue (.done (.ok "a")) (.done (.ok "b")) (.text rfl) {}).1
  have hverify := (hpresent { key := "a" } "b" rfl).1
  exact ⟨rfl, rfl, (hcreate {}).1, hverify, rfl⟩

end World

end Latchkey
