import Latchkey.Proofs.Plugin.RateLimit
import Latchkey.Proofs.Service.World
/-!
# The limit on a key

With a limiter on windows in memory among its plugins, a service accepts no more requests for a key in a
partition than the limit, in any interval as long as a window that begins with the first of them. This
rests on two conditions. The partition must not contain a colon: there the limiter fails, a plugin that
fails does not reject, and the service does as if it had no limiter. And no request may lie in a leap
second when the interval began before it in the same second, for its window then ends before the
interval does.
-/

namespace Latchkey.Service

open Act

variable {σ : Type}

/-- A limiter for each key, on windows in memory, by the clock of the service. -/
abbrev limiter (svc : Service σ) (rates : Lens σ (RateTable Float)) (l : WindowLimit)
    (fallback : Option String) : RateLimits σ :=
  RateLimits.windowed rates svc.now l fallback

/-- One plugin is such a limiter with a fit limit. Nothing else that a verification does touches the
rates or moves the clock. -/
structure Limited (svc : Service σ) (rates : Lens σ (RateTable Float)) (l : WindowLimit)
    (fallback : Option String) (before after : Pipeline σ) : Prop where
  lawful : rates.Lawful
  now_set : ∀ t s, svc.now (rates.set t s) = svc.now s
  plugins_eq : svc.plugins = before ++ Plugin.rateLimit (svc.limiter rates l fallback) :: after
  fit : l.fault? = none
  others_keep : ∀ p ∈ before ++ after, ∀ hook, (p.answer hook).Keeps fun s => (svc.now s, rates.get s)
  parts_keep : svc.VerifyWithin (fun s => (svc.now s, rates.get s)) Eq

/-- A verification with the state that it starts from. -/
structure Visit (σ : Type) where
  request : VerifyRequest
  start : σ

namespace Visit

variable (svc : Service σ) (v : Visit σ)

def after : σ := (svc.verify v.request v.start).2

def time : Instant := svc.now v.start

/-- The key that the verification accepts. -/
def accepted? : Option KeyId :=
  match (svc.verify v.request v.start).1 with
  | .ok o => if o.valid then o.keyId else none
  | .error _ => none

variable {svc v} in
theorem accepted?_eq_some {key : KeyId} (hkey : v.accepted? svc = some key) :
    ∃ o, (svc.verify v.request v.start).1 = .ok o ∧ o.valid = true ∧ o.keyId = some key := by
  unfold accepted? at hkey
  split at hkey
  · rename_i o ho
    split at hkey
    · rename_i hvalid
      exact ⟨o, ho, hvalid, hkey⟩
    · cases hkey
  · cases hkey

variable (limits : RateLimits σ) (name : String) (id : KeyId)

/-- The verification accepts the key in the partition. -/
def Accepts : Prop := limits.partitionFor v.request = some name ∧ v.accepted? svc = some id

instance : Decidable (v.Accepts svc limits name id) := instDecidableAnd

/-- The verification comes to the record of the key in the partition. -/
def Reaches (r : KeyRecord) : Prop :=
  limits.partitionFor v.request = some name ∧ svc.Loads v.request v.start r ∧ r.id = id

end Visit

/-- Verifications one after another, of any keys in any partitions. Between them time goes by, and
anything may happen that leaves one window alone. -/
inductive Visits (svc : Service σ) (rates : Lens σ (RateTable Float)) (key : String) :
    σ → List (Visit σ) → Prop where
  | nil {s : σ} : Visits svc rates key s []
  | cons {s : σ} {v : Visit σ} {vs : List (Visit σ)}
    (hidle : Window.Idle (clockAndWindow rates svc.now key s)
      (clockAndWindow rates svc.now key v.start))
    (hrest : Visits svc rates key (v.after svc) vs) : Visits svc rates key s (v :: vs)

section Limited

variable {svc : Service σ} {rates : Lens σ (RateTable Float)} {l : WindowLimit}
  {fallback : Option String} {before after : Pipeline σ} {name : String}
  {id : KeyId} {v : Visit σ} {request : VerifyRequest}
  (h : svc.Limited rates l fallback before after)

include h

theorem Limited.plugins_keep {τ : Type} {view : σ → τ} {hook : Hook}
    (hothers : ∀ q ∈ before ++ after, (q.answer hook).Keeps view)
    (hlimiter : ((Plugin.rateLimit (svc.limiter rates l fallback)).answer hook).Keeps view) :
    (svc.plugins.run hook).Keeps view := by
  rw [h.plugins_eq]
  refine Pipeline.run_within fun q hq => ?_
  rcases List.mem_append.1 hq with hq | hq
  · exact hothers q (List.mem_append_left _ hq)
  · rcases List.mem_cons.1 hq with rfl | hq
    · exact hlimiter
    · exact hothers q (List.mem_append_right _ hq)

theorem Limited.verify_keeps_now (request : VerifyRequest) : (svc.verify request).Keeps svc.now := by
  refine (h.parts_keep.coarser Prod.fst).verify fun hook => ?_
  refine h.plugins_keep (fun q hq => Keeps.coarser (h.others_keep q hq hook) Prod.fst) ?_
  cases hook with
  | recordLoaded request r => exact RateLimits.windowed_keeps_now h.now_set
  | _ => exact Within.pure none

theorem Limited.parts_keep_window (key : String) :
    svc.VerifyWithin (clockAndWindow rates svc.now key) Eq :=
  h.parts_keep.coarser fun v => (v.1, v.2.windows.get? key)

theorem Limited.others_keep_window {q : Plugin σ} (hq : q ∈ before ++ after) (hook : Hook)
    (key : String) : (q.answer hook).Keeps (clockAndWindow rates svc.now key) :=
  Keeps.coarser (h.others_keep q hq hook) fun v => (v.1, v.2.windows.get? key)

theorem Limited.run_keeps_window {hook : Hook} (hphase : hook.phase ≠ .recordLoaded) (key : String) :
    (svc.plugins.run hook).Keeps (clockAndWindow rates svc.now key) := by
  refine h.plugins_keep (fun q hq => h.others_keep_window hq hook key) ?_
  cases hook with
  | recordLoaded _ _ => exact absurd rfl hphase
  | _ => exact Within.pure none

/-- What the plugins do to a window when a record is loaded is what the limiter does to it, and they let
no request pass that it counts past the limit. -/
theorem Limited.loaded_step (id : KeyId) (hname : ':' ∉ name.toList) {r : KeyRecord}
    (hplain : (svc.limiter rates l fallback).partitionFor request = some name → r.id = id →
      RateLimits.override? r = none) (s : σ) :
    let loaded := svc.plugins.run (.recordLoaded request r) s
    Window.Idle (clockAndWindow rates svc.now (name ++ ":" ++ id.text) s)
        (clockAndWindow rates svc.now (name ++ ":" ++ id.text) loaded.2) ∧
        (loaded.1 = .ok none → (svc.limiter rates l fallback).partitionFor request = some name →
          r.id ≠ id) ∨
      (svc.limiter rates l fallback).partitionFor request = some name ∧ r.id = id ∧
        ∃ w, Window.next (windowAt rates (name ++ ":" ++ id.text) s) (svc.now s) l = w ∧
          clockAndWindow rates svc.now (name ++ ":" ++ id.text) loaded.2 = (svc.now s, some w) ∧
          (loaded.1 = .ok none → w.count ≤ l.limit) := by
  intro loaded
  have haround := Pipeline.run_around (p := Plugin.rateLimit (svc.limiter rates l fallback))
    (fun q hq => h.others_keep_window hq (.recordLoaded request r) (name ++ ":" ++ id.text)) s
  rw [← h.plugins_eq] at haround
  -- Either a plugin before the limiter rejects, or the limiter finds the window as it was.
  rcases haround with ⟨hreject, hview⟩ | ⟨s₁, hs₁, hview, hpass⟩
  · refine .inl ⟨?_, fun hnone => absurd hnone hreject⟩
    rw [hview]
    exact refl_of _ _
  · change _ = clockAndWindow _ _ _ ((svc.limiter rates l fallback).answer request r s₁).2 at hview
    rw [← hs₁, hview]
    by_cases hpair : (svc.limiter rates l fallback).partitionFor request = some name ∧ r.id = id
    · obtain ⟨hpartition, rfl⟩ := hpair
      rcases RateLimits.windowed_counts h.lawful h.now_set hname h.fit hpartition
        (hplain hpartition rfl) (s := s₁) with ⟨s₂, hfail, hidle⟩ | ⟨s₂, w, hnext, hanswer, hw⟩
      · left
        rw [hfail]
        refine ⟨hidle, fun hnone => ?_⟩
        obtain ⟨result, hresult, -⟩ := (hpass hnone).answer_eq
        change ((svc.limiter rates l fallback).answer request r s₁).1 = _ at hresult
        rw [hfail] at hresult
        cases result with
        | ok _ => cases hresult
        | error _ => cases hresult
      · right
        have hnow : svc.now s₁ = svc.now s := congrArg Prod.fst hs₁
        have hwindow : windowAt rates (name ++ ":" ++ r.id.text) s₁ =
          windowAt rates (name ++ ":" ++ r.id.text) s := congrArg Prod.snd hs₁
        rw [hnow, hwindow] at hnext
        rw [hnow] at hw
        rw [hanswer]
        refine ⟨hpartition, rfl, w, hnext, hw, fun hnone => ?_⟩
        obtain ⟨result, hresult, hpassed⟩ := (hpass hnone).answer_eq
        change ((svc.limiter rates l fallback).answer request r s₁).1 = _ at hresult
        rw [hanswer] at hresult
        refine Decidable.byContradiction fun hcount => ?_
        rw [if_neg hcount] at hresult
        cases result with
        | ok _ =>
            cases hresult
            cases hpassed
        | error _ => cases hresult
    · left
      refine ⟨RateLimits.windowed_idle h.lawful h.now_set hname ?_ s₁, fun _ hpartition hid =>
        hpair ⟨hpartition, hid⟩⟩
      intro hpartition htext
      exact hpair ⟨hpartition, congrArg KeyId.mk htext⟩

/-- A verification that comes to another key or partition leaves the window alone, and one that comes
to this key in this partition takes it a step, unless it fails; to be valid it must have done so. -/
theorem Limited.visit_step (v : Visit σ) (id : KeyId) (hname : ':' ∉ name.toList)
    (hplain : ∀ r, v.Reaches svc (svc.limiter rates l fallback) name id r →
      RateLimits.override? r = none) :
    Window.Idle (clockAndWindow rates svc.now (name ++ ":" ++ id.text) v.start)
        (clockAndWindow rates svc.now (name ++ ":" ++ id.text) (v.after svc)) ∧
        ¬v.Accepts svc (svc.limiter rates l fallback) name id ∨
      ∃ r w, v.Reaches svc (svc.limiter rates l fallback) name id r ∧
        Window.next (windowAt rates (name ++ ":" ++ id.text) v.start) (v.time svc) l = w ∧
        clockAndWindow rates svc.now (name ++ ":" ++ id.text) (v.after svc) =
          (v.time svc, some w) ∧
        (v.Accepts svc (svc.limiter rates l fallback) name id → w.count ≤ l.limit) := by
  unfold Visit.after
  rcases verify_cases v.request (h.parts_keep_window (name ++ ":" ++ id.text))
    (fun hook hphase => h.run_keeps_window hphase _) v.start with ⟨hview, hinvalid⟩ |
    ⟨r, s₁, hloads, hs₁, hafter, hvalid⟩
  · left
    rw [hview]
    refine ⟨refl_of _ _, fun haccepts => ?_⟩
    obtain ⟨o, ho, hvalid, -⟩ := Visit.accepted?_eq_some haccepts.2
    rw [hinvalid o ho] at hvalid
    cases hvalid
  · have haccepts : v.Accepts svc (svc.limiter rates l fallback) name id →
        r.id = id ∧ (svc.plugins.run (.recordLoaded v.request r) s₁).1 = .ok none := by
      intro haccepts
      obtain ⟨o, ho, hov, hkey⟩ := Visit.accepted?_eq_some haccepts.2
      obtain ⟨hr, hpassed⟩ := hvalid o ho hov
      exact ⟨Option.some.inj (hr.symm.trans hkey), hpassed⟩
    rw [hafter, ← hs₁]
    rcases h.loaded_step id hname (fun hpartition hid => hplain r ⟨hpartition, hloads, hid⟩)
      s₁ with ⟨hidle, hother⟩ | ⟨hpartition, hid, w, hnext, hw, hcount⟩
    · refine .inl ⟨hidle, fun ha => ?_⟩
      obtain ⟨hid, hpassed⟩ := haccepts ha
      exact hother hpassed ha.1 hid
    · have hnow : svc.now s₁ = v.time svc := congrArg Prod.fst hs₁
      have hwindow : windowAt rates (name ++ ":" ++ id.text) s₁ =
        windowAt rates (name ++ ":" ++ id.text) v.start := congrArg Prod.snd hs₁
      rw [hnow, hwindow] at hnext
      rw [hnow] at hw
      exact .inr ⟨r, w, ⟨hpartition, hloads, hid⟩, hnext, hw, fun ha => hcount (haccepts ha).2⟩

/-- How many of the verifications accept the key in the partition, of those made from `t₀` on and before
a window that begins then has ended. -/
def acceptedIn (svc : Service σ) (limits : RateLimits σ) (name : String) (id : KeyId)
    (l : WindowLimit) (t₀ : Instant) (visits : List (Visit σ)) : Nat :=
  visits.countP fun v => v.Accepts svc limits name id ∧ t₀ ≤ v.time svc ∧ v.time svc < t₀.later l.length

theorem Limited.acceptedIn_add_le (hname : ':' ∉ name.toList) {t₀ : Instant}
    {visits : List (Visit σ)} {s : σ}
    (hvisits : Visits svc rates (name ++ ":" ++ id.text) s visits)
    (hreach : ∀ v ∈ visits, ∀ r, v.Reaches svc (svc.limiter rates l fallback) name id r →
      RateLimits.override? r = none ∧ t₀ ≤ v.time svc ∧ ¬t₀.EntersLeap (v.time svc))
    {n : Nat} (hn : n ≤ l.limit.toNat)
    (hs : Window.Bounds (t₀.later l.length) n (clockAndWindow rates svc.now (name ++ ":" ++ id.text) s))
    (hmany : l.limit.toNat + 1 < UInt64.size ∨ n + visits.length < UInt64.size) :
    n + acceptedIn svc (svc.limiter rates l fallback) name id l t₀ visits ≤ l.limit.toNat := by
  -- By induction on the visits: each keeps the bound on the number that were accepted before it.
  induction hvisits generalizing n with
  | nil => exact hn
  | @cons s v vs hidle hrest ih =>
      have hrest_reach := fun v hv => hreach v (List.mem_cons_of_mem _ hv)
      rw [List.length_cons] at hmany
      rw [acceptedIn, List.countP_cons, ← acceptedIn]
      rcases h.visit_step v id hname fun r hr => (hreach v List.mem_cons_self r hr).1 with
        ⟨hquiet, hrejected⟩ | ⟨r, w, hr, hnext, hafter, hcount⟩
      · rw [if_neg (by simp [hrejected]), Nat.add_zero]
        exact ih hrest_reach hn ((hs.idle hidle).idle hquiet) (by omega)
      · obtain ⟨-, hfrom, hleap⟩ := hreach v List.mem_cons_self r hr
        have hends := Instant.later_le_later hfrom hleap l.length_nonneg
        have hstart := hs.idle hidle
        have hcounted : v.time svc < t₀.later l.length →
            min (n + 1) (UInt64.size - 1) ≤ w.count.toNat := by
          rw [← hnext]
          exact hstart.le_count_next
        have hafter_bounds : ∀ m, (v.time svc < t₀.later l.length → m ≤ w.count.toNat) →
            Window.Bounds (t₀.later l.length) m
              (clockAndWindow rates svc.now (name ++ ":" ++ id.text) (v.after svc)) := by
          rw [hafter, ← hnext]
          exact fun m => hstart.counted hends
        split
        · rename_i hpassed
          obtain ⟨haccepts, -, hbefore⟩ := of_decide_eq_true hpassed
          have hlimit : w.count.toNat ≤ l.limit.toNat := UInt64.le_iff_toNat_le.1 (hcount haccepts)
          have hone := hcounted hbefore
          have hrest := ih hrest_reach (by omega) (hafter_bounds (n + 1) fun _ => by omega) (by omega)
          omega
        · refine ih hrest_reach hn (hafter_bounds n fun hbefore => ?_) (by omega)
          have hone := hcounted hbefore
          omega

/-- The service without its limiter. -/
abbrev unlimited (svc : Service σ) (before after : Pipeline σ) : Service σ :=
  { svc with plugins := before ++ after }

omit h in
/-- A request that names a partition, or need not, has what the limiter requires. -/
theorem hasField_of_partitionFor
    (hpartition : (svc.limiter rates l fallback).partitionFor request = some name) {field : VerifyField}
    (hfield : field ∈ (Plugin.rateLimit (svc.limiter rates l fallback)).requiredFields) :
    request.hasField field = true := by
  cases fallback with
  | some p => cases hfield
  | none =>
      cases List.mem_singleton.1 hfield
      unfold RateLimits.partitionFor at hpartition
      change (request.partition.filter _ <|> none) = _ at hpartition
      unfold VerifyRequest.hasField
      cases hnamed : request.partition with
      | none =>
          rw [hnamed] at hpartition
          cases hpartition
      | some p =>
          rw [hnamed] at hpartition
          cases hempty : p.isEmpty with
          | true => simp [Option.filter, hempty] at hpartition
          | false => simp [hempty]

theorem Limited.checkFields_unlimited
    (hpartition : (svc.limiter rates l fallback).partitionFor request = some name) :
    svc.checkFields request = (svc.unlimited before after).checkFields request := by
  have hgiven : ((Plugin.rateLimit (svc.limiter rates l fallback)).requiredFields.map
      (RateLimits.pluginName, ·)).find? (fun d => !request.hasField d.2) = none := by
    refine List.find?_eq_none.2 fun d hd => ?_
    obtain ⟨field, hfield, rfl⟩ := List.mem_map.1 hd
    simp [hasField_of_partitionFor hpartition hfield]
  refine checkFields_eq_of_find?_eq ?_
  rw [Pipeline.find?_requiredFields fun field => !request.hasField field,
    Pipeline.find?_requiredFields fun field => !request.hasField field, h.plugins_eq]
  unfold Pipeline.demands
  rw [List.flatMap_append, List.flatMap_append, List.flatMap_cons, List.find?_append,
    List.find?_append, List.find?_append]
  change Option.or _ (Option.or (List.find? _ (List.map (RateLimits.pluginName, ·) _)) _) = _
  rw [hgiven]
  rfl

theorem Limited.verify_unlimited (hname : ':' ∈ name.toList)
    (hpartition : (svc.limiter rates l fallback).partitionFor request = some name) :
    svc.verify request = (svc.unlimited before after).verify request := by
  have hrun : ∀ hook, (∀ request' r, hook = .recordLoaded request' r → request' = request) →
      svc.plugins.run hook = (before ++ after : Pipeline σ).run hook := by
    intro hook hhook
    rw [h.plugins_eq]
    refine Pipeline.run_without fun s => ?_
    cases hook with
    | recordLoaded request' r =>
        cases hhook request' r rfl
        obtain ⟨e, he⟩ := RateLimits.windowed_fails h.lawful hname hpartition (r := r) (s := s)
        exact ⟨.of_error he, congrArg Prod.snd he⟩
    | _ => exact ⟨.of_pure rfl, rfl⟩
  have hrecord : ∀ r, svc.verifyRecord request r =
      (svc.unlimited before after).verifyRecord request r := by
    intro r
    unfold verifyRecord verifyStanding
    rw [hrun (.recordLoaded request r) fun _ _ he => (by cases he; rfl),
      hrun (.verified request r) fun _ _ he => by cases he]
    rfl
  -- A verification asks the pipeline at three points, and none of them misses the limiter.
  unfold verify
  rw [h.checkFields_unlimited hpartition,
    hrun (.beforeVerify request) fun _ _ he => (by cases he), funext hrecord]
  rfl

/-- From an empty window on, a key is accepted in a partition at most as often as the limit says, in an
interval as long as a window that begins no later than the first request for it. But in a partition with
a colon the service does as if it had no limiter. -/
theorem accepted_le_limit_unless_colon (name : String) (id : KeyId) :
    (':' ∉ name.toList → ∀ (s : σ) (visits : List (Visit σ)) (t₀ : Instant),
      windowAt rates (name ++ ":" ++ id.text) s = none →
      Visits svc rates (name ++ ":" ++ id.text) s visits →
      (∀ v ∈ visits, ∀ r, v.Reaches svc (svc.limiter rates l fallback) name id r →
        RateLimits.override? r = none ∧ t₀ ≤ v.time svc ∧ ¬t₀.EntersLeap (v.time svc)) →
      l.limit.toNat + 1 < UInt64.size ∨ visits.length < UInt64.size →
      acceptedIn svc (svc.limiter rates l fallback) name id l t₀ visits ≤ l.limit.toNat) ∧
    (':' ∈ name.toList → ∀ request,
      (svc.limiter rates l fallback).partitionFor request = some name →
      svc.verify request = (svc.unlimited before after).verify request) := by
  refine ⟨?_, fun hname request hpartition => h.verify_unlimited hname hpartition⟩
  intro hname s visits t₀ hempty hvisits hreach hmany
  have hs : Window.Bounds (t₀.later l.length) 0
      (clockAndWindow rates svc.now (name ++ ":" ++ id.text) s) := by
    refine .inr (.inl ⟨rfl, ?_⟩)
    unfold clockAndWindow
    rw [hempty]
    rfl
  have hbound := h.acceptedIn_add_le hname hvisits hreach (Nat.zero_le _) hs (by omega)
  omega

end Limited

end Latchkey.Service

namespace Latchkey.World

open Act Service

/-- Plugins with a limiter that lets one request a second pass. -/
def metered (before : Pipeline World) : Service World :=
  service (before ++ [Plugin.rateLimit (.windowed ratesPart now ⟨1, 1000⟩ none)]) sameKey

theorem metered_limited {before : Pipeline World}
    (hbefore : ∀ p ∈ before, ∀ hook, (p.answer hook).Keeps fun s => (now s, ratesPart.get s)) :
    (metered before).Limited ratesPart ⟨1, 1000⟩ none before [] where
  lawful := ratesPart_lawful
  now_set _ _ := rfl
  plugins_eq := rfl
  fit := rfl
  others_keep p hp := hbefore p (by rwa [List.append_nil] at hp)
  parts_keep :=
    { find := fun _ => Keeps.onPart (fun _ _ => rfl) _
      remove := fun _ => Keeps.onPart (fun _ _ => rfl) _
      track := fun _ _ => rfl }

theorem metered_alone_limited : (metered []).Limited ratesPart ⟨1, 1000⟩ none [] [] :=
  metered_limited fun _ hp => by cases hp

theorem metered_scopes_limited :
    (metered [Plugin.scopes]).Limited ratesPart ⟨1, 1000⟩ none [Plugin.scopes] [] := by
  refine metered_limited fun p hp hook => ?_
  cases List.mem_singleton.1 hp
  cases hook with
  | recordLoaded _ _ => exact Within.pure _
  | _ => exact Within.pure none

/-- What there is after the first key is issued. -/
def meteredKey (before : Pipeline World) : World := ((metered before).create {} {}).2

/-- Verifications at the given times, and nothing between them. -/
def visitsAt (svc : Service World) : World → List (Instant × VerifyRequest) → List (Visit World)
  | _, [] => []
  | s, (t, request) :: rest =>
    let v : Visit World := ⟨request, { s with now := t }⟩
    v :: visitsAt svc (v.after svc) rest

theorem visits_visitsAt {svc : Service World} {l : WindowLimit} {fallback : Option String}
    {before after : Pipeline World} (h : svc.Limited ratesPart l fallback before after)
    (hnow : svc.now = now) (key : String) {s : World} {calls : List (Instant × VerifyRequest)}
    (horder : (s.now :: calls.map Prod.fst).Pairwise (· ≤ ·)) :
    Visits svc ratesPart key s (visitsAt svc s calls) := by
  induction calls generalizing s with
  | nil => exact .nil
  | cons call calls ih =>
      obtain ⟨t, request⟩ := call
      have hkept := h.verify_keeps_now request { s with now := t }
      rw [hnow] at hkept
      rw [List.map_cons, List.pairwise_cons] at horder
      refine .cons ⟨?_, .inl rfl⟩ (ih ?_)
      · rw [hnow]
        exact horder.1 t List.mem_cons_self
      · change (now ((svc.verify request { s with now := t }).2) :: _).Pairwise _
        rw [← hkept]
        exact horder.2

/-- The key, presented twice at once. -/
def twiceIn (partition : String) : List (Visit World) :=
  visitsAt (metered []) (meteredKey []) [
    (.epoch, { key := "k", partition := some partition }),
    (.epoch, { key := "k", partition := some partition })]

theorem accepted_once_in_main :
    acceptedIn (metered []) ((metered []).limiter ratesPart ⟨1, 1000⟩ none) "main" firstId ⟨1, 1000⟩
        .epoch (twiceIn "main") = 1 ∧
      (metered []).verify { key := "k", partition := some "a:b" } =
        ((metered []).unlimited [] []).verify { key := "k", partition := some "a:b" } := by
  have htable : (metered []).OnTable keysPart := service_onTable _ _
  refine ⟨Nat.le_antisymm ?_ ?_, ?_⟩
  · refine (accepted_le_limit_unless_colon metered_alone_limited "main" firstId).1 (by decide)
      (meteredKey []) (twiceIn "main") .epoch rfl
      (visits_visitsAt metered_alone_limited rfl _ (by decide +kernel)) ?_ (.inl (by decide))
    rintro v hv r ⟨-, ⟨s₁, s₂, hrun, hlookup⟩, -⟩
    obtain ⟨hkeys, hkey, htime⟩ : v.start.keys = (meteredKey []).keys ∧ v.request.key = "k" ∧
        v.time (metered []) = .epoch := by
      rcases List.mem_cons.1 hv with rfl | hv
      · exact ⟨rfl, rfl, rfl⟩
      · cases List.mem_singleton.1 hv
        exact ⟨rfl, rfl, rfl⟩
    have hs₁ : v.start = s₁ := congrArg Prod.snd hrun
    rw [← hs₁, hkey, htable.lookup_apply] at hlookup
    have hfound : (meteredKey []).keys.lookup "k" = some r := by
      rw [← hkeys]
      exact Except.ok.inj (congrArg Prod.fst hlookup)
    cases hfound
    rw [htime]
    exact ⟨rfl, by decide, fun hleap => by cases hleap.2.2⟩
  · decide +kernel
  · exact (accepted_le_limit_unless_colon metered_alone_limited "a:b" firstId).2 (by decide) _ rfl

/-- The key, presented for a scope that it does not grant at the end of the year 2016, then in the leap
second, and again in the second after it. -/
def aroundLeap : List (Visit World) :=
  visitsAt (metered [Plugin.scopes]) (meteredKey [Plugin.scopes]) [
    (⟨1483228799, 900000000, by decide, by decide, by decide⟩,
      { key := "k", partition := some "main", scopes := ["admin"] }),
    (⟨1483228799, 1100000000, by decide, by decide, by decide⟩,
      { key := "k", partition := some "main" }),
    (⟨1483228800, 500000000, by decide, by decide, by decide⟩,
      { key := "k", partition := some "main" })]

/-- In a partition with a colon, and around a leap second, a limit of one lets two requests pass. -/
theorem limit_exceeded :
    Visits (metered []) ratesPart ("a:b" ++ ":" ++ firstId.text) (meteredKey []) (twiceIn "a:b") ∧
      acceptedIn (metered []) ((metered []).limiter ratesPart ⟨1, 1000⟩ none) "a:b" firstId
        ⟨1, 1000⟩ .epoch (twiceIn "a:b") = 2 ∧
      Visits (metered [Plugin.scopes]) ratesPart ("main" ++ ":" ++ firstId.text)
        (meteredKey [Plugin.scopes]) aroundLeap ∧
      acceptedIn (metered [Plugin.scopes])
        ((metered [Plugin.scopes]).limiter ratesPart ⟨1, 1000⟩ none) "main" firstId ⟨1, 1000⟩
        ⟨1483228799, 900000000, by decide, by decide, by decide⟩ aroundLeap = 2 :=
  ⟨visits_visitsAt metered_alone_limited rfl _ (by decide +kernel), by decide +kernel,
    visits_visitsAt metered_scopes_limited rfl _ (by decide +kernel), by decide +kernel⟩

end Latchkey.World
