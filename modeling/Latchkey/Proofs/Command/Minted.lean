import Latchkey.Command.Generate
import Latchkey.Proofs.Key.Drawing
import Latchkey.Proofs.Service.Stages
/-!
# Keys minted offline

The command that mints keys, the configuration of a service and the digests of keys each read the settings
for themselves. They agree: the command mints the keys that the generator of the configured service would
make of the same bytes, and gives each the digest by which that service looks it up.
-/

namespace Latchkey

open Act

variable {σ υ : Type}

/-! ### Settings -/

namespace KeyKind

theorem ne_custom_of_ofName {name : String} {length : Nat} {kind : KeyKind}
    (h : ofName name length = .ok kind) (recipe : Recipe) : kind ≠ .custom recipe := by
  unfold ofName at h
  split at h <;> cases h <;> nofun

end KeyKind

/-- The same is wrong; only the command calls a bad label invalid where a service calls it misconfigured. -/
def SameFault (e e' : Error) : Prop :=
  e' = e ∨ ∃ message, e = .configuration message ∧ e' = .validation message

namespace KeySettings

theorem generator_of_ok {settings : KeySettings} {kind : KeyKind}
    (hlabel : Label.fault? settings.label = none)
    (hkind : KeyKind.ofName settings.kind settings.length = .ok kind) (labelError : String → Error) :
    settings.generator labelError = .ok ⟨settings.label, kind⟩ := by
  rw [generator, hlabel, hkind]
  rfl

theorem generator_cases (settings : KeySettings) :
    (∃ kind, KeyKind.ofName settings.kind settings.length = .ok kind ∧
      ∀ labelError, settings.generator labelError = .ok ⟨settings.label, kind⟩) ∨
    ∃ e e', SameFault e e' ∧ settings.generator .configuration = .error e ∧
      settings.generator .validation = .error e' := by
  cases hlabel : Label.fault? settings.label with
  | some fault =>
      rw [generator, generator, hlabel]
      exact .inr ⟨_, _, .inr ⟨fault.message, rfl, rfl⟩, rfl, rfl⟩
  | none =>
      cases hkind : KeyKind.ofName settings.kind settings.length with
      | ok kind => exact .inl ⟨kind, rfl, generator_of_ok hlabel hkind⟩
      | error e =>
          rw [generator, generator, hlabel, hkind]
          exact .inr ⟨e, e, .inl rfl, rfl, rfl⟩

end KeySettings

namespace ServiceConfig

theorem ofSettings_cases (settings : KeySettings) :
    (∃ c, ofSettings settings = .ok c ∧ settings.generator .validation = .ok c.generator ∧
      c.hasher = .ofSecret settings.secret ∧ ∀ recipe, c.generator.kind ≠ .custom recipe) ∨
    ∃ e e', SameFault e e' ∧ ofSettings settings = .error e ∧
      settings.generator .validation = .error e' := by
  unfold ofSettings
  rcases settings.generator_cases with ⟨kind, hkind, hgenerator⟩ | ⟨e, e', hsame, he, he'⟩
  · rw [hgenerator, hgenerator]
    exact .inl ⟨_, rfl, rfl, rfl, KeyKind.ne_custom_of_ofName hkind⟩
  · rw [he]
    exact .inr ⟨e, e', hsame, rfl, he'⟩

/-- Keys made one after another, each from the bytes that the ones before it have left. -/
inductive Mints (c : ServiceConfig) (source : Nat → Act σ Error Bytes) :
    σ → List MintedKey → σ → Prop where
  | nil (s : σ) : Mints c source s [] s
  | cons {s s₁ s₂ : σ} {key : String} {rest : List MintedKey}
    (hkey : c.generator.generate source s = (.ok key, s₁)) (hrest : Mints c source s₁ rest s₂) :
    Mints c source s (⟨key, c.hasher.hash key⟩ :: rest) s₂

variable {c : ServiceConfig} {source : Nat → Act σ Error Bytes} {s s' : σ}

theorem Mints.digest_eq {keys : List MintedKey} (h : c.Mints source s keys s') :
    ∀ k ∈ keys, k.digest = c.hasher.hash k.key := by
  induction h with
  | nil => exact fun k hk => absurd hk List.not_mem_nil
  | cons _ _ ih =>
      intro k hk
      rcases List.mem_cons.1 hk with rfl | hk
      · rfl
      · exact ih k hk

/-! ### Minting -/

/-- A run of minting makes all the keys, or it stops where one cannot be made. -/
theorem mintKeys_cases (c : ServiceConfig) (source : Nat → Act σ Error Bytes) (n : Nat) (s : σ) :
    (∃ keys s', mintKeys c.generator c.hasher source n s = (.ok keys, s') ∧ keys.length = n ∧
      c.Mints source s keys s') ∨
    ∃ failure s', mintKeys c.generator c.hasher source n s = (.error failure, s') ∧
      ∃ keys s₁, keys.length < n ∧ c.Mints source s keys s₁ ∧
        c.generator.generate source s₁ = (.error failure, s') := by
  induction n generalizing s with
  | zero => exact .inl ⟨[], s, rfl, rfl, .nil s⟩
  | succ n ih =>
      rw [mintKeys]
      rcases hkey : c.generator.generate source s with ⟨failure | key, s₁⟩
      · exact .inr ⟨failure, s₁, bind_error hkey, [], s, Nat.zero_lt_succ n, .nil s, hkey⟩
      · rw [bind_ok hkey]
        rcases ih s₁ with ⟨keys, s', hrun, hlength, hmints⟩ |
          ⟨failure, s', hrun, keys, s₂, hlength, hmints, hfails⟩
        · exact .inl ⟨⟨key, c.hasher.hash key⟩ :: keys, s', bind_ok hrun, congrArg (· + 1) hlength,
            .cons hkey hmints⟩
        · exact .inr ⟨failure, s', bind_error hrun, ⟨key, c.hasher.hash key⟩ :: keys, s₂,
            Nat.succ_lt_succ hlength, .cons hkey hmints, hfails⟩

/-- The keys that are minted first do not depend on how many are asked for. -/
theorem Mints.mintKeys_append {keys : List MintedKey} (h : c.Mints source s keys s') (n : Nat) :
    mintKeys c.generator c.hasher source (keys.length + n) s =
      (mintKeys c.generator c.hasher source n >>= fun rest => pure (keys ++ rest)) s' := by
  induction h with
  | nil s =>
      rw [List.length_nil, Nat.zero_add]
      exact congrFun (bind_pure _).symm s
  | @cons s s₁ s₂ key rest hkey _ ih =>
      have hlength : (⟨key, c.hasher.hash key⟩ :: rest : List MintedKey).length + n =
          rest.length + n + 1 := Nat.add_right_comm _ _ _
      rw [hlength, mintKeys, bind_ok hkey]
      rcases hrest : mintKeys c.generator c.hasher source n s₂ with ⟨failure | keys, s'⟩
      · rw [bind_error hrest] at ih ⊢
        exact bind_error ih
      · rw [bind_ok hrest] at ih ⊢
        exact bind_ok ih

theorem mintKeys_ok_iff {n : Nat} {keys : List MintedKey} :
    mintKeys c.generator c.hasher source n s = (.ok keys, s') ↔
      keys.length = n ∧ c.Mints source s keys s' := by
  constructor
  · intro h
    rcases mintKeys_cases c source n s with ⟨_, _, hrun, hmints⟩ | ⟨_, _, hrun, -⟩
    · cases h.symm.trans hrun
      exact hmints
    · cases h.symm.trans hrun
  · rintro ⟨rfl, hmints⟩
    have hrun := hmints.mintKeys_append 0
    rw [Nat.add_zero] at hrun
    rw [hrun, mintKeys, pure_bind, List.append_nil, pure_apply]

theorem mintKeys_error_iff {n : Nat} {failure : Failure Error} :
    mintKeys c.generator c.hasher source n s = (.error failure, s') ↔
      ∃ keys s₁, keys.length < n ∧ c.Mints source s keys s₁ ∧
        c.generator.generate source s₁ = (.error failure, s') := by
  constructor
  · intro h
    rcases mintKeys_cases c source n s with ⟨_, _, hrun, -⟩ | ⟨_, _, hrun, hfails⟩
    · cases h.symm.trans hrun
    · cases h.symm.trans hrun
      exact hfails
  · rintro ⟨keys, s₁, hlength, hmints, hfails⟩
    obtain ⟨m, rfl⟩ : ∃ m, n = keys.length + (m + 1) := ⟨n - keys.length - 1, by omega⟩
    rw [hmints.mintKeys_append, mintKeys, bind_error (bind_error hfails)]

theorem mintKeys_ok (hkind : ∀ recipe, c.generator.kind ≠ .custom recipe)
    (hsource : ∀ n s, ∃ bytes s', source n s = (.ok bytes, s')) (n : Nat) (s : σ) :
    ∃ keys s', mintKeys c.generator c.hasher source n s = (.ok keys, s') := by
  rcases mintKeys_cases c source n s with ⟨keys, s', hrun, -⟩ |
    ⟨failure, s', -, keys, s₁, -, -, hfails⟩
  · exact ⟨keys, s', hrun⟩
  · obtain ⟨key, s₂, hkey⟩ := Generator.exists_generateWith_ok hkind hsource c.generator.label s₁
    cases hkey.symm.trans hfails

end ServiceConfig

/-! ### Looking minted keys up -/

namespace Service

variable {svc : Service υ} {table : Lens υ KeyTable} {request : VerifyRequest} {u u₁ : υ} {r : KeyRecord}

theorem Finds.keyId_of_verify (h : svc.OnTable table) (hfinds : svc.Finds table request u r u₁)
    {o : VerifyOutcome} {u' : υ} (hverify : svc.verify request u = (.ok o, u')) :
    o.keyId = some r.id := by
  have hcourse := h.verify_course request u
  rw [hverify] at hcourse
  have hdecides := hcourse.decides
  cases hvalid : o.valid with
  | true =>
      obtain ⟨r', hreached, hkeyId, -⟩ := hdecides.of_valid hvalid
      rw [hfinds.reached?_eq] at hreached
      rw [hkeyId, Option.some.inj hreached]
  | false =>
      obtain ⟨-, -, -, hkeyId⟩ := hdecides.of_invalid hvalid
      rw [hkeyId, hfinds.reached?_eq, Option.map_some]

end Service

/-- The service looks the key up under its digest. Where its keys lie in a table, a verification of the key
is one of the record that is stored with the digest. -/
structure MintedKey.FoundBy (k : MintedKey) (svc : Service υ) : Prop where
  lookup_eq : svc.lookup k.key =
    Service.access .read "Failed to load key by hash" (svc.store.findByDigest k.digest)
  finds : ∀ (table : Lens υ KeyTable) (request : VerifyRequest) (u u₁ : υ) (r : KeyRecord),
    svc.OnTable table → request.key = k.key → svc.Admits request u u₁ → (table.get u₁).Consistent →
    (table.get u₁).records.get? r.id = some r → r.digest = k.digest →
    svc.lookup request.key u₁ = (.ok (some r), u₁) ∧
      ∀ o u', svc.verify request u = (.ok o, u') → o.keyId = some r.id

theorem MintedKey.foundBy {k : MintedKey} {svc : Service υ}
    (hdigest : k.digest = svc.config.hasher.hash k.key) : k.FoundBy svc where
  lookup_eq := by rw [hdigest, Service.lookup]
  finds table request u u₁ r h hkey hadmits hconsistent hstored hr := by
    have hfound : (table.get u₁).lookup (svc.config.hasher.hash request.key) = some r := by
      rw [hkey, ← hdigest]
      exact hconsistent.lookup_eq_some_iff.2 ⟨hstored, hr⟩
    have hfinds : svc.Finds table request u r u₁ := ⟨hadmits, hfound⟩
    refine ⟨?_, fun o u' hverify => hfinds.keyId_of_verify h hverify⟩
    rw [h.lookup_apply, hfound]

/-! ### The command -/

section Command

variable {o : GenerateOptions} {settings : KeySettings} {source : Nat → Act σ Error Bytes} {s : σ}

theorem generateKeys_of_error {e : Error} (h : (o.over settings).generator .validation = .error e) :
    generateKeys o settings source s = (.error (.error e), s) := by
  rw [generateKeys, h]
  rfl

theorem generateKeys_of_ok {c : ServiceConfig}
    (hgenerator : (o.over settings).generator .validation = .ok c.generator)
    (hhasher : c.hasher = .ofSecret (o.over settings).secret) :
    generateKeys o settings source = mintKeys c.generator c.hasher source o.count := by
  rw [generateKeys, hgenerator, hhasher]
  rfl

/-- The command refuses the settings that a service refuses, before it draws any bytes. Otherwise it mints
as many keys as were asked for, or none. Each is made as the service would make it, its digest is the one
that is told of it by itself, and a service with these settings finds by it what is stored with the
digest. -/
theorem minted_keys_found (o : GenerateOptions) (settings : KeySettings)
    (source : Nat → Act σ Error Bytes) :
    (∀ e, ServiceConfig.ofSettings (o.over settings) = .error e →
      ∃ e', SameFault e e' ∧ ∀ s, generateKeys o settings source s = (.error (.error e'), s)) ∧
    ((∀ n s, ∃ bytes s', source n s = (.ok bytes, s')) → ∀ s,
      ((∃ keys s', generateKeys o settings source s = (.ok keys, s')) ↔
        ∃ c, ServiceConfig.ofSettings (o.over settings) = .ok c)) ∧
    ∀ c, ServiceConfig.ofSettings (o.over settings) = .ok c → ∀ s,
      (∀ keys s', generateKeys o settings source s = (.ok keys, s') ↔
        keys.length = o.count ∧ c.Mints source s keys s') ∧
      (∀ failure s', generateKeys o settings source s = (.error failure, s') ↔
        ∃ keys s₁, keys.length < o.count ∧ c.Mints source s keys s₁ ∧
          c.generator.generate source s₁ = (.error failure, s')) ∧
      ∀ keys s', generateKeys o settings source s = (.ok keys, s') → ∀ k ∈ keys,
        k.digest = c.hasher.hash k.key ∧ k.digest = digestOf k.key (o.over settings).secret ∧
        ∀ (υ : Type) (svc : Service υ), svc.config = c → k.FoundBy svc := by
  rcases ServiceConfig.ofSettings_cases (o.over settings) with
    ⟨c, hc, hgenerator, hhasher, hkind⟩ | ⟨e, e', hsame, he, he'⟩
  · have hrun : generateKeys o settings source = mintKeys c.generator c.hasher source o.count :=
      generateKeys_of_ok hgenerator hhasher
    refine ⟨?_, ?_, ?_⟩
    · intro e he
      rw [hc] at he
      cases he
    · intro hsource s
      refine iff_of_true ?_ ⟨c, hc⟩
      rw [hrun]
      exact ServiceConfig.mintKeys_ok hkind hsource o.count s
    · intro c' hc' s
      obtain rfl := Except.ok.inj (hc.symm.trans hc')
      rw [hrun]
      refine ⟨fun _ _ => ServiceConfig.mintKeys_ok_iff, fun _ _ => ServiceConfig.mintKeys_error_iff, ?_⟩
      intro keys s' hkeys k hk
      obtain ⟨-, hmints⟩ := ServiceConfig.mintKeys_ok_iff.1 hkeys
      have hdigest := hmints.digest_eq k hk
      refine ⟨hdigest, ?_, ?_⟩
      · rw [hdigest, hhasher, digestOf]
      · rintro υ svc rfl
        exact MintedKey.foundBy hdigest
  · have hrun : ∀ s, generateKeys o settings source s = (.error (.error e'), s) :=
      fun s => generateKeys_of_error he'
    have hrefused : ∀ c, ServiceConfig.ofSettings (o.over settings) ≠ .ok c := by
      intro c hc
      rw [he] at hc
      cases hc
    refine ⟨?_, ?_, fun c hc => absurd hc (hrefused c)⟩
    · intro e₁ he₁
      rw [he] at he₁
      cases he₁
      exact ⟨e', hsame, hrun⟩
    · intro _ s
      refine iff_of_false ?_ fun ⟨c, hc⟩ => hrefused c hc
      rintro ⟨keys, s', hkeys⟩
      rw [hrun] at hkeys
      cases hkeys

/-- Two keys of four digits, of which the first one is issued. -/
theorem minted_keys_found_hex :
    let o : GenerateOptions := { kind := some "Hex", length := some 4, count := 2 }
    let settings : KeySettings := { secret := some "pepper" }
    let c : ServiceConfig := { generator := ⟨"sk_", .hex 4⟩, hasher := .ofSecret (some "pepper") }
    let keys : List MintedKey := ["sk_0102", "sk_abcd"].map fun key => ⟨key, c.hasher.hash key⟩
    let issued : World :=
      { keys := ({} : KeyTable).add (.fresh ⟨"first"⟩ "sk_" (digestOf "sk_0102" (some "pepper")) .epoch) }
    ServiceConfig.ofSettings (o.over settings) = .ok c ∧
    generateKeys o settings Entropy.draw (.finite [0x01, 0x02, 0xab, 0xcd]) = (.ok keys, .finite []) ∧
    ∀ outcome w, (World.service [] c).verify { key := "sk_0102" } issued = (.ok outcome, w) →
      outcome.keyId = some ⟨"first"⟩ := by
  intro o settings c keys issued
  have hkind : KeyKind.ofName "Hex" 4 = .ok (.hex 4) := by
    have hname : Text.lower "Hex" = "hex" := by decide
    rw [KeyKind.ofName, hname]
    rfl
  have hc : ServiceConfig.ofSettings (o.over settings) = .ok c := by
    have hlabel : Label.fault? (o.over settings).label = none := by decide
    rw [ServiceConfig.ofSettings, KeySettings.generator_of_ok hlabel hkind]
    rfl
  obtain ⟨-, -, hminted⟩ := minted_keys_found o settings Entropy.draw
  obtain ⟨hok, -, hfound⟩ := hminted c hc (.finite [0x01, 0x02, 0xab, 0xcd])
  have hfirst : c.generator.generate Entropy.draw (.finite [0x01, 0x02, 0xab, 0xcd]) =
      (.ok "sk_0102", .finite [0xab, 0xcd]) := rfl
  have hsecond : c.generator.generate Entropy.draw (.finite [0xab, 0xcd]) =
      (.ok "sk_abcd", .finite []) := rfl
  have hrun := (hok keys (.finite [])).2 ⟨rfl, .cons hfirst (.cons hsecond (.nil _))⟩
  refine ⟨hc, hrun, ?_⟩
  obtain ⟨-, -, hserved⟩ := hfound _ _ hrun _ List.mem_cons_self
  have hconsistent : (World.keysPart.get issued).Consistent :=
    KeyTable.consistent_empty.add rfl rfl
  intro outcome w hverify
  obtain ⟨-, hkeyId⟩ := (hserved World (World.service [] c) rfl).finds World.keysPart { key := "sk_0102" }
    issued issued (.fresh ⟨"first"⟩ "sk_" (digestOf "sk_0102" (some "pepper")) .epoch)
    (World.service_onTable [] c) rfl ⟨rfl, rfl⟩ hconsistent rfl rfl
  exact hkeyId outcome w hverify

end Command

end Latchkey
