import Latchkey.Proofs.Plugin.BuiltIn
import Latchkey.Proofs.Service.Creation
import Latchkey.Proofs.Service.Run
/-!
# An issued key leads to its own record

With the plugins of the library, a creation either answers with a key and adds its record, or leaves
the table as it is. From then on the digest of the key leads to that record until the record is
removed, and from then on to none, until a key with the same digest is issued. The digests of two
texts may be equal and random bytes may repeat: the store turns the second record away.
-/

namespace Latchkey

open Act KeyTable

variable {σ : Type}

/-- Nothing is written to the store without the service. -/
def ByService (_ : σ) (c : Call) : Prop := ∀ r, c ≠ .put r

/-- Nothing is written without the service, and no key with the digest is issued. -/
def NotIssuing (svc : Service σ) (d : String) (s : σ) (c : Call) : Prop :=
  (∀ r, c ≠ .put r) ∧ ∀ request k s', c = .create request → svc.create request s = (.ok k, s') →
    svc.config.hasher.hash k.key ≠ d

theorem ByService.continues {s : σ} {c : Call} (h : ByService s c)
    (K : KeyRecord → KeyRecord → Prop) (t : KeyTable) : c.Continues K t :=
  fun r _ hc _ => absurd hc (h r)

/-- The key was made for the request, and its record was added to the table. -/
structure IssuedKey.Added (k : IssuedKey) (svc : Service σ) (request : CreateRequest)
    (t u : KeyTable) : Prop where
  table_eq : u = t.add k.record
  id_free : t.records.get? k.record.id = none
  digest_free : t.index.get? k.record.digest = none
  record_eq : ∃ label now, k.record =
    Service.newRecord request k.id label (svc.config.hasher.hash k.key) now

namespace IssuedKey.Added

variable {k : IssuedKey} {svc : Service σ} {request : CreateRequest} {t u : KeyTable}
  (h : k.Added svc request t u)

include h

theorem id_eq : k.record.id = k.id := by
  obtain ⟨label, now, he⟩ := h.record_eq
  rw [he]
  rfl

theorem digest_eq : k.record.digest = svc.config.hasher.hash k.key := by
  obtain ⟨label, now, he⟩ := h.record_eq
  rw [he]
  rfl

theorem isRevoked_eq : k.record.isRevoked = false := by
  obtain ⟨label, now, he⟩ := h.record_eq
  rw [he]
  rfl

theorem stored : u.records.get? k.id = some k.record := by
  rw [h.table_eq, records_add, if_pos h.id_eq]

theorem consistent (ht : t.Consistent) : u.Consistent := by
  rw [h.table_eq]
  exact ht.add h.id_free h.digest_free

end IssuedKey.Added

namespace Service

variable {svc : Service σ} {table : Lens σ KeyTable} (h : svc.OnTable table)

include h

/-- A creation that a plugin rejects takes the record out again. Only plugins that do not answer once it
is stored leave it there. -/
theorem OnTable.create_cases_of_keeps {request : CreateRequest}
    (hbefore : (svc.plugins.run (.beforeCreate request)).Keeps table.get)
    (hcreated : ∀ r, (svc.plugins.run (.created r)).Keeps table.get) (s : σ) :
    (∃ e s', svc.create request s = (.error e, s') ∧ (table.get s' = table.get s ∨
        ∃ r, (∃ s e, (svc.plugins.run (.created r) s).1 = .error e) ∧
          (table.get s).records.get? r.id = none ∧ table.get s' = (table.get s).add r)) ∨
      ∃ k s', svc.create request s = (.ok k, s') ∧
        k.Added svc request (table.get s) (table.get s') := by
  rcases hcreate : svc.create request s with ⟨e | k, s'⟩
  · refine .inl ⟨e, s', rfl, ?_⟩
    rcases h.table_of_error hbefore hcreated hcreate with hsame | ⟨k, s₁, s₂, s₃, s₄, hstores, hrun⟩
    · exact .inl hsame
    · have hgains := h.gains_of_settled hbefore hcreated hstores hrun
      exact .inr ⟨k.record, ⟨s₄, e, congrArg Prod.fst hrun⟩, hgains.id_free,
        h.table_of_settled hbefore hcreated hstores hrun⟩
  · obtain ⟨s₁, s₂, s₃, s₄, hstores, hrun⟩ := h.create_eq_ok_iff.1 hcreate
    have hgains := h.gains_of_settled hbefore hcreated hstores hrun
    exact .inr ⟨k, s', rfl, h.table_of_settled hbefore hcreated hstores hrun, hgains.id_free,
      hgains.digest_free, _, _, hstores.record_eq⟩

variable (hplugins : ∀ p ∈ svc.plugins, p.BuiltIn table svc.now)

include hplugins

/-- None of the plugins stands against a creation. -/
theorem OnTable.create_cases (request : CreateRequest) (s : σ) :
    (∃ e s', svc.create request s = (.error e, s') ∧ table.get s' = table.get s) ∨
      ∃ k s', svc.create request s = (.ok k, s') ∧
        k.Added svc request (table.get s) (table.get s') := by
  have hbefore : ∀ s, svc.plugins.run (.beforeCreate request) s = (.ok none, s) :=
    Pipeline.run_of_ne hplugins _ fun hphase => by cases hphase
  have hcreated : ∀ r s, svc.plugins.run (.created r) s = (.ok none, s) :=
    fun r => Pipeline.run_of_ne hplugins _ fun hphase => by cases hphase
  rcases h.create_cases_of_keeps (fun s => by rw [hbefore]) (fun r s => by rw [hcreated]) s with
    ⟨e, s', he, hs' | ⟨r, ⟨s₁, e', hfailed⟩, -⟩⟩ | hadded
  · exact .inl ⟨e, s', he, hs'⟩
  · rw [hcreated] at hfailed
    cases hfailed
  · exact .inr hadded

theorem OnTable.create_added {request : CreateRequest} {s s' : σ} {k : IssuedKey}
    (hcreate : svc.create request s = (.ok k, s')) :
    k.Added svc request (table.get s) (table.get s') := by
  rcases h.create_cases hplugins request s with ⟨e, s₁, he, -⟩ | ⟨k₁, s₁, he, hadded⟩
  · rw [hcreate] at he
    cases he
  · rw [hcreate] at he
    cases he
    exact hadded

/-- Only issuing a key brings a record with its digest in. -/
theorem lacks_of_move {d : String} {s s' : σ} (hm : Move svc table (NotIssuing svc d) s s')
    (hs : (table.get s).Consistent)
    (hlacks : ∀ id r, (table.get s).records.get? id = some r → r.digest ≠ d) :
    ∀ id r, (table.get s').records.get? id = some r → r.digest ≠ d := by
  intro id r hr
  cases hm with
  | elsewhere he => exact hlacks id r (he ▸ hr)
  | call hc =>
      obtain ⟨hput, hissue⟩ := hc
      rcases Call.upkeep_or_create h (Pipeline.onlySpends_of_builtIn hplugins h.lawful) hs hput with
        hw | ⟨request, rfl⟩
      · obtain ⟨r₀, hr₀, hsame⟩ := hw.inherits lasting_sameIssue
          (fun _ _ hw => hw.inherits lasting_sameIssue) id r hr
        rw [hsame.1]
        exact hlacks id r₀ hr₀
      · rcases h.create_cases hplugins request s with ⟨e, s₁, he, hs₁⟩ | ⟨k, s₁, he, hadded⟩
        · rw [Call.after, he, hs₁] at hr
          exact hlacks id r hr
        · rw [Call.after, he, hadded.table_eq, records_add] at hr
          split at hr
          · cases hr
            rw [hadded.digest_eq]
            exact hissue request k s₁ rfl he
          · exact hlacks id r hr

theorem lacks_of_run {d : String} {s s' : σ} (hrun : Run svc table (NotIssuing svc d) s s')
    (hs : (table.get s).Consistent)
    (hlacks : ∀ id r, (table.get s).records.get? id = some r → r.digest ≠ d) :
    ∀ id r, (table.get s').records.get? id = some r → r.digest ≠ d := by
  have honly := Pipeline.onlySpends_of_builtIn hplugins h.lawful
  have hallowed : ∀ s c, NotIssuing svc d s c → c.Continues SameIssue (table.get s) :=
    fun _ _ hc r _ he _ => absurd he (hc.1 r)
  induction hrun with
  | refl => exact hlacks
  | tail hrun hm ih =>
      have hs₁ := Run.consistent h honly lasting_sameIssue hallowed hrun hs
      exact lacks_of_move h hplugins hm hs₁ ih

/-- The move that takes a record away leaves none with its digest. -/
theorem lacks_of_removal {id : KeyId} {r : KeyRecord} {s s' : σ}
    (hm : Move svc table ByService s s') (hs : (table.get s).Consistent)
    (hr : (table.get s).records.get? id = some r)
    (hgone : (table.get s').records.get? id = none) :
    ∀ id' r', (table.get s').records.get? id' = some r' → r'.digest ≠ r.digest := by
  intro id' r' hr' hdigest
  cases hm with
  -- Neither what happens elsewhere nor a creation takes a record away.
  | elsewhere he =>
      rw [he, hr] at hgone
      cases hgone
  | call hc =>
      rcases Call.upkeep_or_create h (Pipeline.onlySpends_of_builtIn hplugins h.lawful) hs hc with
        hw | ⟨request, rfl⟩
      · obtain ⟨r₀, hr₀, hsame⟩ := hw.inherits lasting_sameIssue
          (fun _ _ hw => hw.inherits lasting_sameIssue) id' r' hr'
        have hid := hs.digest_inj hr₀ hr (hsame.1.symm.trans hdigest)
        rw [hid, hgone] at hr'
        cases hr'
      · rcases h.create_cases hplugins request s with ⟨e, s₁, he, hs₁⟩ | ⟨k, s₁, he, hadded⟩
        · rw [Call.after, he, hs₁, hr] at hgone
          cases hgone
        · rw [Call.after, he, hadded.table_eq, records_add] at hgone
          split at hgone
          · cases hgone
          · rw [hr] at hgone
            cases hgone

/-- Everything that a verification asks of a record, with the plugins of the library. -/
theorem OnTable.verify_accepts {request : VerifyRequest} {s : σ} {r : KeyRecord}
    (hfields : ∀ d ∈ svc.plugins.requiredFields, request.hasField d.2)
    (hfound : (table.get s).lookup (svc.config.hasher.hash request.key) = some r)
    (hrevoked : r.isRevoked = false)
    (hpass : ∀ rejection, (svc.plugins.run (.recordLoaded request r) s).1 ≠ .ok (some rejection))
    (hclock : svc.now s ≤ .minuteBeforeLatest) (hexpired : r.isExpiredAt (svc.now s) = false)
    (hexhausted : r.isExhausted = false) :
    ∃ s', svc.verify request s = (.ok (.accepted r request.includeMetadata), s') := by
  have hcheck : svc.checkFields request s = (.ok (), s) := by
    unfold checkFields
    rw [List.find?_eq_none.2 (by intro d hd; simp [hfields d hd])]
    rfl
  have hbefore := Pipeline.run_of_ne hplugins (.beforeVerify request)
    (fun hphase => by cases hphase) s
  obtain ⟨answer, s₁, hloaded⟩ :=
    Pipeline.run_answers hplugins h.now_set (.recordLoaded request r) hclock
  cases answer with
  | some rejection =>
      refine absurd ?_ (hpass rejection)
      rw [hloaded]
  | none =>
      have hnow := Pipeline.run_keeps_now hplugins h.now_set (.recordLoaded request r) s
      rw [hloaded] at hnow
      obtain ⟨s₂, htrack, -⟩ := h.track_apply (.verified r.id r.owner request.partition) s₁
      have hverified := Pipeline.run_of_ne hplugins (.verified request r)
        (fun hphase => by cases hphase) s₂
      refine ⟨s₂, ?_⟩
      unfold Service.verify
      rw [bind_ok hcheck, bind_ok hbefore]
      dsimp only
      rw [bind_ok (h.lookup_apply request.key s), hfound]
      dsimp only
      unfold verifyRecord
      rw [if_neg (by simp [hrevoked]), bind_ok hloaded]
      dsimp only
      unfold verifyStanding
      rw [bind_ok (svc.clock_apply s₁), ← hnow, if_neg (by simp [hexpired]),
        if_neg (by simp [hexhausted]), bind_ok htrack, bind_ok hverified]
      rfl

/-- Until its record is removed, an issued key leads to it, and what was fixed when it was issued stays.
After the removal it leads to none until a key with its digest is issued. And right after it was
issued the key is valid, if there is nothing against it. -/
theorem issued_key_resolves {s₀ s₁ s₂ : σ} (hempty : table.get s₀ = {})
    (hrun : Run svc table ByService s₀ s₁) {request : CreateRequest} {k : IssuedKey}
    (hcreate : svc.create request s₁ = (.ok k, s₂)) :
    (∀ s, RunWith svc table ByService k.id s₂ s →
        ∃ r, svc.store.findByDigest (svc.config.hasher.hash k.key) s = (.ok (some r), s) ∧
          r.id = k.id ∧ SameIssue k.record r) ∧
      (∀ s s' s'', RunWith svc table ByService k.id s₂ s → Move svc table ByService s s' →
        (table.get s').records.get? k.id = none →
        Run svc table (NotIssuing svc (svc.config.hasher.hash k.key)) s' s'' →
        svc.store.findByDigest (svc.config.hasher.hash k.key) s'' = (.ok none, s'')) ∧
      ∀ s (check : VerifyRequest), table.get s = table.get s₂ → check.key = k.key →
        (∀ d ∈ svc.plugins.requiredFields, check.hasField d.2) →
        (∀ rejection,
          (svc.plugins.run (.recordLoaded check k.record) s).1 ≠ .ok (some rejection)) →
        svc.now s ≤ .minuteBeforeLatest →
        (∀ at', k.record.expiresAt = some at' → svc.now s < at') →
        (∀ n, k.record.uses = some n → 0 < n) →
        ∃ o s', svc.verify check s = (.ok o, s') ∧ o.valid = true ∧ o.keyId = some k.id := by
  have honly := Pipeline.onlySpends_of_builtIn hplugins h.lawful
  have hallowed : ∀ s c, ByService s c → c.Continues SameIssue (table.get s) :=
    fun s _ hc => hc.continues SameIssue (table.get s)
  have hs₁ : (table.get s₁).Consistent := by
    refine Run.consistent h honly lasting_sameIssue hallowed hrun ?_
    rw [hempty]
    exact consistent_empty
  have hadded := h.create_added hplugins hcreate
  have hs₂ := hadded.consistent hs₁
  have hlater : ∀ {s}, RunWith svc table ByService k.id s₂ s → (table.get s).Consistent ∧
      ∃ r, (table.get s).records.get? k.id = some r ∧ SameIssue k.record r := fun hrun =>
    ⟨Run.consistent h honly lasting_sameIssue hallowed hrun.run hs₂,
      hrun.lasts h honly lasting_sameIssue hallowed hs₂ hadded.stored⟩
  have hfind : ∀ s, svc.store.findByDigest (svc.config.hasher.hash k.key) s =
      (.ok ((table.get s).lookup (svc.config.hasher.hash k.key)), s) := by
    intro s
    rw [h.store_eq]
    exact KeyStore.memory_findByDigest h.lawful _ s
  refine ⟨?_, ?_, ?_⟩
  · intro s hrun
    obtain ⟨hs, r, hr, hsame⟩ := hlater hrun
    have hid := hs.id_eq hr
    refine ⟨r, ?_, hid, hsame⟩
    rw [hfind, hs.lookup_eq_some_iff.2 ⟨hid ▸ hr, hsame.1.trans hadded.digest_eq⟩]
  · intro s s' s'' hrun hmove hgone hquiet
    obtain ⟨hs, r, hr, hsame⟩ := hlater hrun
    have hs' := hmove.consistent h honly lasting_sameIssue hallowed hs
    have hlacks := lacks_of_removal h hplugins hmove hs hr hgone
    rw [hsame.1, hadded.digest_eq] at hlacks
    have hs'' := Run.consistent h honly lasting_sameIssue
      (fun _ _ hc r _ he _ => absurd he (hc.1 r)) hquiet hs'
    rw [hfind, hs''.lookup_eq_none_iff.2 (lacks_of_run h hplugins hquiet hs' hlacks)]
  · intro s check hsame hkey hfields hpass hclock hexpiry huses
    have hfound : (table.get s).lookup (svc.config.hasher.hash check.key) = some k.record := by
      rw [hsame, hkey, hs₂.lookup_eq_some_iff, hadded.id_eq]
      exact ⟨hadded.stored, hadded.digest_eq⟩
    have hexpired : k.record.isExpiredAt (svc.now s) = false := by
      unfold KeyRecord.isExpiredAt
      split
      · rename_i at' hat
        exact decide_eq_false (Instant.not_le.2 (hexpiry at' hat))
      · rfl
    have hexhausted : k.record.isExhausted = false := by
      unfold KeyRecord.isExhausted
      split
      · rename_i n hn
        exact decide_eq_false (Int64.not_le.2 (huses n hn))
      · rfl
    obtain ⟨s', hs'⟩ := h.verify_accepts hplugins hfields hfound hadded.isRevoked_eq hpass hclock
      hexpired hexhausted
    exact ⟨_, s', hs', rfl, congrArg some hadded.id_eq⟩

end Service

namespace World

/-- The plugins of the library, with rates counted in memory. -/
def plugins : Pipeline World :=
  [Plugin.rateLimit ⟨site.rates, .window ⟨5, 1000⟩, some "main", .key⟩,
    Plugin.usageLimits ⟨site.keys⟩, Plugin.scopes]

theorem plugins_builtIn : ∀ p ∈ plugins, p.BuiltIn keysPart now := by
  intro p hp
  simp only [plugins, List.mem_cons, List.not_mem_nil, or_false] at hp
  rcases hp with rfl | rfl | rfl
  · exact .rateLimit _ (RateStore.memory_apart (fun _ _ => rfl) fun _ _ => rfl)
  · exact .usageLimits
  · exact .scopes

def guarded : Service World := service plugins sameKey

/-- What there is after the first key is issued. -/
def withKey : World := (guarded.create {} {}).2

def withoutKey : World := (guarded.remove firstId withKey).2

end World

namespace Service

/-- The first key of a service in memory is found and valid, and after its removal not found. -/
theorem first_key_resolves :
    (∃ r, World.guarded.store.findByDigest "k" World.withKey = (.ok (some r), World.withKey) ∧
        r.id = World.firstId) ∧
      (∃ o s, World.guarded.verify { key := "k" } World.withKey = (.ok o, s) ∧ o.valid = true ∧
        o.keyId = some World.firstId) ∧
      World.guarded.store.findByDigest "k" World.withoutKey = (.ok none, World.withoutKey) := by
  have h : World.guarded.OnTable World.keysPart := World.service_onTable _ _
  have hcreate : World.guarded.create {} {} = (.ok ⟨World.firstId, "k",
      newRecord {} World.firstId "" "k" .epoch⟩, World.withKey) := rfl
  obtain ⟨hfind, hgone, hvalid⟩ := issued_key_resolves h World.plugins_builtIn rfl
    Relation.ReflTransGen.refl hcreate
  have hpass : (World.guarded.plugins.run (.recordLoaded { key := "k" }
      (newRecord {} World.firstId "" "k" .epoch)) World.withKey).1 = .ok none := rfl
  have hremoved : Move World.guarded World.keysPart ByService World.withKey World.withoutKey :=
    .call (c := .remove World.firstId) fun _ hc => by cases hc
  refine ⟨?_, ?_, ?_⟩
  · obtain ⟨r, hr, hid, -⟩ := hfind World.withKey Relation.ReflTransGen.refl
    exact ⟨r, hr, hid⟩
  · refine hvalid World.withKey { key := "k" } rfl rfl (fun d hd => by cases hd) ?_ ?_ ?_ ?_
    · intro rejection he
      rw [hpass] at he
      cases he
    · exact .inl (by decide)
    · intro at' hat
      cases hat
    · intro n hn
      cases hn
  · exact hgone World.withKey World.withoutKey World.withoutKey Relation.ReflTransGen.refl hremoved
      rfl Relation.ReflTransGen.refl

end Service

end Latchkey
