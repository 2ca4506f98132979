import Latchkey.Proofs.Service.Revocation
/-!
# Changes to one record

Revoking, moving the expiry, adding metadata and the two ways to set the uses left all go by the same
course: the record is loaded, one field of it is given a new value, and what is stored afterwards is what
the caller is told. All but the first write the whole record back, through a store that puts a revocation
of its own into what it is given, so that this takes a proof for each.
-/

namespace Latchkey

open Act KeyTable

/-- The later entries win, and under every other name the earlier ones stay. -/
theorem Metadata.get?_merge (m patch : Metadata) (name : String) :
    (m.merge patch).get? name = (patch.get? name).or (m.get? name) := by
  obtain ⟨entries, hdistinct⟩ := patch
  change (entries.foldl (fun m entry => m.insert entry.1 entry.2) m).get? name =
    (Table.find? name entries).or (m.get? name)
  induction entries generalizing m with
  | nil => rfl
  | cons entry entries ih =>
      obtain ⟨first, value⟩ := entry
      obtain ⟨hfirst, hrest⟩ := List.nodup_cons.1 hdistinct
      rw [List.foldl_cons, ih (m.insert first value) hrest, Table.get?_insert, Table.find?]
      by_cases he : first = name
      · -- The rest of the patch has no entry of this name any more.
        subst he
        rw [if_pos rfl, if_pos rfl, Table.find?_eq_none_iff.2 hfirst]
        rfl
      · rw [if_neg he, if_neg he]

namespace KeyRecord

theorem revoke_eq (r : KeyRecord) (now : Instant) :
    r.revoke now = { r with revokedAt := some (r.revokedAt.getD now) } := by
  unfold revoke
  cases r.revokedAt <;> rfl

theorem revoke_of_isRevoked {r : KeyRecord} {now : Instant} (h : r.isRevoked) : r.revoke now = r := by
  obtain ⟨at', hat⟩ := Option.isSome_iff_exists.1 h
  rw [revoke_eq, hat, Option.getD_some, ← hat]

end KeyRecord

theorem Service.OnTable.revoke_apply {σ : Type} {svc : Service σ} {table : Lens σ KeyTable}
    (h : svc.OnTable table) (id : KeyId) (s : σ) :
    svc.revoke id s =
      match (table.get s).records.get? id with
      | none => (.ok none, s)
      | some r =>
        if r.isRevoked then (.ok (some r), s)
        else (.ok (some (r.revoke (svc.now s))), (svc.track (.revoked id)
          (table.set ((table.get s).modifyRecord id (·.revoke (svc.now s))) s)).2) := by
  have hstored : svc.store.revoke id (svc.now s) s =
      (.ok (), table.set ((table.get s).modifyRecord id (·.revoke (svc.now s))) s) := by
    rw [h.store_eq]
    rfl
  unfold Service.revoke
  rw [bind_ok (h.load_apply id s)]
  cases hr : (table.get s).records.get? id with
  | none => rfl
  | some r =>
      dsimp only
      split
      · rfl
      · rw [bind_ok (svc.clock_apply s),
          bind_ok (access_ok hstored)]
        rfl

inductive Change where
  | revoke
  | extend (span : Duration)
  | updateMetadata (patch : Metadata)
  | topUp (amount : Int64)
  | setRemaining (uses : Option Int64)

namespace Change

variable {σ : Type}

def perform (svc : Service σ) (id : KeyId) : Change → Act σ Error (Option KeyRecord)
  | revoke => svc.revoke id
  | extend span => svc.extend id span
  | updateMetadata patch => svc.updateMetadata id patch
  | topUp amount => UsageLimits.topUp ⟨svc.store⟩ id amount
  | setRemaining uses => UsageLimits.setRemaining ⟨svc.store⟩ id uses

/-- What a change makes of a record at a time. Each has its one field. -/
inductive Makes (now : Instant) (r : KeyRecord) : Change → KeyRecord → Prop where
  | revoke : Makes now r revoke { r with revokedAt := some (r.revokedAt.getD now) }
  | extend {span : Duration} {expiry : Instant}
    (h : (r.expiresAt.getD now).add? span = some expiry) :
    Makes now r (extend span) { r with expiresAt := some expiry }
  | updateMetadata {patch metadata : Metadata}
    (h : ∀ name, metadata.get? name = (patch.get? name).or (r.metadata.get? name)) :
    Makes now r (updateMetadata patch) { r with metadata }
  | topUp {amount : Int64} :
    Makes now r (topUp amount) { r with uses := r.uses.map (UsageLimits.toppedUp · amount) }
  | setRemaining {uses : Option Int64} : Makes now r (setRemaining uses) { r with uses }

/-- The expiry would leave the range of instants. -/
def LeavesRange (now : Instant) (r : KeyRecord) (c : Change) : Prop :=
  ∃ span, c = .extend span ∧ (r.expiresAt.getD now).add? span = none

def outOfRange : Error := .validation "expiry extension is out of the representable range"

/-- `u` has `r` in the place of the record of `id`, and is `t` otherwise. -/
structure Puts (id : KeyId) (r : KeyRecord) (t u : KeyTable) : Prop where
  index_eq : u.index = t.index
  records_eq : ∀ id', u.records.get? id' = if id = id' then some r else t.records.get? id'

/-- The ways in which a change ends, with its answer and the state that it leaves. -/
inductive Course (svc : Service σ) (table : Lens σ KeyTable) (id : KeyId) (s : σ) (c : Change) :
    Except (Failure Error) (Option KeyRecord) → σ → Prop where
  | absent (h : (table.get s).records.get? id = none) : Course svc table id s c (.ok none) s
  | refused {r : KeyRecord} (hr : (table.get s).records.get? id = some r)
    (h : c.LeavesRange (svc.now s) r) : Course svc table id s c (.error (.error outOfRange)) s
  | made {r r' : KeyRecord} {s' : σ} (hr : (table.get s).records.get? id = some r)
    (hmakes : c.Makes (svc.now s) r r') (hputs : Puts id r' (table.get s) (table.get s')) :
    Course svc table id s c (.ok (some r')) s'

theorem Puts.refl {id : KeyId} {r : KeyRecord} {t : KeyTable} (hr : t.records.get? id = some r) :
    Puts id r t t := by
  refine ⟨rfl, fun id' => ?_⟩
  split
  · rename_i he
    rw [← he, hr]
  · rfl

theorem Puts.modifyRecord {id : KeyId} {r : KeyRecord} {t : KeyTable}
    (hr : t.records.get? id = some r) (f : KeyRecord → KeyRecord) :
    Puts id (f r) t (t.modifyRecord id f) := by
  refine ⟨rfl, fun id' => ?_⟩
  rw [records_modifyRecord]
  split
  · rename_i he
    rw [← he, hr]
    rfl
  · rfl

/-- The store puts into what it is given the revocation that is there, which is no change. -/
theorem Puts.replace {id : KeyId} {r r' : KeyRecord} {t : KeyTable} (ht : t.Consistent)
    (hr : t.records.get? id = some r) (hid : r'.id = r.id) (hdigest : r'.digest = r.digest)
    (hrevoked : r'.revokedAt = r.revokedAt) : Puts id r' t (t.replace r r') := by
  have hmerged : { r' with revokedAt := r.revokedAt <|> r'.revokedAt } = r' := by
    rw [← hrevoked]
    obtain ⟨_, _, _, _, _, _, _, _ | _, _⟩ := r' <;> rfl
  refine ⟨index_replace_of_eq hdigest.symm, fun id' => ?_⟩
  rw [records_replace, hmerged, hid, ht.id_eq hr]

theorem Makes.not_leavesRange {now : Instant} {r r' : KeyRecord} {c : Change} (h : c.Makes now r r') :
    ¬c.LeavesRange now r := by
  rintro ⟨span, rfl, hnone⟩
  cases h with
  | extend hsome =>
      rw [hnone] at hsome
      cases hsome

/-- What holds of the answer and the state that a change leaves. -/
structure TouchesOneField (svc : Service σ) (table : Lens σ KeyTable) (id : KeyId) (s : σ) (c : Change)
    (result : Except (Failure Error) (Option KeyRecord)) (s' : σ) : Prop where
  index_kept : (table.get s').index = (table.get s).index
  others_kept : ∀ id', id' ≠ id → (table.get s').records.get? id' = (table.get s).records.get? id'
  none_iff : result = .ok none ↔ (table.get s).records.get? id = none
  kept : (∀ r', result ≠ .ok (some r')) → s' = s
  /-- What is answered is what is stored, and comes from what was stored by the change. -/
  stored : ∀ r', result = .ok (some r') → svc.get id s' = (.ok (some r'), s') ∧
    ∃ r, (table.get s).records.get? id = some r ∧ c.Makes (svc.now s) r r'
  fails_iff : (∃ e, result = .error e) ↔
    ∃ r, (table.get s).records.get? id = some r ∧ c.LeavesRange (svc.now s) r
  failure : ∀ e, result = .error e → ∃ e', e = .error e' ∧ e'.code = .validationFailed

section OnTable

variable {svc : Service σ} {table : Lens σ KeyTable} (h : svc.OnTable table) {s : σ}

include h

/-- Every change follows the course. -/
theorem perform_course (hs : (table.get s).Consistent) (c : Change) (id : KeyId) :
    Course svc table id s c (c.perform svc id s).1 (c.perform svc id s).2 := by
  have hmade : ∀ {r r' : KeyRecord}, (table.get s).records.get? id = some r →
      c.Makes (svc.now s) r r' → r'.id = r.id → r'.digest = r.digest →
      r'.revokedAt = r.revokedAt →
      Course svc table id s c (.ok (some r')) (table.set ((table.get s).replace r r') s) := by
    intro r r' hr hmakes hid hdigest hrevoked
    refine .made hr hmakes ?_
    rw [h.lawful.get_set]
    exact .replace hs hr hid hdigest hrevoked
  cases c with
  | revoke =>
      change Course svc table id s _ (svc.revoke id s).1 (svc.revoke id s).2
      rw [h.revoke_apply]
      cases hr : (table.get s).records.get? id with
      | none => exact .absent hr
      | some r =>
          have hmakes : Change.revoke.Makes (svc.now s) r (r.revoke (svc.now s)) :=
            r.revoke_eq _ ▸ .revoke
          dsimp only
          split
          · rename_i hrevoked
            rw [KeyRecord.revoke_of_isRevoked hrevoked] at hmakes
            exact .made hr hmakes (.refl hr)
          · refine .made hr hmakes ?_
            rw [← h.track_within _ _, h.lawful.get_set]
            exact .modifyRecord hr (·.revoke (svc.now s))
  | extend span =>
      change Course svc table id s _ (svc.extend id span s).1 (svc.extend id span s).2
      rw [h.extend_apply hs.ownIds]
      cases hr : (table.get s).records.get? id with
      | none => exact .absent hr
      | some r =>
          dsimp only
          cases hsum : (r.expiresAt.getD (svc.now s)).add? span with
          | none => exact .refused hr ⟨span, rfl, hsum⟩
          | some expiry => exact hmade hr (.extend hsum) rfl rfl rfl
  | updateMetadata patch =>
      change Course svc table id s _ (svc.updateMetadata id patch s).1
        (svc.updateMetadata id patch s).2
      rw [h.updateMetadata_apply hs.ownIds]
      cases hr : (table.get s).records.get? id with
      | none => exact .absent hr
      | some r => exact hmade hr (.updateMetadata (r.metadata.get?_merge patch)) rfl rfl rfl
  | topUp amount =>
      change Course svc table id s _ (UsageLimits.topUp ⟨svc.store⟩ id amount s).1
        (UsageLimits.topUp ⟨svc.store⟩ id amount s).2
      rw [h.topUp_apply hs.ownIds]
      cases hr : (table.get s).records.get? id with
      | none => exact .absent hr
      | some r =>
          have hmakes : Makes (svc.now s) r (.topUp amount) _ := .topUp
          dsimp only
          cases huses : r.uses with
          | none =>
              rw [huses, Option.map_none, ← huses] at hmakes
              exact .made hr hmakes (.refl hr)
          | some left =>
              rw [huses, Option.map_some] at hmakes
              exact hmade hr hmakes rfl rfl rfl
  | setRemaining uses =>
      change Course svc table id s _ (UsageLimits.setRemaining ⟨svc.store⟩ id uses s).1
        (UsageLimits.setRemaining ⟨svc.store⟩ id uses s).2
      rw [h.setRemaining_apply hs.ownIds]
      cases hr : (table.get s).records.get? id with
      | none => exact .absent hr
      | some r => exact hmade hr .setRemaining rfl rfl rfl

theorem Course.touchesOneField {c : Change} {id : KeyId}
    {result : Except (Failure Error) (Option KeyRecord)} {s' : σ}
    (hcourse : Course svc table id s c result s') : TouchesOneField svc table id s c result s' := by
  have hreads := h.load_apply id s'
  cases hcourse with
  | absent hnone =>
      refine ⟨rfl, fun _ _ => rfl, iff_of_true rfl hnone, fun _ => rfl, by rintro _ ⟨⟩, ?_,
        by rintro _ ⟨⟩⟩
      rw [hnone]
      refine iff_of_false ?_ ?_
      · rintro ⟨_, ⟨⟩⟩
      · rintro ⟨_, ⟨⟩, _⟩
  | @refused r hr hrange =>
      refine ⟨rfl, fun _ _ => rfl, ?_, fun _ => rfl, by rintro _ ⟨⟩, ?_, ?_⟩
      · rw [hr]
        exact iff_of_false (by rintro ⟨⟩) (by rintro ⟨⟩)
      · exact iff_of_true ⟨_, rfl⟩ ⟨r, hr, hrange⟩
      · rintro _ ⟨⟩
        exact ⟨outOfRange, rfl, rfl⟩
  | @made r r' _ hr hmakes hputs =>
      refine ⟨hputs.index_eq, fun id' hne => ?_, ?_, fun hno => absurd rfl (hno r'), ?_, ?_,
        by rintro _ ⟨⟩⟩
      · rw [hputs.records_eq, if_neg (Ne.symm hne)]
      · rw [hr]
        exact iff_of_false (by rintro ⟨⟩) (by rintro ⟨⟩)
      · rintro _ ⟨⟩
        rw [hputs.records_eq, if_pos rfl] at hreads
        exact ⟨hreads, r, hr, hmakes⟩
      · refine iff_of_false (by rintro ⟨_, ⟨⟩⟩) ?_
        rintro ⟨r₀, hr₀, hrange⟩
        rw [hr] at hr₀
        cases hr₀
        exact hmakes.not_leavesRange hrange

/-- A change touches one field of one record. It answers with the record as it is stored then; it answers
with none if there is no record, and with an error if the new expiry is out of range, and has then changed
nothing at all. -/
theorem change_touches_one_field (hs : (table.get s).Consistent) (c : Change) (id : KeyId) :
    TouchesOneField svc table id s c (c.perform svc id s).1 (c.perform svc id s).2 :=
  Course.touchesOneField h (perform_course h hs c id)

end OnTable

/-- A key without a limit is given one, and is read with it from then on. -/
theorem limit_read_back :
    let svc := World.service [] World.sameKey
    let issued := (svc.create {} {}).2
    let limited := (Change.setRemaining (some 3)).perform svc World.firstId issued
    ∃ r', limited.1 = .ok (some r') ∧ r'.uses = some 3 ∧
      svc.get World.firstId limited.2 = (.ok (some r'), limited.2) := by
  intro svc issued limited
  have h := World.service_onTable [] World.sameKey
  have hissued := World.consistent_of_create World.sameKey {}
  have hmade : limited.1 = .ok (some _) := rfl
  have htouches := change_touches_one_field h hissued (.setRemaining (some 3)) World.firstId
  exact ⟨_, hmade, rfl, (htouches.stored _ hmade).1⟩

end Change

end Latchkey
