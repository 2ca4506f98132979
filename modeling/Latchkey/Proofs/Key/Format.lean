import Latchkey.Key.Record
import Latchkey.Proofs.Time.Text
/-!
# The format of records

A record with a fit identifier is read back from the JSON written for it, whichever of its optional
fields it has. What is read from any JSON is such a record, so writing and reading it again changes
nothing.
-/

namespace Latchkey

namespace Json

namespace Slot

/-- What an object has for one field. -/
def ofEntry : Option Json → Slot
  | some j => value j
  | none => missing

/-- A field left out where there is nothing is read as nothing, and any other as its value. -/
theorem optional_ofEntry {α : Type} (encode : α → Json) {decode : Json → Option α}
    (hdecode : ∀ a, decode (encode a) = some a) (hnull : ∀ a, encode a ≠ .null) (a : Option α) :
    (ofEntry (a.map encode)).optional decode = some a := by
  cases a with
  | none => rfl
  | some a =>
      change nullable decode (encode a) = some (some a)
      unfold nullable
      split
      · rename_i h
        exact absurd h (hnull a)
      · rw [hdecode, Option.map_some]

end Slot

theorem slots?_object (names : List String) (entries : List (String × Json)) :
    slots? names (.object entries) =
      some (names.map fun name => Slot.ofEntry (entries.lookup name)) := rfl

theorem lookup_cons (name name' : String) (value : Json) (rest : List (String × Json)) :
    ((name, value) :: rest).lookup name' =
      if name' = name then some value else rest.lookup name' := by
  by_cases h : name' = name
  · simp [h]
  · simp [h, List.lookup_cons, beq_false_of_ne h]

theorem lookup_optional_append (name name' : String) (value : Option Json)
    (rest : List (String × Json)) :
    (optional name value ++ rest).lookup name' =
      if name' = name then value.or (rest.lookup name') else rest.lookup name' := by
  cases value with
  | none => simp [optional]
  | some j => exact lookup_cons name name' j rest

theorem int64?_ofInt64 (n : Int64) : int64? (ofInt64 n) = some n := by
  have hlow := n.le_toInt
  have hhigh := n.toInt_lt
  simp only [ofInt64, int64?]
  rw [if_pos (by omega), Int64.ofInt_toInt]

theorem instant?_ofInstant (t : Instant) : instant? (ofInstant t) = some t := by
  simp only [instant?, ofInstant, string?, Option.bind_some, Instant.ofText?_text]

end Json

namespace Metadata

theorem ofJson?_toJson (m : Metadata) : ofJson? m.toJson = some m :=
  congrArg some (Table.ofList_entries m)

end Metadata

namespace KeyId

theorem ofText_eq_ok_iff {text : String} {id : KeyId} :
    ofText text = .ok id ↔ fault? text = none ∧ id.text = text := by
  unfold ofText
  cases fault? text with
  | some f => simp
  | none =>
      cases id
      simp [eq_comm]

end KeyId

theorem Json.keyId?_string {id : KeyId} (h : KeyId.ofText id.text = .ok id) :
    keyId? (.string id.text) = some id := by
  simp [keyId?, string?, h, Except.toOption]

/-- An identifier that was read is fit to be one. -/
theorem Json.ofText_of_keyId? {j : Json} {id : KeyId} (h : keyId? j = some id) :
    KeyId.ofText id.text = .ok id := by
  unfold keyId? at h
  cases hj : j.string? with
  | none => simp [hj] at h
  | some text =>
      cases hid : KeyId.ofText text with
      | error f => simp [hj, hid, Except.toOption] at h
      | ok id' =>
          obtain rfl : id' = id := by simpa [hj, hid, Except.toOption] using h
          rwa [(KeyId.ofText_eq_ok_iff.1 hid).2]

namespace KeyRecord

theorem slots?_toJson (r : KeyRecord) :
    Json.slots? fieldNames r.toJson =
      some [.value (.string r.id.text), .ofEntry (r.owner.map .string), .value (.string r.label),
        .value (.string r.digest), .value (.ofInstant r.createdAt),
        .ofEntry (r.expiresAt.map .ofInstant), .ofEntry (r.uses.map .ofInt64),
        .ofEntry (r.revokedAt.map .ofInstant), .value r.metadata.toJson] := by
  simp [toJson, Json.slots?_object, fieldNames, Json.lookup_cons, Json.lookup_optional_append,
    Json.Slot.ofEntry]

theorem ofJson?_toJson {r : KeyRecord} (h : KeyId.ofText r.id.text = .ok r.id) :
    ofJson? r.toJson = some r := by
  have howner : (Json.Slot.ofEntry (r.owner.map .string)).optional Json.string? = some r.owner :=
    Json.Slot.optional_ofEntry .string (fun _ => rfl) (fun _ h => by cases h) r.owner
  have hinstant := Json.Slot.optional_ofEntry .ofInstant Json.instant?_ofInstant (fun _ h => by cases h)
  have huses := Json.Slot.optional_ofEntry .ofInt64 Json.int64?_ofInt64 (fun _ h => by cases h) r.uses
  unfold ofJson?
  rw [slots?_toJson]
  simp [Json.Slot.required, Json.Slot.withDefault, Json.keyId?_string h, Json.string?, howner,
    Json.instant?_ofInstant, hinstant, huses, Metadata.ofJson?_toJson]

theorem ofText_of_ofJson? {j : Json} {r : KeyRecord} (h : ofJson? j = some r) :
    KeyId.ofText r.id.text = .ok r.id := by
  obtain ⟨slots, -, h⟩ := Option.bind_eq_some_iff.1 h
  split at h
  · rename_i id owner label digest createdAt expiresAt uses revokedAt metadata
    obtain ⟨id', hid, h⟩ := Option.bind_eq_some_iff.1 h
    have hr : r.id = id' := by
      simp only [Option.bind_eq_bind, Option.bind_eq_some_iff, Option.some_inj] at h
      obtain ⟨_, -, _, -, _, -, _, -, _, -, _, -, _, -, _, -, rfl⟩ := h
      rfl
    cases id with
    | value j => exact hr ▸ Json.ofText_of_keyId? hid
    | missing => cases hid
    | ended => cases hid
  · cases h

/-- Records are read back from what is written for them, and reading gives no record for which this
would fail. -/
theorem format_round_trips :
    (∀ r : KeyRecord, KeyId.ofText r.id.text = .ok r.id → ofJson? r.toJson = some r) ∧
      ∀ (j : Json) (r : KeyRecord), ofJson? j = some r →
        ofJson? r.toJson = some r ∧ KeyId.ofText r.id.text = .ok r.id := by
  refine ⟨fun r h => ofJson?_toJson h, fun j r h => ?_⟩
  have hid := ofText_of_ofJson? h
  exact ⟨ofJson?_toJson hid, hid⟩

/-- A record read from an object with a field of another name, `null` for an option and no metadata. -/
theorem format_round_trips_limited :
    let r : KeyRecord := { fresh ⟨"key_1"⟩ "sk_" "digest" .epoch with uses := some 3 }
    let j : Json := .object [("hash", .string "digest"), ("id", .string "key_1"), ("color", .int 1),
      ("prefix", .string "sk_"), ("created_at", .string "1970-01-01T00:00:00Z"),
      ("owner_id", .null), ("uses_remaining", .int 3)]
    (KeyId.ofText r.id.text = .ok r.id ∧ ofJson? r.toJson = some r) ∧
      ofJson? j = some r ∧ ofJson? r.toJson = some r ∧ KeyId.ofText r.id.text = .ok r.id := by
  intro r j
  have hid : KeyId.ofText r.id.text = .ok r.id := KeyId.ofText_eq_ok_iff.2 ⟨by decide, rfl⟩
  have hj : ofJson? j = some r := by
    rfl
  exact ⟨⟨hid, format_round_trips.1 r hid⟩, hj, format_round_trips.2 j r hj⟩

end KeyRecord

end Latchkey
