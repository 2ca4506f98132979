import Mathlib.Algebra.Order.Floor.Div
import Mathlib.Data.String.Basic
import Mathlib.Probability.Distributions.Uniform
import Latchkey.Crypto.Entropy
import Latchkey.Proofs.Key.Drawing
import Latchkey.Proofs.Text.Preimages
/-!
# The bodies of keys

The body of a key has as many characters as were asked for, all of the alphabet of its kind. It takes the
fewest whole bytes that have as many bits as the characters show, and each text that can be a body comes
from equally many strings of so many bytes: random bytes make every body with the same probability.
-/

namespace Latchkey

open Act Bytes

/-! ### Characters -/

theorem getD_mem {alphabet : List Char} {c : Char} (h : c ∈ alphabet) (n : Nat) :
    alphabet.getD n c ∈ alphabet := by
  rcases Nat.lt_or_ge n alphabet.length with hn | hn
  · rw [List.getD_eq_getElem _ _ hn]
    exact List.getElem_mem hn
  · rw [List.getD_eq_default _ _ hn]
    exact h

namespace Base64Url

theorem digit_mem (n : Nat) : digit n ∈ alphabet := getD_mem (by decide) n

theorem mem_alphabet_of_mem_chars {bytes : Bytes} : ∀ c ∈ chars bytes, c ∈ alphabet := by
  fun_induction chars bytes with
  | case1 a b c rest n ih => simpa [digit_mem] using ih
  | case2 a b n => simp [digit_mem]
  | case3 a => simp [digit_mem]
  | case4 => simp

theorem length_chars (bytes : Bytes) : (chars bytes).length = (bytes.length * 4 + 2) / 3 := by
  fun_induction chars bytes with
  | case1 a b c rest n ih =>
      simp only [List.length_cons, ih]
      omega
  | case2 => simp
  | case3 => simp
  | case4 => simp

end Base64Url

namespace Hex

theorem digit_mem (n : Nat) : digit n ∈ alphabet := getD_mem (by decide) n

theorem mem_alphabet_of_mem_chars {bytes : Bytes} : ∀ c ∈ chars bytes, c ∈ alphabet := by
  intro c hc
  obtain ⟨byte, -, hc⟩ := List.mem_flatMap.1 hc
  rcases List.mem_pair.1 hc with rfl | rfl <;> exact digit_mem _

theorem length_chars (bytes : Bytes) : (chars bytes).length = bytes.length * 2 := by
  induction bytes with
  | nil => rfl
  | cons byte rest ih =>
      simp only [chars, List.flatMap_cons, List.length_append] at ih ⊢
      simp only [ih, List.length_cons, List.length_nil]
      omega

end Hex

namespace Crockford

theorem mem_alphabet_of_mem_chars {bytes : Bytes} : ∀ c ∈ chars bytes, c ∈ alphabet := by
  intro c hc
  obtain ⟨byte, -, rfl⟩ := List.mem_map.1 hc
  exact getD_mem (by decide) _

end Crockford

/-! ### Shapes -/

/-- What a body is made of. -/
structure BodyShape where
  alphabet : List Char
  length : Nat
  /-- The random bytes that it takes. -/
  bytes : Nat

/-- The texts that can be a body. -/
def BodyShape.texts (shape : BodyShape) : Set String :=
  {text | text.length = shape.length ∧ ∀ c ∈ text.toList, c ∈ shape.alphabet}

theorem BodyShape.exists_digits {shape : BodyShape} {text : String} (h : text ∈ shape.texts) (c : Char) :
    ∃ digits : List Nat, digits.length = shape.length ∧ (∀ t ∈ digits, t < shape.alphabet.length) ∧
      text.toList = digits.map (shape.alphabet.getD · c) := by
  obtain ⟨hlength, halphabet⟩ := h
  obtain ⟨digits, hlt, hdigits⟩ := Latchkey.exists_digits halphabet (c := c)
  refine ⟨digits, ?_, hlt, hdigits⟩
  rw [← hlength, ← String.length_toList, hdigits, List.length_map]

namespace KeyKind

/-- The shape of a body that is not one of a fixed form. -/
def shape? : KeyKind → Option BodyShape
  | urlSafe n => some ⟨Base64Url.alphabet, n, (3 * n) ⌈/⌉ 4⟩
  | hex n => some ⟨Hex.alphabet, n, n ⌈/⌉ 2⟩
  | crockford n => some ⟨Crockford.alphabet, n, n⟩
  | uuid | custom _ => none

variable {kind : KeyKind} {shape : BodyShape}

theorem nodup_of_shape? (h : kind.shape? = some shape) : shape.alphabet.Nodup := by
  match kind, h with
  | urlSafe n, rfl => exact (by decide : Base64Url.alphabet.Nodup)
  | hex n, rfl => exact (by decide : Hex.alphabet.Nodup)
  | crockford n, rfl => exact (by decide : Crockford.alphabet.Nodup)

theorem byteCount_of_shape? (h : kind.shape? = some shape) : kind.byteCount = shape.bytes := by
  match kind, h with
  | urlSafe n, rfl => simp [byteCount, Nat.ceilDiv_eq_add_pred_div, Nat.mul_comm]
  | hex n, rfl => simp [byteCount, Nat.ceilDiv_eq_add_pred_div]
  | crockford n, rfl => rfl

example : [urlSafe 5, hex 5, crockford 5, uuid].map
    (fun kind => kind.shape?.map fun shape => (shape.alphabet.length, shape.bytes)) =
      [some (64, 4), some (16, 3), some (32, 5), none] := by
  decide

theorem body_mem_texts (h : kind.shape? = some shape) {bytes : Bytes}
    (hbytes : bytes.length = shape.bytes) : kind.body bytes ∈ shape.texts := by
  rw [← byteCount_of_shape? h] at hbytes
  match kind, h with
  | urlSafe n, rfl =>
      have hlength : n ≤ (Base64Url.chars bytes).length := by
        rw [Base64Url.length_chars, hbytes, byteCount]
        omega
      refine ⟨?_, fun c hc => ?_⟩
      · rw [body, String.length_ofList, List.length_take_of_le hlength]
      · rw [body, String.toList_ofList] at hc
        exact Base64Url.mem_alphabet_of_mem_chars c (List.mem_of_mem_take hc)
  | hex n, rfl =>
      have hlength : n ≤ (Hex.chars bytes).length := by
        rw [Hex.length_chars, hbytes, byteCount]
        omega
      refine ⟨?_, fun c hc => ?_⟩
      · rw [body, String.length_ofList, List.length_take_of_le hlength]
      · rw [body, String.toList_ofList] at hc
        exact Hex.mem_alphabet_of_mem_chars c (List.mem_of_mem_take hc)
  | crockford n, rfl =>
      refine ⟨?_, fun c hc => ?_⟩
      · rw [body, String.length_ofList, Crockford.length_chars, hbytes, byteCount]
      · rw [body, String.toList_ofList] at hc
        exact Crockford.mem_alphabet_of_mem_chars c hc

/-- All texts of the shape come from equally many strings. -/
theorem ways_mul_of_shape? (h : kind.shape? = some shape) {text : String} (htext : text ∈ shape.texts) :
    ways shape.bytes (fun bytes => kind.body bytes = text) * shape.alphabet.length ^ shape.length =
      256 ^ shape.bytes := by
  have hcount := byteCount_of_shape? h
  match kind, h with
  | urlSafe n, rfl =>
      obtain ⟨digits, hn, hlt, hdigits⟩ := BodyShape.exists_digits htext 'A'
      rw [← Base64Url.ways_mul hcount.symm digits hn hlt]
      refine congrArg (· * 64 ^ n) (ways_congr fun bytes _ => ?_)
      rw [body, String.ofList_eq, hdigits]
      rfl
  | hex n, rfl =>
      obtain ⟨digits, hn, hlt, hdigits⟩ := BodyShape.exists_digits htext '0'
      rw [← Hex.ways_mul hcount.symm digits hn hlt]
      refine congrArg (· * 16 ^ n) (ways_congr fun bytes _ => ?_)
      rw [body, String.ofList_eq, hdigits]
      rfl
  | crockford n, rfl =>
      obtain ⟨digits, hn, hlt, hdigits⟩ := BodyShape.exists_digits htext '0'
      rw [← Crockford.ways_mul digits hn hlt]
      refine congrArg (· * 32 ^ n) (ways_congr fun bytes hbytes => ?_)
      rw [body, String.ofList_eq, hdigits, List.take_of_length_le]
      · rfl
      · exact (Crockford.length_chars bytes).trans hbytes |>.le

end KeyKind

/-! ### Generated keys -/

/-- Of `N` outcomes that come from equally many strings, random bytes make each with probability `1 / N`. -/
theorem random_apply {α : Type} {k N : Nat} (f : Bytes → α) {a : α}
    (h : ways k (fun bytes => f bytes = a) * N = 256 ^ k) :
    (PMF.uniformOfFintype (List.Vector UInt8 k)).map (fun bytes => f bytes.toList) a =
      (↑N : ENNReal)⁻¹ := by
  have hset : Set.preimage (fun bytes : List.Vector UInt8 k => f bytes.toList) {a} =
      {bytes | f bytes.toList = a} := rfl
  classical
  have hways : Fintype.card {bytes : List.Vector UInt8 k | f bytes.toList = a} =
      ways k fun bytes => f bytes = a := Nat.card_eq_fintype_card.symm
  have hpos : ways k (fun bytes => f bytes = a) ≠ 0 := by
    intro hzero
    rw [hzero, Nat.zero_mul] at h
    exact absurd h.symm (Nat.pow_pos (by decide)).ne'
  rw [← PMF.toOuterMeasure_apply_singleton, PMF.toOuterMeasure_map_apply, hset,
    PMF.toOuterMeasure_uniformOfFintype_apply, hways, card_bytes, ← h, Nat.cast_mul]
  nth_rewrite 1 [← mul_one (↑(ways k fun bytes => f bytes = a) : ENNReal)]
  rw [ENNReal.mul_div_mul_left _ _ (Nat.cast_ne_zero.2 hpos) (ENNReal.natCast_ne_top _), one_div]

namespace Entropy

variable {bytes : Bytes} {n : Nat}

theorem draw_finite_of_lt (h : bytes.length < n) :
    draw n (.finite bytes) = (.error (.error exhausted), .finite bytes) := by
  simp [draw, h]

theorem draw_finite_of_le (hn : 0 < n) (h : n ≤ bytes.length) :
    draw n (.finite bytes) = (.ok (bytes.take n), .finite (bytes.drop n)) := by
  have hbytes : bytes ≠ [] := List.ne_nil_of_length_pos (by omega)
  simp [draw, hbytes, h]

end Entropy

namespace Generator

variable {g : Generator} {shape : BodyShape} {label key text : String} {bytes : Bytes}

theorem generateWith_of_shape? {σ : Type} (h : g.kind.shape? = some shape) (label : String)
    (source : Nat → Act σ Error Bytes) :
    g.generateWith label source =
      if shape.bytes = 0 then pure (label ++ g.kind.body [])
      else source shape.bytes >>= fun bytes => pure (label ++ g.kind.body bytes) := by
  rw [← KeyKind.byteCount_of_shape? h]
  refine generateWith_eq (fun recipe hcustom => ?_) label source
  rw [hcustom] at h
  cases h

/-- The generator makes the key of these bytes: it draws all of them and no more. -/
def Makes (g : Generator) (label : String) (bytes : Bytes) (key : String) : Prop :=
  g.generateWith label Entropy.draw (.finite bytes) = (.ok key, .finite [])

theorem makes_iff (h : g.kind.shape? = some shape) :
    g.Makes label bytes key ↔ bytes.length = shape.bytes ∧ label ++ g.kind.body bytes = key := by
  rw [Makes, generateWith_of_shape? h]
  split
  case isTrue hzero =>
    rw [hzero, List.length_eq_zero_iff, pure_apply, Prod.mk.injEq, Except.ok.injEq,
      Entropy.finite.injEq, and_comm]
    exact and_congr_right fun hnil => by rw [hnil]
  case isFalse hpos =>
    rcases Nat.lt_or_ge bytes.length shape.bytes with hlt | hge
    · have hdraw := Entropy.draw_finite_of_lt hlt
      rw [bind_error hdraw]
      simp [hlt.ne]
    · have hdraw := Entropy.draw_finite_of_le (Nat.pos_of_ne_zero hpos) hge
      rw [bind_ok hdraw, pure_apply, Prod.mk.injEq, Except.ok.injEq, Entropy.finite.injEq,
        List.drop_eq_nil_iff, and_comm, Nat.le_antisymm_iff]
      constructor
      · rintro ⟨hle, hkey⟩
        exact ⟨⟨hle, hge⟩, by rwa [List.take_of_length_le hle] at hkey⟩
      · rintro ⟨⟨hle, -⟩, hkey⟩
        exact ⟨hle, by rwa [List.take_of_length_le hle]⟩

theorem card_makes (h : g.kind.shape? = some shape) :
    Nat.card {bytes : Bytes // g.Makes label bytes (label ++ text)} =
      ways shape.bytes fun bytes => g.kind.body bytes = text := by
  have hmakes : ∀ bytes : Bytes, g.Makes label bytes (label ++ text) ↔
      bytes.length = shape.bytes ∧ g.kind.body bytes = text := by
    intro bytes
    rw [makes_iff h, String.append_right_inj]
  rw [Nat.card_congr (Equiv.subtypeEquivRight hmakes)]
  exact (Nat.card_congr (Equiv.subtypeSubtypeEquivSubtypeInter _ fun bytes => g.kind.body bytes = text)).symm

/-- The key that random bytes make. -/
noncomputable def randomKey (g : Generator) (label : String) (count : Nat) :
    PMF (Except (Failure Error) String) :=
  (PMF.uniformOfFintype (List.Vector UInt8 count)).map fun bytes =>
    (g.generateWith label Entropy.draw (.finite bytes.toList)).1

theorem randomKey_apply (h : g.kind.shape? = some shape) (htext : text ∈ shape.texts) :
    g.randomKey label shape.bytes (.ok (label ++ text)) =
      (↑(shape.alphabet.length ^ shape.length) : ENNReal)⁻¹ := by
  refine random_apply (fun bytes => (g.generateWith label Entropy.draw (.finite bytes)).1) ?_
  rw [← KeyKind.ways_mul_of_shape? h htext]
  refine congrArg (· * _) (ways_congr fun bytes hbytes => ?_)
  have hmakes : g.Makes label bytes (label ++ g.kind.body bytes) := (makes_iff h).2 ⟨hbytes, rfl⟩
  rw [hmakes, Except.ok.injEq, String.append_right_inj]

/-- The body of a key has the length that was asked for and is of the alphabet of its kind, and all such
bodies are equally likely: a body has as much entropy as its characters can carry. -/
theorem bodies_uniform (h : g.kind.shape? = some shape) (label : String) :
    shape.alphabet.Nodup ∧
    (∀ (σ : Type) (source : Nat → Act σ Error Bytes), g.generateWith label source =
      if shape.bytes = 0 then pure (label ++ g.kind.body [])
      else source shape.bytes >>= fun bytes => pure (label ++ g.kind.body bytes)) ∧
    (∀ bytes : Bytes, bytes.length = shape.bytes → ∃ key, g.Makes label bytes key) ∧
    (∀ (bytes : Bytes) (key : String), g.Makes label bytes key →
      bytes.length = shape.bytes ∧ ∃ text ∈ shape.texts, key = label ++ text) ∧
    ∀ text ∈ shape.texts,
      Nat.card {bytes : Bytes // g.Makes label bytes (label ++ text)} *
        shape.alphabet.length ^ shape.length = 256 ^ shape.bytes ∧
      Nat.card {bytes : Bytes // g.Makes label bytes (label ++ text)} =
        256 ^ shape.bytes / shape.alphabet.length ^ shape.length ∧
      g.randomKey label shape.bytes (.ok (label ++ text)) =
        (↑(shape.alphabet.length ^ shape.length) : ENNReal)⁻¹ := by
  refine ⟨KeyKind.nodup_of_shape? h, fun σ source => generateWith_of_shape? h label source, ?_, ?_, ?_⟩
  · exact fun bytes hbytes => ⟨_, (makes_iff h).2 ⟨hbytes, rfl⟩⟩
  · intro bytes key hmakes
    obtain ⟨hbytes, hkey⟩ := (makes_iff h).1 hmakes
    exact ⟨hbytes, g.kind.body bytes, KeyKind.body_mem_texts h hbytes, hkey.symm⟩
  · intro text htext
    have hmul := KeyKind.ways_mul_of_shape? h htext
    have hpos : 0 < shape.alphabet.length ^ shape.length := by
      refine Nat.pos_of_ne_zero fun hzero => ?_
      rw [hzero, Nat.mul_zero] at hmul
      exact absurd hmul (Nat.pow_pos (by decide)).ne
    rw [card_makes h]
    refine ⟨hmul, ?_, randomKey_apply h htext⟩
    rw [← hmul, Nat.mul_div_cancel _ hpos]

/-- Four strings of four bytes for each body of five characters. -/
theorem url_safe_bodies_uniform :
    "Zq-_7" ∈ BodyShape.texts ⟨Base64Url.alphabet, 5, 4⟩ ∧
    Nat.card {bytes : Bytes // Makes ⟨"sk_", .urlSafe 5⟩ "pk_" bytes ("pk_" ++ "Zq-_7")} = 4 ∧
    randomKey ⟨"sk_", .urlSafe 5⟩ "pk_" 4 (.ok ("pk_" ++ "Zq-_7")) = (↑(64 ^ 5 : Nat) : ENNReal)⁻¹ := by
  have halphabet : "Zq-_7".toList.all (Base64Url.alphabet.contains ·) = true := by decide
  have htext : "Zq-_7" ∈ BodyShape.texts ⟨Base64Url.alphabet, 5, 4⟩ :=
    ⟨rfl, fun c hc => List.contains_iff_mem.1 (List.all_eq_true.1 halphabet c hc)⟩
  have hshape : KeyKind.shape? (.urlSafe 5) = some ⟨Base64Url.alphabet, 5, 4⟩ := rfl
  obtain ⟨-, -, -, -, huniform⟩ := bodies_uniform (g := ⟨"sk_", .urlSafe 5⟩) hshape "pk_"
  obtain ⟨-, hcard, hrandom⟩ := huniform "Zq-_7" htext
  exact ⟨htext, hcard, hrandom⟩

end Generator

end Latchkey
