import Mathlib.Data.String.Basic
import Latchkey.Proofs.Key.Body
import Latchkey.Proofs.Key.Format
import Latchkey.Proofs.Service.World
/-!
# Which texts are identifiers and labels

Identifiers and labels are texts of a few characters, all of one class. Their length is checked in bytes,
and this makes no difference to what is accepted: the characters of both classes take one byte each, and a
text with any other character is refused, if not for its length then for the character. An identifier made
of random bytes is stored without a check, which it would pass.
-/

namespace Latchkey

theorem utf8Len_eq_length {chars : List Char} (h : ∀ c ∈ chars, c.toNat < 128) :
    String.utf8Len chars = chars.length := by
  induction chars with
  | nil => rfl
  | cons c chars ih =>
      have hc : c.utf8Size = 1 := by
        have hlt := h c List.mem_cons_self
        rw [Char.utf8Size_eq_one_iff, UInt32.le_iff_toNat_le, Char.toNat_val]
        exact Nat.le_of_lt_succ hlt
      rw [String.utf8Len_cons, hc, List.length_cons, ih fun d hd => h d (List.mem_cons_of_mem c hd)]

/-- A text in ASCII has as many bytes as characters. -/
theorem utf8ByteSize_eq_length {text : String} (h : ∀ c ∈ text.toList, c.toNat < 128) :
    text.utf8ByteSize = text.length := by
  rw [← String.length_toList, ← utf8Len_eq_length h, ← String.utf8ByteSize_ofList, String.ofList_toList]

namespace NameFault

/-- The first character of the text that is not in the class. -/
def FirstOutside (Class : Char → Prop) (text : String) (c : Char) : Prop :=
  ∃ before after, text.toList = before ++ c :: after ∧ (∀ d ∈ before, Class d) ∧ ¬Class c

/-- What is wrong with a text that must have so many bytes at most, all of characters that are let pass. -/
def bounded (maxLength : Nat) (passes : Char → Bool) (tooLong : NameFault)
    (invalid : Char → NameFault) (text : String) : Option NameFault :=
  if maxLength < text.utf8ByteSize then some tooLong
  else (text.toList.find? (!passes ·)).map invalid

section Bounded

variable {Class : Char → Prop} {maxLength : Nat} {passes : Char → Bool} {tooLong f : NameFault}
  {invalid : Char → NameFault} {text : String} (hpasses : ∀ c, passes c = true ↔ Class c)

include hpasses

theorem bounded_eq_none_iff (hascii : ∀ c, Class c → c.toNat < 128) :
    bounded maxLength passes tooLong invalid text = none ↔
      text.length ≤ maxLength ∧ ∀ c ∈ text.toList, Class c := by
  have hfind : text.toList.find? (!passes ·) = none ↔ ∀ c ∈ text.toList, Class c := by
    simp [List.find?_eq_none, hpasses]
  unfold bounded
  constructor
  · intro h
    split at h
    · cases h
    · rename_i hbytes
      have hclass := hfind.1 (Option.map_eq_none_iff.1 h)
      rw [utf8ByteSize_eq_length fun c hc => hascii c (hclass c hc)] at hbytes
      exact ⟨Nat.le_of_not_lt hbytes, hclass⟩
  · rintro ⟨hlength, hclass⟩
    rw [utf8ByteSize_eq_length fun c hc => hascii c (hclass c hc), if_neg (by omega), hfind.2 hclass]
    rfl

theorem find?_eq_some_iff_firstOutside {c : Char} :
    text.toList.find? (!passes ·) = some c ↔ FirstOutside Class text c := by
  rw [List.find?_eq_some_iff_append]
  unfold FirstOutside
  simp only [Bool.not_eq_true', Bool.not_not, ← Bool.not_eq_true, hpasses]
  grind

theorem bounded_eq_some_iff :
    bounded maxLength passes tooLong invalid text = some f ↔
      maxLength < text.utf8ByteSize ∧ f = tooLong ∨
        text.utf8ByteSize ≤ maxLength ∧ ∃ c, FirstOutside Class text c ∧ f = invalid c := by
  unfold bounded
  split
  · rename_i h
    simp [h, Nat.not_le.2 h, eq_comm]
  · rename_i h
    simp [h, Nat.le_of_not_lt h, find?_eq_some_iff_firstOutside hpasses, eq_comm]

end Bounded

end NameFault

open NameFault

namespace KeyId

/-- The letters and digits of ASCII, the hyphen and the underscore. -/
def Allowed (c : Char) : Prop :=
  ('a' ≤ c ∧ c ≤ 'z') ∨ ('A' ≤ c ∧ c ≤ 'Z') ∨ ('0' ≤ c ∧ c ≤ '9') ∨ c = '-' ∨ c = '_'

instance : DecidablePred Allowed := fun _ => inferInstanceAs (Decidable (_ ∨ _))

/-- The texts that are identifiers. -/
structure Fit (text : String) : Prop where
  nonempty : 1 ≤ text.length
  short : text.length ≤ 128
  allowed : ∀ c ∈ text.toList, Allowed c

/-- The first rule for identifiers that a text breaks. -/
inductive Breaks (text : String) : NameFault → Prop where
  | empty (h : text = "") : Breaks text .emptyId
  | tooLong (h : text ≠ "") (hlong : 128 < text.utf8ByteSize) : Breaks text .idTooLong
  | character {c : Char} (h : text ≠ "") (hshort : text.utf8ByteSize ≤ 128)
    (hc : FirstOutside Allowed text c) : Breaks text (.invalidIdCharacter c)

theorem isIdChar_iff (c : Char) : isIdChar c = true ↔ Allowed c := by
  have hlower : c.isLower = true ↔ 'a' ≤ c ∧ c ≤ 'z' :=
    Bool.and_eq_true_iff.trans (and_congr decide_eq_true_iff decide_eq_true_iff)
  have hupper : c.isUpper = true ↔ 'A' ≤ c ∧ c ≤ 'Z' := decide_eq_true_iff
  have hdigit : c.isDigit = true ↔ '0' ≤ c ∧ c ≤ '9' :=
    Bool.and_eq_true_iff.trans (and_congr decide_eq_true_iff decide_eq_true_iff)
  have hclasses : isIdChar c = (c.isUpper || c.isLower || c.isDigit || c == '-' || c == '_') := rfl
  rw [hclasses]
  simp only [Bool.or_eq_true, beq_iff_eq, hlower, hupper, hdigit, Allowed]
  grind

theorem Allowed.ascii (c : Char) (h : Allowed c) : c.toNat < 128 := by
  simp only [Allowed, Char.le_def, UInt32.le_iff_toNat_le, Char.toNat_val] at h
  have hz : 'z'.toNat = 122 := rfl
  have hZ : 'Z'.toNat = 90 := rfl
  have hnine : '9'.toNat = 57 := rfl
  rcases h with h | h | h | rfl | rfl
  · omega
  · omega
  · omega
  · decide
  · decide

theorem fault?_eq_bounded {text : String} (h : text ≠ "") :
    fault? text = bounded 128 isIdChar .idTooLong .invalidIdCharacter text :=
  if_neg (mt String.isEmpty_iff.1 h)

theorem fault?_empty : fault? "" = some .emptyId := rfl

theorem fault?_eq_none_iff {text : String} : fault? text = none ↔ Fit text := by
  rcases eq_or_ne text "" with rfl | h
  · rw [fault?_empty]
    exact iff_of_false nofun fun h => absurd h.nonempty (by decide)
  · have hlength : 1 ≤ text.length := Nat.one_le_iff_ne_zero.2 (mt String.length_eq_zero_iff.1 h)
    rw [fault?_eq_bounded h, bounded_eq_none_iff isIdChar_iff Allowed.ascii]
    exact ⟨fun hfit => ⟨hlength, hfit.1, hfit.2⟩, fun hfit => ⟨hfit.short, hfit.allowed⟩⟩

theorem fault?_eq_some_iff {text : String} {f : NameFault} : fault? text = some f ↔ Breaks text f := by
  rcases eq_or_ne text "" with rfl | h
  · rw [fault?_empty]
    constructor
    · intro hf
      cases hf
      exact .empty rfl
    · intro hf
      cases hf with
      | empty => rfl
      | tooLong h => exact absurd rfl h
      | character h => exact absurd rfl h
  · rw [fault?_eq_bounded h, bounded_eq_some_iff isIdChar_iff]
    constructor
    · rintro (⟨hlong, rfl⟩ | ⟨hshort, c, hc, rfl⟩)
      · exact .tooLong h hlong
      · exact .character h hshort hc
    · intro hf
      cases hf with
      | empty hempty => exact absurd hempty h
      | tooLong _ hlong => exact .inl ⟨hlong, rfl⟩
      | character _ hshort hc => exact .inr ⟨hshort, _, hc, rfl⟩

end KeyId

namespace Label

/-- The characters of ASCII that are neither blank nor control characters. -/
def Visible (c : Char) : Prop := c.toNat < 128 ∧ 32 < c.toNat ∧ c.toNat ≠ 127

/-- The texts that are labels. -/
structure Fit (text : String) : Prop where
  short : text.length ≤ 32
  visible : ∀ c ∈ text.toList, Visible c

/-- The first rule for labels that a text breaks. -/
inductive Breaks (text : String) : NameFault → Prop where
  | tooLong (hlong : 32 < text.utf8ByteSize) : Breaks text .labelTooLong
  | character {c : Char} (hshort : text.utf8ByteSize ≤ 32) (hc : FirstOutside Visible text c) :
    Breaks text (.invalidLabelCharacter c)

theorem isLabelChar_iff (c : Char) : isLabelChar c = true ↔ Visible c := by
  have hfirst : '!'.toNat = 33 := rfl
  have hlast : '~'.toNat = 126 := rfl
  simp only [isLabelChar, Bool.and_eq_true, decide_eq_true_eq, Visible, Char.le_def,
    UInt32.le_iff_toNat_le, Char.toNat_val]
  omega

theorem fault?_eq_bounded (text : String) :
    fault? text = bounded 32 isLabelChar .labelTooLong .invalidLabelCharacter text := rfl

theorem fault?_eq_none_iff {text : String} : fault? text = none ↔ Fit text := by
  rw [fault?_eq_bounded, bounded_eq_none_iff isLabelChar_iff fun _ hc => hc.1]
  exact ⟨fun h => ⟨h.1, h.2⟩, fun h => ⟨h.short, h.visible⟩⟩

theorem fault?_eq_some_iff {text : String} {f : NameFault} : fault? text = some f ↔ Breaks text f := by
  rw [fault?_eq_bounded, bounded_eq_some_iff isLabelChar_iff]
  constructor
  · rintro (⟨hlong, rfl⟩ | ⟨hshort, c, hc, rfl⟩)
    · exact .tooLong hlong
    · exact .character hshort hc
  · intro hf
    cases hf with
    | tooLong hlong => exact .inl ⟨hlong, rfl⟩
    | character hshort hc => exact .inr ⟨hshort, _, hc, rfl⟩

end Label

/-! ### Identifiers of random bytes -/

namespace Uuid

theorem length_stamp (bytes : Bytes) : (stamp bytes).length = bytes.length := by
  fun_cases stamp bytes <;> rfl

theorem length_chars {bytes : Bytes} (h : bytes.length = 16) : (chars bytes).length = 36 := by
  have hstamp := (length_stamp bytes).trans h
  simp only [chars, grouped, List.length_append, List.length_cons, Hex.length_chars, List.length_take,
    List.length_drop, hstamp]
  omega

theorem allowed_of_mem_alphabet {c : Char} (h : c ∈ Hex.alphabet) : KeyId.Allowed c := by
  have hall : Hex.alphabet.all (fun d => decide (KeyId.Allowed d)) = true := by decide
  exact of_decide_eq_true (List.all_eq_true.1 hall c h)

theorem allowed_of_mem_chars {bytes : Bytes} {c : Char} (h : c ∈ chars bytes) : KeyId.Allowed c := by
  have hyphen : KeyId.Allowed '-' := by decide
  simp only [chars, grouped, List.mem_append, List.mem_cons] at h
  grind [Hex.mem_alphabet_of_mem_chars, allowed_of_mem_alphabet]

theorem fit_chars {bytes : Bytes} (h : bytes.length = 16) : KeyId.Fit (String.ofList (chars bytes)) where
  nonempty := by rw [String.length_ofList, length_chars h]; decide
  short := by rw [String.length_ofList, length_chars h]; decide
  allowed c hc := allowed_of_mem_chars (by rwa [String.toList_ofList] at hc)

end Uuid

/-- A text is accepted as an identifier or as a label just if it is one, and otherwise refused for the first
rule that it breaks. An identifier made of sixteen random bytes is accepted. -/
theorem names_accepted_iff_fit :
    (∀ text, (KeyId.fault? text = none ↔ KeyId.Fit text) ∧
        ∀ f, KeyId.fault? text = some f ↔ KeyId.Breaks text f) ∧
      (∀ text, (Label.fault? text = none ↔ Label.Fit text) ∧
        ∀ f, Label.fault? text = some f ↔ Label.Breaks text f) ∧
      ∀ (σ : Type) (svc : Service σ) (s s' : σ) (bytes : Bytes), svc.random 16 s = (.ok bytes, s') →
        bytes.length = 16 → ∃ id, svc.freshId s = (.ok id, s') ∧ KeyId.ofText id.text = .ok id := by
  refine ⟨fun text => ⟨KeyId.fault?_eq_none_iff, fun f => KeyId.fault?_eq_some_iff⟩,
    fun text => ⟨Label.fault?_eq_none_iff, fun f => Label.fault?_eq_some_iff⟩,
    fun σ svc s s' bytes hdraw hlength => ?_⟩
  refine ⟨⟨String.ofList (Uuid.chars bytes)⟩, Act.bind_ok hdraw, ?_⟩
  exact KeyId.ofText_eq_ok_iff.2 ⟨KeyId.fault?_eq_none_iff.2 (Uuid.fit_chars hlength), rfl⟩

/-- Where all bits of the bytes are set, the identifier still shows the version and the variant. -/
theorem highest_id_accepted :
    let svc := World.service [] {}
    let bytes : Bytes := List.replicate 16 0xff
    let before : World := { entropy := .finite bytes }
    let after : World := { entropy := .finite [] }
    let id : KeyId := ⟨"ffffffff-ffff-4fff-bfff-ffffffffffff"⟩
    svc.random 16 before = (.ok bytes, after) ∧ bytes.length = 16 ∧
      svc.freshId before = (.ok id, after) ∧ KeyId.ofText id.text = .ok id := by
  intro svc bytes before after id
  have hdraw : svc.random 16 before = (.ok bytes, after) := rfl
  have hlength : bytes.length = 16 := rfl
  have hid : svc.freshId before = (.ok id, after) := rfl
  obtain ⟨id', hid', hok⟩ := names_accepted_iff_fit.2.2 World svc before after bytes hdraw hlength
  cases hid.symm.trans hid'
  exact ⟨hdraw, hlength, hid, hok⟩

end Latchkey
