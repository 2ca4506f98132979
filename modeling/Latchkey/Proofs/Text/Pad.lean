import Mathlib.Algebra.Group.Nat.Defs
import Latchkey.Text.Pad
import Latchkey.Text.Blank
/-!
# Reading back what was padded

A padded number is a list of digits that writes the number, and a reader that takes digits for as
long as they last finds all of them where a character that is no digit follows.
-/

namespace Latchkey.Text

variable {width most n : Nat} {c : Char} {digits rest : List Char}

theorem toList_padded (width n : Nat) :
    (padded width n).toList =
      List.replicate (width - (Nat.toDigits 10 n).length) '0' ++ Nat.toDigits 10 n := by
  simp only [padded, Nat.toString_eq_ofList_toDigits, String.length_ofList, String.toList_append,
    String.toList_ofList]

theorem natOfDigits_eq (digits : List Char) : natOfDigits digits = Nat.ofDigitChars 10 digits 0 := by
  simp only [natOfDigits, digitValue, Nat.ofDigitChars_eq_foldl, Nat.mul_comm]

theorem natOfDigits_padded (width n : Nat) : natOfDigits (padded width n).toList = n := by
  rw [natOfDigits_eq, toList_padded, Nat.ofDigitChars_append, Nat.ofDigitChars_replicate_zero,
    Nat.mul_zero, Nat.ofDigitChars_ten_toDigits]

theorem isDigit_of_mem_padded (h : c ∈ (padded width n).toList) : c.isDigit := by
  rw [toList_padded, List.mem_append] at h
  cases h with
  | inl h =>
      rw [List.eq_of_mem_replicate h]
      decide
  | inr h => exact Nat.isDigit_of_mem_toDigits (by omega) (by omega) h

theorem padded_ne_nil (width n : Nat) : (padded width n).toList ≠ [] := by
  simp [toList_padded, Nat.toDigits_ne_nil]

/-- A number that fits the width fills it exactly. -/
theorem length_padded (hwidth : 0 < width) (h : n < 10 ^ width) :
    (padded width n).toList.length = width := by
  have hlength := (Nat.length_toDigits_le_iff (b := 10) (by omega) hwidth).2 h
  simp [toList_padded]
  omega

theorem isBlank_of_isDigit (h : c.isDigit) : isBlank c = false := by
  have hc : 48 ≤ c.toNat ∧ c.toNat ≤ 57 := by
    simpa [Char.isDigit, UInt32.le_iff_toNat_le] using h
  simp [isBlank]
  omega

@[simp] theorem skipBlanks_cons (h : isBlank c = false) : skipBlanks (c :: rest) = c :: rest := by
  simp [skipBlanks, h]

theorem skipBlanks_padded (width n : Nat) (rest : List Char) :
    skipBlanks ((padded width n).toList ++ rest) = (padded width n).toList ++ rest := by
  cases hpadded : (padded width n).toList with
  | nil => exact absurd hpadded (padded_ne_nil width n)
  | cons c digits =>
      have hmem : c ∈ (padded width n).toList := by simp [hpadded]
      have hc : c.isDigit := isDigit_of_mem_padded hmem
      exact skipBlanks_cons (isBlank_of_isDigit hc)

/-- What follows a number does not go on with a digit. -/
def EndsNumber (rest : List Char) : Prop := ∀ c ∈ rest.head?, c.isDigit = false

theorem endsNumber_cons (h : c.isDigit = false) : EndsNumber (c :: rest) := by
  simpa [EndsNumber] using h

theorem digitsUpTo_append (hdigits : ∀ c ∈ digits, c.isDigit) (hlength : digits.length ≤ most)
    (hrest : EndsNumber rest) : digitsUpTo most (digits ++ rest) = (digits, rest) := by
  induction digits generalizing most with
  | nil =>
      cases rest with
      | nil => cases most <;> rfl
      | cons c rest =>
          have hc : c.isDigit = false := hrest c rfl
          cases most <;> simp [digitsUpTo, hc]
  | cons c digits ih =>
      obtain ⟨most, rfl⟩ : ∃ m, most = m + 1 := ⟨most - 1, by simp at hlength; omega⟩
      have hc : c.isDigit := hdigits c (by simp)
      have hmore := ih (fun d hd => hdigits d (by simp [hd])) (by simpa using hlength)
      simp [digitsUpTo, hc, hmore]

theorem readNat?_append (hne : digits ≠ []) (hdigits : ∀ c ∈ digits, c.isDigit)
    (hlength : digits.length ≤ most) (hrest : EndsNumber rest) :
    readNat? most (digits ++ rest) = some (natOfDigits digits, rest) := by
  rw [readNat?, digitsUpTo_append hdigits hlength hrest]
  cases digits with
  | nil => exact absurd rfl hne
  | cons c digits => rfl

theorem readNat?_padded (hlength : (padded width n).toList.length ≤ most)
    (hrest : EndsNumber rest) :
    readNat? most ((padded width n).toList ++ rest) = some (n, rest) := by
  rw [readNat?_append (padded_ne_nil width n) (fun _ h => isDigit_of_mem_padded h) hlength hrest,
    natOfDigits_padded]

end Latchkey.Text
