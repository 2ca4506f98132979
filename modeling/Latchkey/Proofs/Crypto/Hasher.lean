import Latchkey.Crypto.Hasher
/-!
# Matching digests

A digest is compared with that of a key byte by byte, up to the end of the shorter one, and every bit in
which they differ is kept. So no difference is lost behind a later one, and of two byte strings of which
one begins the other only the lengths tell that they are different.
-/

namespace Latchkey

theorem utf8_inj {a b : String} : utf8 a = utf8 b ↔ a = b := by
  unfold utf8
  rw [Array.toList_inj, ← ByteArray.ext_iff]
  exact String.toByteArray_inj

namespace Hasher

/-- What has been gathered is zero at the end just if it was at the start and no bytes differ. -/
theorem gathered_eq_zero_iff {acc : UInt8} {a b : Bytes} :
    (a.zip b).foldl (fun acc (x, y) => acc ||| (x ^^^ y)) acc = 0 ↔
      acc = 0 ∧ (a <+: b ∨ b <+: a) := by
  induction a generalizing acc b with
  | nil => simp
  | cons x a ih =>
      cases b with
      | nil => simp
      | cons y b =>
          rw [List.zip_cons_cons, List.foldl_cons, ih, UInt8.or_eq_zero_iff, UInt8.xor_eq_zero_iff,
            List.cons_prefix_cons, List.cons_prefix_cons, eq_comm (a := y), ← and_or_left, and_assoc]

theorem differences_eq_zero_iff {a b : Bytes} : differences a b = 0 ↔ a <+: b ∨ b <+: a := by
  unfold differences
  rw [gathered_eq_zero_iff]
  simp

theorem eq_iff_differences {a b : Bytes} : a = b ↔ a.length = b.length ∧ differences a b = 0 := by
  rw [differences_eq_zero_iff]
  constructor
  · rintro rfl
    exact ⟨rfl, .inl (List.prefix_refl a)⟩
  · rintro ⟨hlength, hab | hba⟩
    · exact hab.eq_of_length hlength
    · exact (hba.eq_of_length hlength.symm).symm

theorem constantTimeEq_iff {a b : String} : constantTimeEq a b = true ↔ a = b := by
  rw [← utf8_inj, eq_iff_differences]
  simp [constantTimeEq]

/-- A digest matches a key just if it is the digest of the key, whatever the hasher. For texts of one length
in bytes no difference is left just if they are equal, and texts of different lengths never match. -/
theorem matches_iff_eq_hash (h : Hasher) :
    (∀ key digest, h.matches key digest = true ↔ digest = h.hash key) ∧
      (∀ a b : String, (utf8 a).length = (utf8 b).length →
        (differences (utf8 a) (utf8 b) = 0 ↔ a = b)) ∧
      ∀ key digest, (utf8 (h.hash key)).length ≠ (utf8 digest).length →
        h.matches key digest = false := by
  have hmatches : ∀ key digest, h.matches key digest = true ↔ digest = h.hash key :=
    fun key digest => constantTimeEq_iff.trans eq_comm
  refine ⟨hmatches, fun a b hlength => ?_, fun key digest hlength => ?_⟩
  · rw [← utf8_inj, eq_iff_differences]
    exact (and_iff_right hlength).symm
  · rw [Bool.eq_false_iff]
    intro hmatch
    exact hlength (by rw [(hmatches key digest).1 hmatch])

/-- Two texts of one length that differ in one bit of one byte, and a digest that another one begins. -/
theorem matches_no_beginning :
    let h : Hasher := .custom fun key => "custom:" ++ key
    ((utf8 "custom:ab").length = (utf8 "custom:ac").length ∧
        differences (utf8 "custom:ab") (utf8 "custom:ac") = 1) ∧
      ((utf8 (h.hash "ab")).length ≠ (utf8 "custom:a").length ∧
        differences (utf8 (h.hash "ab")) (utf8 "custom:a") = 0) ∧
      h.matches "ab" "custom:ac" = false ∧ h.matches "ab" "custom:a" = false := by
  intro h
  obtain ⟨hmatches, hequal, hlength⟩ := matches_iff_eq_hash h
  have hac : (utf8 "custom:ab").length = (utf8 "custom:ac").length := by decide
  have ha : (utf8 (h.hash "ab")).length ≠ (utf8 "custom:a").length := by decide
  refine ⟨⟨hac, by decide⟩, ⟨ha, by decide⟩, ?_, hlength _ _ ha⟩
  rw [Bool.eq_false_iff, ne_eq, hmatches]
  exact fun h' => absurd ((hequal _ _ hac).2 h'.symm) (by decide)

end Hasher

end Latchkey
