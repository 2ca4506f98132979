import Latchkey.Time.Text
import Latchkey.Proofs.Text.Pad
import Latchkey.Proofs.Time.Calendar
/-!
# Timestamps read back

The text of an instant reads as that instant. Every part of a timestamp is read back by its own
reader, whatever follows it, as long as what follows cannot be taken for more of the same number.
-/

namespace Latchkey

open Text

variable {rest : List Char}

namespace Instant

@[simp] theorem skipMark?_cons {c : Char} (h : isBlank c = false) :
    skipMark? c (c :: rest) = some rest := by
  simp [skipMark?, h]

theorem readTwo?_padded {n : Nat} (h : n < 100) (hrest : EndsNumber rest) :
    readTwo? ((padded 2 n).toList ++ rest) = some (n, rest) := by
  have hlength : (padded 2 n).toList.length = 2 := length_padded (by omega) h
  rw [readTwo?, skipBlanks_padded, readNat?_padded (Nat.le_of_eq hlength) hrest]

/-- A year without a sign. -/
theorem readYear?_padded {n : Nat} (h : n < 10000) (hrest : EndsNumber rest) :
    readYear? ((padded 4 n).toList ++ rest) = some ((n : Int), rest) := by
  have hlength : (padded 4 n).toList.length = 4 := length_padded (by omega) h
  have hread : readNat? 4 ((padded 4 n).toList ++ rest) = some (n, rest) :=
    readNat?_padded (Nat.le_of_eq hlength) hrest
  have hdigit : ∀ c ∈ (padded 4 n).toList, c.isDigit := fun _ hc => isDigit_of_mem_padded hc
  rw [readYear?, skipBlanks_padded]
  cases hpadded : (padded 4 n).toList with
  | nil => exact absurd hpadded (padded_ne_nil 4 n)
  | cons c digits =>
      have hc : c.isDigit := hdigit c (by simp [hpadded])
      rw [hpadded] at hread
      split
      · rename_i heq
        cases heq
        exact absurd hc (by decide)
      · rename_i heq
        cases heq
        exact absurd hc (by decide)
      · rw [hread]
        rfl

theorem readYear?_minus (text : List Char) :
    readYear? ('-' :: text) = (readNat? text.length text).map fun (n, after) => (-(n : Int), after) := by
  rw [readYear?, skipBlanks_cons (by decide)]
  rfl

theorem readYear?_plus (text : List Char) :
    readYear? ('+' :: text) = (readNat? text.length text).map fun (n, after) => ((n : Int), after) := by
  rw [readYear?, skipBlanks_cons (by decide)]
  rfl

theorem readYear?_yearText (year : Int) (hrest : EndsNumber rest) :
    readYear? ((Date.yearText year).toList ++ rest) = some (year, rest) := by
  -- After a sign the year takes all the digits there are.
  have hsigned (n : Nat) : readNat? ((padded 4 n).toList ++ rest).length
      ((padded 4 n).toList ++ rest) = some (n, rest) := readNat?_padded (by simp) hrest
  unfold Date.yearText
  split
  · rw [String.toList_append, List.append_assoc, show "-".toList = ['-'] from rfl,
      List.singleton_append, readYear?_minus, hsigned, Option.map_some, Option.some_inj,
      Prod.mk.injEq]
    exact ⟨by omega, rfl⟩
  · split
    · rw [readYear?_padded (by omega) hrest, Option.some_inj, Prod.mk.injEq]
      exact ⟨by omega, rfl⟩
    · rw [String.toList_append, List.append_assoc, show "+".toList = ['+'] from rfl,
        List.singleton_append, readYear?_plus, hsigned, Option.map_some, Option.some_inj,
        Prod.mk.injEq]
      exact ⟨by omega, rfl⟩

theorem endsNumber_dash (rest : List Char) : EndsNumber ('-' :: rest) := endsNumber_cons (by decide)

theorem readDate?_text {d : Date} (h : d.Valid) (hrest : EndsNumber rest) :
    readDate? (d.text.toList ++ rest) = some (d, rest) := by
  have hmonth := h.month_le
  have hday := h.day_le
  simp only [Date.text, String.toList_append, List.append_assoc, show "-".toList = ['-'] from rfl,
    List.singleton_append]
  simp [readDate?, readYear?_yearText _ (endsNumber_dash _),
    skipMark?_cons (show isBlank '-' = false by decide),
    readTwo?_padded (show d.month < 100 by omega) (endsNumber_dash _),
    readTwo?_padded (show d.day < 100 by omega) hrest, h]

/-- What follows the seconds of a timestamp starts with no digit and no point. -/
def EndsSeconds (rest : List Char) : Prop := ∀ c ∈ rest.head?, c.isDigit = false ∧ c ≠ '.'

theorem readFraction?_of_endsSeconds (h : EndsSeconds rest) : readFraction? rest = some (0, rest) := by
  unfold readFraction?
  split
  · exact absurd rfl (h '.' rfl).2
  · rfl

theorem takeWhile_isDigit_append {digits : List Char} (hdigits : ∀ c ∈ digits, c.isDigit)
    (hrest : EndsNumber rest) :
    (digits ++ rest).takeWhile Char.isDigit = digits ∧
      (digits ++ rest).dropWhile Char.isDigit = rest := by
  rw [List.takeWhile_append_of_pos hdigits, List.dropWhile_append_of_pos hdigits]
  cases rest with
  | nil => simp
  | cons c rest => simp [hrest c rfl]

/-- A fraction of at most nine digits is read as a whole. -/
theorem readFraction?_padded {width n : Nat} (hwidth : 0 < width) (hwidth' : width ≤ 9)
    (h : n < 10 ^ width) (hrest : EndsNumber rest) :
    readFraction? ('.' :: ((padded width n).toList ++ rest)) =
      some (n * 10 ^ (9 - width), rest) := by
  have hlength : (padded width n).toList.length = width := length_padded hwidth h
  obtain ⟨htake, hdrop⟩ := takeWhile_isDigit_append
    (fun c (hc : c ∈ (padded width n).toList) => isDigit_of_mem_padded hc) hrest
  have hnano : nanoOfDigits (padded width n).toList = n * 10 ^ (9 - width) := by
    rw [nanoOfDigits, List.take_of_length_le (by omega), natOfDigits_padded, hlength]
    rfl
  unfold readFraction?
  simp only [htake, hdrop]
  split
  · rename_i heq
    exact absurd heq (padded_ne_nil width n)
  · rw [hnano]

theorem readFraction?_text {nano : Nat} (h : nano < 1000000000) (hrest : EndsSeconds rest) :
    readFraction? ((fractionText nano).toList ++ rest) = some (nano, rest) := by
  have hends : EndsNumber rest := fun c hc => (hrest c hc).1
  have hpoint (s : String) : ("." ++ s).toList ++ rest = '.' :: (s.toList ++ rest) := by simp
  unfold fractionText
  split
  · rename_i hzero
    rw [hzero]
    exact readFraction?_of_endsSeconds hrest
  · split
    · rw [hpoint, readFraction?_padded (by omega) (by omega) (by omega) hends]
      congr 2
      omega
    · split
      · rw [hpoint, readFraction?_padded (by omega) (by omega) (by omega) hends]
        congr 2
        omega
      · rw [hpoint, readFraction?_padded (by omega) (by omega) (by omega) hends]
        congr 2
        omega

theorem endsNumber_colon (rest : List Char) : EndsNumber (':' :: rest) := endsNumber_cons (by decide)

/-- The fraction of a second may be missing, and then the seconds end the time. -/
theorem endsNumber_fractionText (nano : Nat) (hrest : EndsNumber rest) :
    EndsNumber ((fractionText nano).toList ++ rest) := by
  have hpoint (s : String) : EndsNumber (("." ++ s).toList ++ rest) := by
    rw [String.toList_append]
    exact endsNumber_cons (by decide)
  unfold fractionText
  split
  · exact hrest
  · split
    · exact hpoint _
    · split <;> exact hpoint _

/-- The time of day as it stands in a timestamp. -/
def timeOfDay (t : DateTime) : List Char :=
  (padded 2 t.hour).toList ++ ':' :: ((padded 2 t.minute).toList ++
    ':' :: ((padded 2 t.second).toList ++ (fractionText t.nano).toList))

theorem toList_text (t : DateTime) : t.text.toList = t.date.text.toList ++ 'T' :: timeOfDay t := by
  simp [DateTime.text, timeOfDay]

theorem readTime?_timeOfDay {t : DateTime} (h : t.Valid) (hrest : EndsSeconds rest) :
    readTime? t.date (timeOfDay t ++ rest) = some (t, rest) := by
  have hhour := h.hour
  have hminute := h.minute
  have hsecond := h.second
  have hends := endsNumber_fractionText t.nano (fun c hc => (hrest c hc).1)
  simp [timeOfDay, readTime?, skipMark?_cons (show isBlank ':' = false by decide),
    readTwo?_padded (show t.hour < 100 by omega) (endsNumber_colon _),
    readTwo?_padded (show t.minute < 100 by omega) (endsNumber_colon _),
    readTwo?_padded (show t.second < 100 by omega) hends,
    readFraction?_text h.nano hrest, hhour, hminute, hsecond]

theorem readOffset?_universal : readOffset? (skipBlanks ['Z']) = some (0, []) := by
  rw [skipBlanks_cons (by decide)]
  rfl

/-- A timestamp in universal time is read as its date and then its time of day. -/
theorem ofText?_of_read {s : String} {t : Instant} {time : List Char}
    (hdate : readDate? s.toList = some ((DateTime.ofInstant t).date, 'T' :: time))
    (htime : readTime? (DateTime.ofInstant t).date time = some (.ofInstant t, ['Z'])) :
    ofText? s = some t := by
  unfold ofText?
  rw [hdate]
  change ((readTime? (DateTime.ofInstant t).date time).bind fun shown =>
    (readOffset? (skipBlanks shown.2)).bind fun offset =>
      if offset.2.all isBlank then shown.1.instant? offset.1 else none) = some t
  rw [htime, Option.bind_some, readOffset?_universal, Option.bind_some]
  exact DateTime.instant?_ofInstant t

/-- An instant is read back from its text. -/
theorem ofText?_text (t : Instant) : ofText? t.text = some t := by
  have hvalid := DateTime.valid_ofInstant t
  have hends : EndsNumber ('T' :: (timeOfDay (.ofInstant t) ++ ['Z'])) := endsNumber_cons (by decide)
  have hdate := readDate?_text hvalid.date hends
  have hzone : EndsSeconds ['Z'] := by simp [EndsSeconds]
  have htext : t.text.toList =
      (DateTime.ofInstant t).date.text.toList ++ 'T' :: (timeOfDay (.ofInstant t) ++ ['Z']) := by
    simp [text, toList_text]
  rw [← htext] at hdate
  exact ofText?_of_read hdate (readTime?_timeOfDay hvalid hzone)

end Instant

end Latchkey
