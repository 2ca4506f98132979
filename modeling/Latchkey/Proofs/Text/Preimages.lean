import Mathlib.Data.FinEnum
import Mathlib.Data.Fintype.Vector
import Mathlib.Data.Int.CardIntervalMod
import Mathlib.Data.List.GetD
import Mathlib.Data.Nat.Digits.Lemmas
import Mathlib.SetTheory.Cardinal.Finite
import Mathlib.Tactic.Ring
import Latchkey.Text.Base64
import Latchkey.Text.Crockford
/-!
# How many byte strings a text stands for

Each of the encodings turns a block of bytes into a block of characters, and a long string block by block,
so that the strings behind a text are counted block by block as well. Within a block the characters show
the leading digits of the number that the bytes write. Where a text stops short of a block, the strings
behind it are as many as the bits that it leaves out allow; they are equally many for all texts of one
length.
-/

namespace Latchkey

/-! ### Counting byte strings -/

namespace Bytes

/-- How many strings of so many bytes have a property. -/
noncomputable def ways (k : Nat) (P : Bytes → Prop) : Nat :=
  Nat.card {bytes : List.Vector UInt8 k // P bytes.toList}

variable {k b : Nat} {P Q R : Bytes → Prop}

theorem ways_congr (h : ∀ bytes : Bytes, bytes.length = k → (P bytes ↔ Q bytes)) :
    ways k P = ways k Q :=
  Nat.card_congr (Equiv.subtypeEquivRight fun bytes => h bytes.toList bytes.toList_length)

theorem card_bytes (k : Nat) : Fintype.card (List.Vector UInt8 k) = 256 ^ k := by
  rw [card_vector, ← FinEnum.card_eq_fintypeCard, FinEnum.card_UInt8]
  rfl

theorem ways_zero (h : P []) : ways 0 P = 1 := by
  have hall : ∀ bytes : List.Vector UInt8 0, P bytes.toList := by
    intro bytes
    rw [List.eq_nil_of_length_eq_zero bytes.toList_length]
    exact h
  rw [ways, Nat.card_congr (Equiv.subtypeUnivEquiv hall), Nat.card_eq_fintype_card, card_bytes, pow_zero]

theorem ways_nil_mul (f : Bytes → List Char) (base : Nat) :
    ways 0 (fun bytes => (f bytes).take 0 = []) * base ^ 0 = 256 ^ 0 := by
  have hone : ways 0 (fun bytes => (f bytes).take 0 = []) = 1 := ways_zero rfl
  rw [hone]
  rfl

/-- A string as its first `k` bytes and the rest. -/
def splitEquiv (k b : Nat) :
    List.Vector UInt8 (k + b) ≃ List.Vector UInt8 k × List.Vector UInt8 b where
  toFun bytes := (⟨bytes.toList.take k, by simp⟩, ⟨bytes.toList.drop k, by simp⟩)
  invFun parts := ⟨parts.1.toList ++ parts.2.toList, by simp⟩
  left_inv bytes := Subtype.ext (List.take_append_drop k bytes.toList)
  right_inv parts := by
    have hlength : parts.1.toList.length = k := parts.1.toList_length
    exact Prod.ext (Subtype.ext (List.take_left' hlength)) (Subtype.ext (List.drop_left' hlength))

/-- Conditions on the two parts of a string are met independently. -/
theorem ways_append (h : ∀ xs ys : Bytes, xs.length = k → ys.length = b →
    (P (xs ++ ys) ↔ Q xs ∧ R ys)) : ways (k + b) P = ways k Q * ways b R := by
  have hparts : ∀ bytes : List.Vector UInt8 (k + b), P bytes.toList ↔
      Q (splitEquiv k b bytes).1.toList ∧ R (splitEquiv k b bytes).2.toList := by
    intro bytes
    rw [← h _ _ (List.Vector.toList_length _) (List.Vector.toList_length _)]
    exact iff_of_eq (congrArg P (List.take_append_drop k bytes.toList).symm)
  unfold ways
  rw [← Nat.card_prod]
  exact Nat.card_congr (((splitEquiv k b).subtypeEquiv hparts).trans Equiv.subtypeProdEquivProd)

/-- The number that bytes write in base 256, the first byte first. -/
def number (bytes : Bytes) : Nat := Nat.ofDigits 256 (bytes.reverse.map UInt8.toNat)

theorem lt_of_mem_map_toNat (bytes : Bytes) : ∀ n ∈ bytes.reverse.map UInt8.toNat, n < 256 := by
  intro n hn
  obtain ⟨byte, -, rfl⟩ := List.mem_map.1 hn
  exact byte.toNat_lt

theorem number_lt (bytes : Bytes) : number bytes < 256 ^ bytes.length := by
  have h := Nat.ofDigits_lt_base_pow_length (by decide) (lt_of_mem_map_toNat bytes)
  rwa [List.length_map, List.length_reverse] at h

theorem number_injective {xs ys : Bytes} (hlength : xs.length = ys.length)
    (h : number xs = number ys) : xs = ys := by
  have hdigits := Nat.ofDigits_inj_of_len_eq (by decide) (by simpa using hlength)
    (lt_of_mem_map_toNat xs) (lt_of_mem_map_toNat ys) h
  have htoNat : Function.Injective UInt8.toNat := fun _ _ => UInt8.toNat_inj.1
  exact List.reverse_injective (htoNat.list_map hdigits)

/-- The strings of `k` bytes write the numbers below `256 ^ k`, each of them once. -/
theorem ways_number (k : Nat) (p : Nat → Prop) [DecidablePred p] :
    ways k (fun bytes => p (number bytes)) = Nat.count p (256 ^ k) := by
  let write (bytes : List.Vector UInt8 k) : Fin (256 ^ k) :=
    ⟨number bytes.toList, lt_of_lt_of_eq (number_lt _) (by rw [bytes.toList_length])⟩
  have hwrite : Function.Bijective write := by
    refine (Fintype.bijective_iff_injective_and_card write).2 ⟨fun xs ys h => ?_, ?_⟩
    · refine Subtype.ext (number_injective ?_ (Fin.mk.inj h))
      exact xs.toList_length.trans ys.toList_length.symm
    · rw [card_bytes, Fintype.card_fin]
  have hsame : {bytes : List.Vector UInt8 k // p (number bytes.toList)} ≃
      {n : {n // n < 256 ^ k} // p n} :=
    ((Equiv.ofBijective write hwrite).trans Fin.equivSubtype).subtypeEquiv fun _ => Iff.rfl
  rw [ways, Nat.card_congr (hsame.trans (Equiv.subtypeSubtypeEquivSubtypeInter _ p)),
    Nat.count_eq_card_filter_range]
  exact Nat.subtype_card _ fun n => by rw [Finset.mem_filter, Finset.mem_range]

/-- `d` numbers have the same leading part. -/
theorem ways_number_div {d t : Nat} (hd : 0 < d) (h : (t + 1) * d ≤ 256 ^ k) :
    ways k (fun bytes => number bytes / d = t) = d := by
  have hrange : (Finset.range (256 ^ k)).filter (fun v => v / d = t) =
      Finset.Ico (t * d) (t * d + d) := by
    ext v
    rw [Nat.add_mul, Nat.one_mul] at h
    rw [Finset.mem_filter, Finset.mem_range, Finset.mem_Ico, Nat.div_eq_iff hd]
    omega
  rw [ways_number k fun v => v / d = t, Nat.count_eq_card_filter_range, hrange, Nat.card_Ico,
    Nat.add_sub_cancel_left]

/-- A text in blocks is counted block by block. -/
theorem ways_block {f : Bytes → List Char} {j m : Nat} {head rest : List Char}
    (happend : ∀ xs ys : Bytes, xs.length = k → f (xs ++ ys) = f xs ++ f ys)
    (hlength : ∀ xs : Bytes, xs.length = k → (f xs).length = j) (hhead : head.length = j) :
    ways (k + b) (fun bytes => (f bytes).take (j + m) = head ++ rest) =
      ways k (fun xs => f xs = head) * ways b fun ys => (f ys).take m = rest := by
  refine ways_append fun xs ys hxs _ => ?_
  have hj := hlength xs hxs
  rw [happend xs ys hxs, ← hj, List.take_length_add_append,
    List.append_eq_append_iff_of_size_eq_left (hj.trans hhead.symm)]

theorem ways_block_mul {f : Bytes → List Char} {j m base : Nat} {head rest : List Char}
    (happend : ∀ xs ys : Bytes, xs.length = k → f (xs ++ ys) = f xs ++ f ys)
    (hlength : ∀ xs : Bytes, xs.length = k → (f xs).length = j) (hhead : head.length = j)
    (hblock : ways k (fun xs => f xs = head) * base ^ j = 256 ^ k)
    (hrest : ways b (fun ys => (f ys).take m = rest) * base ^ m = 256 ^ b) :
    ways (k + b) (fun bytes => (f bytes).take (j + m) = head ++ rest) * base ^ (j + m) =
      256 ^ (k + b) := by
  rw [ways_block happend hlength hhead, pow_add, pow_add, ← hblock, ← hrest]
  ring

end Bytes

/-! ### Alphabets -/

theorem getD_eq_getD_iff {alphabet : List Char} (h : alphabet.Nodup) {m n : Nat}
    (hm : m < alphabet.length) (hn : n < alphabet.length) (c : Char) :
    alphabet.getD m c = alphabet.getD n c ↔ m = n := by
  rw [List.getD_eq_getElem _ _ hm, List.getD_eq_getElem _ _ hn, h.getElem_inj_iff]

/-- A text over an alphabet is a row of digits. -/
theorem exists_digits {alphabet : List Char} {c : Char} {text : List Char}
    (h : ∀ a ∈ text, a ∈ alphabet) :
    ∃ digits : List Nat, (∀ t ∈ digits, t < alphabet.length) ∧
      text = digits.map (alphabet.getD · c) := by
  refine ⟨text.map alphabet.idxOf, ?_, ?_⟩
  · intro t ht
    obtain ⟨a, ha, rfl⟩ := List.mem_map.1 ht
    exact List.idxOf_lt_length_of_mem (h a ha)
  · have hread : ∀ a ∈ text, alphabet.getD (alphabet.idxOf a) c = a := by
      intro a ha
      have hlt := List.idxOf_lt_length_of_mem (h a ha)
      rw [List.getD_eq_getElem _ _ hlt, List.getElem_idxOf hlt]
    rw [List.map_map]
    exact ((List.map_congr_left hread).trans (List.map_id' text)).symm

namespace Bytes

/-- The first `j` characters of `k` bytes are the leading digits of their number in a base. -/
def Leads (f : Bytes → List Char) (digit : Nat → Char) (base k j : Nat) : Prop :=
  ∀ (bytes : Bytes) (digits : List Nat), bytes.length = k → digits.length = j →
    (∀ t ∈ digits, t < base) →
    ((f bytes).take j = digits.map digit ↔
      number bytes / (256 ^ k / base ^ j) = Nat.ofDigits base digits.reverse)

theorem Leads.ways_mul {f : Bytes → List Char} {digit : Nat → Char} {base k j : Nat}
    (h : Leads f digit base k j) (hbase : 1 < base) (hdvd : base ^ j ∣ 256 ^ k) {digits : List Nat}
    (hlength : digits.length = j) (hdigits : ∀ t ∈ digits, t < base) :
    ways k (fun bytes => (f bytes).take j = digits.map digit) * base ^ j = 256 ^ k := by
  obtain ⟨d, hd⟩ := hdvd
  have hpow : 0 < base ^ j := Nat.pow_pos (by omega)
  have hquot : 256 ^ k / base ^ j = d := by rw [hd, Nat.mul_div_cancel_left _ hpow]
  have hpos : 0 < d := Nat.pos_of_ne_zero fun hzero => by
    rw [hzero, Nat.mul_zero] at hd
    exact absurd hd (Nat.pow_pos (by decide)).ne'
  have hlt : Nat.ofDigits base digits.reverse < base ^ j := by
    have hlt := Nat.ofDigits_lt_base_pow_length hbase
      fun t ht => hdigits t (List.mem_reverse.1 ht)
    rwa [List.length_reverse, hlength] at hlt
  rw [ways_congr fun bytes hbytes => h bytes digits hbytes hlength hdigits, hquot,
    ways_number_div hpos (hd ▸ Nat.mul_le_mul_right d hlt), hd, Nat.mul_comm]

theorem Leads.ways_block {f : Bytes → List Char} {digit : Nat → Char} {base k j : Nat}
    (h : Leads f digit base k j) (hblock : ∀ xs : Bytes, xs.length = k → (f xs).length = j)
    (hbase : 1 < base) (hdvd : base ^ j ∣ 256 ^ k) {digits : List Nat} (hlength : digits.length = j)
    (hdigits : ∀ t ∈ digits, t < base) :
    ways k (fun bytes => f bytes = digits.map digit) * base ^ j = 256 ^ k := by
  rw [← h.ways_mul hbase hdvd hlength hdigits]
  refine congrArg (· * base ^ j) (ways_congr fun xs hxs => ?_)
  rw [List.take_of_length_le (hblock xs hxs).le]

end Bytes

open Bytes

/-! ### Base 64 -/

namespace Base64Url

theorem digit_eq_iff {m n : Nat} (hm : m < 64) (hn : n < 64) : digit m = digit n ↔ m = n :=
  getD_eq_getD_iff (by decide) hm hn 'A'

theorem chars_append {xs : Bytes} (h : xs.length = 3) (ys : Bytes) :
    chars (xs ++ ys) = chars xs ++ chars ys := by
  match xs, h with
  | [a, b, c], _ => simp [chars]

theorem length_chars_block {xs : Bytes} (h : xs.length = 3) : (chars xs).length = 4 := by
  match xs, h with
  | [a, b, c], _ => simp [chars]

theorem leads_one : Leads chars digit 64 1 1 := by
  intro bytes digits hbytes hlength hdigits
  match bytes, hbytes, digits, hlength with
  | [a], _, [w], _ =>
      have ha := a.toNat_lt
      have hw := hdigits w (by simp)
      simp [chars, number, digit_eq_iff (by omega : a.toNat / 4 < 64) hw]

theorem leads_two : Leads chars digit 64 2 2 := by
  intro bytes digits hbytes hlength hdigits
  match bytes, hbytes, digits, hlength with
  | [a, b], _, [w, x], _ =>
      have ha := a.toNat_lt
      have hb := b.toNat_lt
      have hw := hdigits w (by simp)
      have hx := hdigits x (by simp)
      simp only [chars, List.take, List.map, List.cons.injEq, and_true]
      rw [digit_eq_iff (by omega) hw, digit_eq_iff (by omega) hx]
      simp [number, Nat.ofDigits_cons]
      omega

theorem leads_three : Leads chars digit 64 3 3 := by
  intro bytes digits hbytes hlength hdigits
  match bytes, hbytes, digits, hlength with
  | [a, b, c], _, [w, x, y], _ =>
      have ha := a.toNat_lt
      have hb := b.toNat_lt
      have hc := c.toNat_lt
      have hw := hdigits w (by simp)
      have hx := hdigits x (by simp)
      have hy := hdigits y (by simp)
      simp only [chars, List.take, List.map, List.cons.injEq, and_true]
      rw [digit_eq_iff (by omega) hw, digit_eq_iff (by omega) hx, digit_eq_iff (by omega) hy]
      simp [number, Nat.ofDigits_cons]
      omega

theorem leads_four : Leads chars digit 64 3 4 := by
  intro bytes digits hbytes hlength hdigits
  match bytes, hbytes, digits, hlength with
  | [a, b, c], _, [w, x, y, z], _ =>
      have ha := a.toNat_lt
      have hb := b.toNat_lt
      have hc := c.toNat_lt
      have hw := hdigits w (by simp)
      have hx := hdigits x (by simp)
      have hy := hdigits y (by simp)
      have hz := hdigits z (by simp)
      simp only [chars, List.take, List.map, List.cons.injEq, and_true]
      rw [digit_eq_iff (by omega) hw, digit_eq_iff (by omega) hx, digit_eq_iff (by omega) hy,
        digit_eq_iff (by omega) hz]
      simp [number, Nat.ofDigits_cons]
      omega

/-- All texts of one length stand for equally many strings. -/
theorem ways_mul {n b : Nat} (hb : b = (n * 3 + 3) / 4) (digits : List Nat) (hn : digits.length = n)
    (h : ∀ t ∈ digits, t < 64) :
    ways b (fun bytes => (chars bytes).take n = digits.map digit) * 64 ^ n = 256 ^ b := by
  match n, digits, hn with
  | 0, [], _ =>
      obtain rfl : b = 0 := hb
      exact ways_nil_mul chars 64
  | 1, [_], hn =>
      obtain rfl : b = 1 := hb
      exact leads_one.ways_mul (by decide) (by decide) hn h
  | 2, [_, _], hn =>
      obtain rfl : b = 2 := hb
      exact leads_two.ways_mul (by decide) (by decide) hn h
  | 3, [_, _, _], hn =>
      obtain rfl : b = 3 := hb
      exact leads_three.ways_mul (by decide) (by decide) hn h
  | n + 4, w :: x :: y :: z :: rest, hn =>
      obtain ⟨c, rfl⟩ : ∃ c, b = 3 + c := ⟨(n * 3 + 3) / 4, by omega⟩
      have hrest := ways_mul (n := n) (b := c) (by omega) rest (by simpa using hn)
        fun t ht => h t (List.mem_append_right [w, x, y, z] ht)
      have hblock : ways 3 (fun xs => chars xs = [w, x, y, z].map digit) * 64 ^ 4 = 256 ^ 3 :=
        leads_four.ways_block (fun xs h => length_chars_block h) (by decide) (by decide) rfl fun t ht =>
          h t (List.mem_append_left rest ht)
      rw [Nat.add_comm n 4]
      exact ways_block_mul (fun xs ys h => chars_append h ys) (fun xs h => length_chars_block h) rfl
        hblock hrest

end Base64Url

/-! ### Hexadecimal digits -/

namespace Hex

theorem digit_eq_iff {m n : Nat} (hm : m < 16) (hn : n < 16) : digit m = digit n ↔ m = n :=
  getD_eq_getD_iff (by decide) hm hn '0'

theorem chars_append (xs ys : Bytes) : chars (xs ++ ys) = chars xs ++ chars ys :=
  List.flatMap_append

theorem leads_one : Leads chars digit 16 1 1 := by
  intro bytes digits hbytes hlength hdigits
  match bytes, hbytes, digits, hlength with
  | [a], _, [w], _ =>
      have ha := a.toNat_lt
      have hw := hdigits w (by simp)
      simp [chars, number, digit_eq_iff (by omega : a.toNat / 16 < 16) hw]

theorem leads_two : Leads chars digit 16 1 2 := by
  intro bytes digits hbytes hlength hdigits
  match bytes, hbytes, digits, hlength with
  | [a], _, [w, x], _ =>
      have ha := a.toNat_lt
      have hw := hdigits w (by simp)
      have hx := hdigits x (by simp)
      simp only [chars, List.flatMap_cons, List.flatMap_nil, List.append_nil, List.take, List.map,
        List.cons.injEq, and_true]
      rw [digit_eq_iff (by omega) hw, digit_eq_iff (by omega) hx]
      simp [number, Nat.ofDigits_cons]
      omega

theorem length_chars_block {xs : Bytes} (h : xs.length = 1) : (chars xs).length = 2 := by
  match xs, h with
  | [a], _ => rfl

theorem ways_mul {n b : Nat} (hb : b = (n + 1) / 2) (digits : List Nat) (hn : digits.length = n)
    (h : ∀ t ∈ digits, t < 16) :
    ways b (fun bytes => (chars bytes).take n = digits.map digit) * 16 ^ n = 256 ^ b := by
  match n, digits, hn with
  | 0, [], _ =>
      obtain rfl : b = 0 := hb
      exact ways_nil_mul chars 16
  | 1, [_], hn =>
      obtain rfl : b = 1 := hb
      exact leads_one.ways_mul (by decide) (by decide) hn h
  | n + 2, w :: x :: rest, hn =>
      obtain ⟨c, rfl⟩ : ∃ c, b = 1 + c := ⟨(n + 1) / 2, by omega⟩
      have hrest := ways_mul (n := n) (b := c) (by omega) rest (by simpa using hn)
        fun t ht => h t (List.mem_append_right [w, x] ht)
      have hblock : ways 1 (fun xs => chars xs = [w, x].map digit) * 16 ^ 2 = 256 ^ 1 :=
        leads_two.ways_block (fun xs h => length_chars_block h) (by decide) (by decide) rfl fun t ht =>
          h t (List.mem_append_left rest ht)
      rw [Nat.add_comm n 2]
      exact ways_block_mul (fun xs ys _ => chars_append xs ys) (fun xs h => length_chars_block h) rfl
        hblock hrest

end Hex

/-! ### Base 32 -/

namespace Crockford

theorem digit_eq_iff {m n : Nat} (hm : m < 32) (hn : n < 32) : digit m = digit n ↔ m = n :=
  getD_eq_getD_iff (by decide) hm hn '0'

theorem chars_append (xs ys : Bytes) : chars (xs ++ ys) = chars xs ++ chars ys :=
  List.map_append

theorem length_chars (bytes : Bytes) : (chars bytes).length = bytes.length :=
  List.length_map _

/-- A character shows the low bits of a byte of its own. -/
theorem ways_one {t : Nat} (h : t < 32) : ways 1 (fun xs => chars xs = [digit t]) = 8 := by
  have hmod : ∀ bytes : Bytes, bytes.length = 1 →
      (chars bytes = [digit t] ↔ number bytes ≡ t [MOD 32]) := by
    intro bytes hbytes
    match bytes, hbytes with
    | [a], _ =>
        have hlt : a.toNat % 32 < 32 := Nat.mod_lt _ (by decide)
        simp [chars, number, digit_eq_iff hlt h, Nat.ModEq, Nat.mod_eq_of_lt h]
  rw [ways_congr hmod, ways_number 1 fun v => v ≡ t [MOD 32], Nat.count_modEq_card _ (by decide)]
  rfl

theorem ways_mul {n : Nat} (digits : List Nat) (hn : digits.length = n) (h : ∀ t ∈ digits, t < 32) :
    ways n (fun bytes => (chars bytes).take n = digits.map digit) * 32 ^ n = 256 ^ n := by
  match n, digits, hn with
  | 0, [], _ => exact ways_nil_mul chars 32
  | n + 1, t :: rest, hn =>
      have hrest := ways_mul (n := n) rest (by simpa using hn) fun t ht => h t (List.mem_cons_of_mem _ ht)
      have hblock : ways 1 (fun xs => chars xs = [t].map digit) * 32 ^ 1 = 256 ^ 1 :=
        congrArg (· * 32) (ways_one (h t List.mem_cons_self))
      rw [Nat.add_comm n 1]
      exact ways_block_mul (fun xs ys _ => chars_append xs ys) (fun xs h => (length_chars xs).trans h)
        (List.length_singleton ..) hblock hrest

end Crockford

end Latchkey
