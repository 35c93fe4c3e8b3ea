import Unreferenced.Proofs.Identity.Order
import Unreferenced.Proofs.Text.Folding

/-!
# Texts as bytes

Texts are compared by their code points, and letter case is a matter of characters.  Both can
as well be told from the bytes of the texts in UTF-8.  Byte by byte, folding changes the bytes
of ASCII letters and nothing else, since all bytes of other characters are greater
(`map_upperByte_bytes`).  And the bytes of texts are in the order of their code points
(`compare_bytes`): where two characters differ, their bytes do, and the first bytes that
differ are in the order of the characters (`compare_codes_of_lt`).
-/

namespace Unreferenced
namespace Text

open String (utf8EncodeChar)

/-! ## Bytes -/

/-- The bytes of a text in UTF-8. -/
def bytes (cs : List Char) : List UInt8 := cs.flatMap utf8EncodeChar

/-- These are the bytes in which a string is stored. -/
theorem toByteArray_bytes (s : String) : (bytes s.toList).toByteArray = s.toByteArray :=
  String.utf8Encode_toList

/-- The bytes of the character with this code point, as numbers.  A code point that does not
fit into one byte is written to the base of 64, and the first byte tells how many there are. -/
def codes (n : Nat) : List Nat :=
  if n < 0x80 then [n]
  else if n < 0x800 then [0xC0 + n / 64, 0x80 + n % 64]
  else if n < 0x10000 then [0xE0 + n / 64 / 64, 0x80 + n / 64 % 64, 0x80 + n % 64]
  else [0xF0 + n / 64 / 64 / 64, 0x80 + n / 64 / 64 % 64, 0x80 + n / 64 % 64, 0x80 + n % 64]

theorem toNat_lt (c : Char) : c.toNat < 0x110000 := by
  have valid := c.valid
  rw [UInt32.isValidChar, Nat.isValidChar] at valid
  rw [← Char.toNat_val]
  omega

/-- These are the bytes of the character, since nothing overflows. -/
theorem map_toNat_utf8EncodeChar (c : Char) :
    (utf8EncodeChar c).map UInt8.toNat = codes c.toNat := by
  have small := toNat_lt c
  rw [utf8EncodeChar, codes]
  simp only [Char.toNat_val]
  split_ifs <;> simp <;> omega

theorem map_toNat_bytes_cons (c : Char) (cs : List Char) :
    (bytes (c :: cs)).map UInt8.toNat = codes c.toNat ++ (bytes cs).map UInt8.toNat := by
  rw [bytes, List.flatMap_cons, List.map_append, map_toNat_utf8EncodeChar, bytes]

/-! ## Letter case -/

/-- The byte of an ASCII letter in upper case; other bytes stay as they are. -/
def upperByte (b : UInt8) : UInt8 := if 97 ≤ b ∧ b ≤ 122 then b - 32 else b

theorem upperByte_of_le {b : UInt8} (other : 128 ≤ b.toNat) : upperByte b = b := by
  refine if_neg ?_
  rw [UInt8.le_iff_toNat_le, UInt8.le_iff_toNat_le]
  have last : (122 : UInt8).toNat = 122 := rfl
  omega

/-- The bytes of a character that is not in ASCII are not in ASCII either. -/
theorem le_of_mem_codes {n : Nat} (other : 128 ≤ n) : ∀ k ∈ codes n, 128 ≤ k := by
  rw [codes, if_neg (Nat.not_lt.mpr other)]
  split_ifs <;> simp <;> omega

/-- Folding a character folds its bytes. -/
theorem map_upperByte_utf8EncodeChar (c : Char) :
    (utf8EncodeChar c).map upperByte = utf8EncodeChar c.toUpper := by
  have ascii : ∀ n < 128, (utf8EncodeChar (Char.ofNat n)).map upperByte =
      utf8EncodeChar (Char.ofNat n).toUpper := by decide +kernel
  rcases Nat.lt_or_ge c.toNat 128 with small | large
  · have folds := ascii c.toNat small
    rwa [Char.ofNat_toNat] at folds
  · have noLetter : c.isAlpha = false := by
      rw [← Bool.not_eq_true]
      intro alpha
      have := toNat_of_isAlpha alpha
      omega
    rw [toUpper_of_not_isAlpha noLetter]
    have kept : ∀ b ∈ utf8EncodeChar c, upperByte b = id b := by
      intro b member
      refine upperByte_of_le (le_of_mem_codes large b.toNat ?_)
      rw [← map_toNat_utf8EncodeChar]
      exact List.mem_map_of_mem member
    rw [List.map_congr_left kept, List.map_id]

/-- Folding a text folds its bytes. -/
theorem map_upperByte_bytes (cs : List Char) : (bytes cs).map upperByte = bytes (upper cs) := by
  rw [bytes, List.map_flatMap, bytes, upper, List.flatMap_map]
  simp only [map_upperByte_utf8EncodeChar]

/-! ## Order -/

theorem compare_toNat (a b : UInt8) : compare a.toNat b.toNat = compare a b := by
  show compareOfLessAndEq a.toNat b.toNat = compareOfLessAndEq a b
  simp only [compareOfLessAndEq, UInt8.lt_iff_toNat_lt, UInt8.toNat_inj]

theorem compare_map_toNat (xs ys : List UInt8) :
    compare (xs.map UInt8.toNat) (ys.map UInt8.toNat) = compare xs ys := by
  induction xs generalizing ys with
  | nil => cases ys <;> rfl
  | cons x xs ih =>
    cases ys with
    | nil => rfl
    | cons y ys =>
      rw [List.map_cons, List.map_cons, List.compare_cons_cons, List.compare_cons_cons, ih,
        compare_toNat]

/-- No character is without bytes. -/
theorem exists_codes_append (n : Nat) (s : List Nat) : ∃ k rest, codes n ++ s = k :: rest := by
  rw [codes]
  split_ifs <;> exact ⟨_, _, rfl⟩

theorem compare_append_left (front s t : List Nat) :
    compare (front ++ s) (front ++ t) = compare s t := by
  induction front with
  | nil => rfl
  | cons a front ih =>
    rw [List.cons_append, List.cons_append, List.compare_cons_cons, Std.compare_self, ih]
    rfl

theorem compare_cons_eq_lt_iff {a b : Nat} {s t : List Nat} :
    compare (a :: s) (b :: t) = .lt ↔ a < b ∨ a = b ∧ compare s t = .lt := by
  rw [List.compare_cons_cons, Ordering.then_eq_lt, Nat.compare_eq_lt, Nat.compare_eq_eq]

/-- The smaller of two characters has the smaller bytes, whatever follows. -/
theorem compare_codes_of_lt {m n : Nat} (less : m < n) (s t : List Nat) :
    compare (codes m ++ s) (codes n ++ t) = .lt := by
  rw [codes, codes]
  split_ifs <;> simp only [List.cons_append, compare_cons_eq_lt_iff] <;> omega

theorem compare_codes_append (m n : Nat) (s t : List Nat) :
    compare (codes m ++ s) (codes n ++ t) = (compare m n).then (compare s t) := by
  rcases Nat.lt_trichotomy m n with less | rfl | greater
  · rw [compare_codes_of_lt less, Nat.compare_eq_lt.mpr less]
    rfl
  · rw [compare_append_left, Std.compare_self]
    rfl
  · rw [Std.OrientedOrd.eq_swap, compare_codes_of_lt greater, Nat.compare_eq_gt.mpr greater]
    rfl

/-- The bytes of texts are in the order of the code points. -/
theorem compare_bytes (xs ys : List Char) : compare (bytes xs) (bytes ys) = compareChars xs ys := by
  rw [← compare_map_toNat]
  induction xs generalizing ys with
  | nil =>
    cases ys with
    | nil => rfl
    | cons y ys =>
      obtain ⟨k, rest, eq⟩ := exists_codes_append y.toNat ((bytes ys).map UInt8.toNat)
      rw [map_toNat_bytes_cons, eq]
      rfl
  | cons x xs ih =>
    cases ys with
    | nil =>
      obtain ⟨k, rest, eq⟩ := exists_codes_append x.toNat ((bytes xs).map UInt8.toNat)
      rw [map_toNat_bytes_cons, eq]
      rfl
    | cons y ys =>
      rw [map_toNat_bytes_cons, map_toNat_bytes_cons, compare_codes_append, ih, compareChars]

theorem bytes_inj {xs ys : List Char} : bytes xs = bytes ys ↔ xs = ys := by
  rw [← Std.LawfulEqOrd.compare_eq_iff_eq, compare_bytes, compareChars_eq_compare,
    Std.LawfulEqOrd.compare_eq_iff_eq, map_toNat_inj]

end Text
end Unreferenced
