import Unreferenced.Proofs.Json.Records
import Unreferenced.Proofs.Numeric.Double

/-!
# Strict drafts

The reader of a content looks at a text only if it is strict: whole, without
strings that are none, without numbers that no double can hold, and not too
deep.  A strict draft has strict parts (`Draft.isStrict_part`), and a written
value is strict if its parts are and there is room for one more array or object
(`Draft.isStrict_arr`, `Draft.isStrict_obj`).  Numbers of up to 52 bits are always
in range (`Numeral.inRange_ofInt`).
-/

namespace Unreferenced
namespace Json

/-! ## Small numbers -/

namespace Numeral

open Numeric

theorem productFits_zero {n : Nat} (small : n < Nat.pow 2 52) : productFits n 0 = true := by
  have ten : (Double.ofNat (Nat.pow 10 0)).num = (Double.ofNat (Nat.pow 10 0)).den := by
    rw [Double.num_ofNat (n := Nat.pow 10 0) (by decide)]
    exact Nat.one_mul _
  have big : n < overflow := Nat.lt_of_lt_of_le small (by decide +kernel)
  have pos : 0 < (Double.ofNat n).den * (Double.ofNat (Nat.pow 10 0)).den :=
    Nat.mul_pos (Double.den_pos _) (Double.den_pos _)
  rw [productFits, decide_eq_true_iff, Double.num_ofNat small, ten, Nat.mul_assoc]
  exact Nat.mul_lt_mul_of_pos_right big pos

theorem le_foldl_digit (ds : List Char) (n : Nat) :
    n ≤ ds.foldl (fun n c => 10 * n + digit c) n := by
  induction ds generalizing n with
  | nil => exact Nat.le_refl n
  | cons c ds ih =>
    have := ih (10 * n + digit c)
    rw [List.foldl_cons]
    omega

/-- As long as the significand holds all digits, it is the value of them. -/
theorem foldl_pushWhole {ds : List Char} {n : Nat}
    (fits : ds.foldl (fun n c => 10 * n + digit c) n ≤ maxSignificand) :
    ds.foldl Decimal.pushWhole ⟨n, 0, false⟩ =
      ⟨ds.foldl (fun n c => 10 * n + digit c) n, 0, false⟩ := by
  induction ds generalizing n with
  | nil => rfl
  | cons c ds ih =>
    have next : ¬maxSignificand < 10 * n + digit c :=
      Nat.not_lt.mpr (Nat.le_trans (le_foldl_digit ds _) fits)
    have push : Decimal.pushWhole ⟨n, 0, false⟩ c = ⟨10 * n + digit c, 0, false⟩ := by
      simp [Decimal.pushWhole, next]
    rw [List.foldl_cons, push, ih fits, List.foldl_cons]

theorem inRange_natText (negative : Bool) {n : Nat} (small : n < Nat.pow 2 52) :
    inRange ⟨negative, natText n, [], none⟩ = true := by
  have fits : value (natText n) ≤ maxSignificand := by
    have digits : Nat.pow 2 52 = 4503599627370496 := rfl
    rw [value_natText, maxSignificand]
    omega
  have whole := foldl_pushWhole (n := 0) fits
  simp only [inRange, toDecimal, whole, List.foldl_nil]
  rw [← value, value_natText, Int.toNat_zero, productFits_zero small]
  simp

/-- A double can hold every integer of up to 52 bits. -/
theorem inRange_ofInt {i : Int} (small : i.natAbs < Nat.pow 2 52) : (ofInt i).inRange = true := by
  cases i with
  | ofNat n => exact inRange_natText false small
  | negSucc n => exact inRange_natText true small

end Numeral

/-! ## Parts of strict drafts -/

namespace Draft

variable {depth : Nat}

theorem strictItems_iff {items : List Draft} :
    strictItems depth items = true ↔ ∀ v ∈ items, v.isStrict depth = true := by
  induction items with
  | nil => simp [strictItems]
  | cons v items ih => simp [strictItems, ih]

theorem strictMembers_iff {members : List (Option String × Draft)} :
    strictMembers depth members = true ↔
      ∀ m ∈ members, m.1.isSome = true ∧ m.2.isStrict depth = true := by
  induction members with
  | nil => simp [strictMembers]
  | cons m members ih => simp [strictMembers, ih]

/-- The parts of a strict draft are strict, one level down. -/
theorem isStrict_part {d part : Draft} (strict : d.isStrict depth = true) (h : part ∈ d.parts) :
    ∃ inner, depth = inner + 1 ∧ part.isStrict inner = true := by
  cases d with
  | arr items =>
    cases depth with
    | zero => cases strict
    | succ inner => exact ⟨inner, rfl, strictItems_iff.mp strict part h⟩
  | obj members =>
    cases depth with
    | zero => cases strict
    | succ inner =>
      obtain ⟨m, hm, rfl⟩ := List.mem_map.mp h
      exact ⟨inner, rfl, (strictMembers_iff.mp strict m hm).2⟩
  | _ => cases h

/-- Of some members of a strict object an object can be made that is strict. -/
theorem isStrict_filter {members : List (Option String × Draft)}
    (keep : Option String × Draft → Bool) (strict : (obj members).isStrict depth = true) :
    (obj (members.filter keep)).isStrict depth = true := by
  cases depth with
  | zero => cases strict
  | succ inner =>
    refine strictMembers_iff.mpr ?_
    intro m hm
    exact strictMembers_iff.mp strict m (List.mem_filter.mp hm).1

/-- A written array is strict if its items are, one level down. -/
theorem isStrict_arr {items : List Json} (h : ∀ v ∈ items, (ofJson v).isStrict depth = true) :
    (ofJson (.arr items)).isStrict (depth + 1) = true := by
  rw [ofJson, ofItems_eq_map, isStrict, strictItems_iff]
  intro v hv
  obtain ⟨w, hw, rfl⟩ := List.mem_map.mp hv
  exact h w hw

/-- A written object is strict if the values of its members are, one level down. -/
theorem isStrict_obj {members : List (String × Json)}
    (h : ∀ m ∈ members, (ofJson m.2).isStrict depth = true) :
    (ofJson (.obj members)).isStrict (depth + 1) = true := by
  rw [ofJson, ofMembers_eq_map, isStrict, strictMembers_iff]
  intro m hm
  obtain ⟨n, hn, rfl⟩ := List.mem_map.mp hm
  exact ⟨rfl, h n hn⟩

@[simp]
theorem isStrict_str (s : String) : (ofJson (.str s)).isStrict depth = true := rfl

/-- A written number of 32 bits is strict. -/
theorem isStrict_int32 (i : Int32) : (ofJson (.int i.toInt)).isStrict depth = true := by
  have low := Int32.le_toInt i
  have high := Int32.toInt_lt i
  have digits : Nat.pow 2 52 = 4503599627370496 := rfl
  rw [ofJson, isStrict]
  exact Numeral.inRange_ofInt (by omega)

end Draft

/-- A strict draft in which a record is read has room for one array or object. -/
theorem Record.pos_of_read {α : Type} {form : Record α} {d : Draft} {v : α}
    (h : form.read d = .ok v) {depth : Nat} (strict : d.isStrict depth = true) : 0 < depth := by
  cases depth with
  | succ depth => exact Nat.succ_pos depth
  | zero =>
    cases d with
    | obj members => cases strict
    | arr items => cases strict
    | _ => cases h

end Json
end Unreferenced
