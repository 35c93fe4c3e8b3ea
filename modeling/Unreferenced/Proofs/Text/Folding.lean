import Mathlib
import Unreferenced.Proofs.Text.Lines
import Unreferenced.Text.Folding
import Unreferenced.Text.Token

/-!
# What letter case does not change

Folding to upper case moves ASCII letters only (`toUpper_of_not_isAlpha`).  A test
that has one answer for all letters therefore does not see it
(`eq_toUpper_of_letters`): neither the blank characters, nor the word characters,
nor any mark.  So the functions that trim and cut texts by such tests commute with
folding (`trim_upper`, `splitLast?_upper`, `lines_upper`, `words_upper`).
-/

namespace Unreferenced
namespace Text

/-! ## Characters -/

/-- Only letters have another upper case. -/
theorem toUpper_of_not_isAlpha {c : Char} (h : c.isAlpha = false) : c.toUpper = c := by
  refine Char.toUpper_eq_of_not_isLower ?_
  intro lower
  rw [Char.isAlpha, lower, Bool.or_true] at h
  cases h

theorem toNat_of_isAlpha {c : Char} (h : c.isAlpha = true) :
    (65 ≤ c.toNat ∧ c.toNat ≤ 90) ∨ (97 ≤ c.toNat ∧ c.toNat ≤ 122) := by
  simpa [Char.isAlpha, Char.isUpper, Char.isLower, UInt32.le_iff_toNat_le] using h

/-- A test that finds all letters alike does not see letter case. -/
theorem eq_toUpper_of_letters {p : Char → Bool} (answer : Bool)
    (letters : ∀ c, c.isAlpha = true → p c = answer) (c : Char) : p c.toUpper = p c := by
  cases alpha : c.isAlpha with
  | false => rw [toUpper_of_not_isAlpha alpha]
  | true => rw [letters c alpha, letters c.toUpper (by rw [Char.isAlpha_toUpper_eq_isAlpha, alpha])]

theorem isBlank_toUpper (c : Char) : isBlank c.toUpper = isBlank c := by
  refine eq_toUpper_of_letters false ?_ c
  intro c alpha
  have := toNat_of_isAlpha alpha
  simp only [isBlank, Bool.or_eq_false_iff, Bool.and_eq_false_iff, decide_eq_false_iff_not,
    beq_eq_false_iff_ne]
  omega

theorem isAlphanum_toUpper (c : Char) : c.toUpper.isAlphanum = c.isAlphanum := by
  refine eq_toUpper_of_letters true ?_ c
  intro c alpha
  rw [Char.isAlphanum, alpha, Bool.true_or]

theorem isWord_toUpper (c : Char) : isWord c.toUpper = isWord c := by
  refine eq_toUpper_of_letters true ?_ c
  intro c alpha
  exact isWord_of_isAlphanum c (by rw [Char.isAlphanum, alpha, Bool.true_or])

theorem isAsciiWord_toUpper (c : Char) : isAsciiWord c.toUpper = isAsciiWord c := by
  refine eq_toUpper_of_letters true ?_ c
  intro c alpha
  rw [isAsciiWord, Char.isAlphanum, alpha, Bool.true_or, Bool.true_or]

/-- A character is a mark exactly if its upper case is. -/
theorem toUpper_eq_iff (mark : Char) (h : mark.isAlpha = false) (c : Char) :
    c.toUpper = mark ↔ c = mark := by
  cases alpha : c.isAlpha with
  | false => rw [toUpper_of_not_isAlpha alpha]
  | true =>
    constructor
    · rintro rfl
      rw [Char.isAlpha_toUpper_eq_isAlpha, alpha] at h
      cases h
    · rintro rfl
      rw [alpha] at h
      cases h

/-! ## Texts -/

theorem upper_upper (cs : List Char) : upper (upper cs) = upper cs := by
  rw [upper, upper, List.map_map]
  exact List.map_congr_left fun c _ => Char.toUpper_toUpper_eq_toUpper c

theorem upper_cons (c : Char) (cs : List Char) : upper (c :: cs) = c.toUpper :: upper cs := rfl

theorem length_upper (cs : List Char) : (upper cs).length = cs.length := List.length_map _

theorem upper_reverse (cs : List Char) : upper cs.reverse = (upper cs).reverse :=
  List.map_reverse

theorem upper_drop (n : Nat) (cs : List Char) : upper (cs.drop n) = (upper cs).drop n :=
  List.map_drop

@[simp]
theorem upper_eq_nil_iff {cs : List Char} : upper cs = [] ↔ cs = [] := List.map_eq_nil_iff

/-- A mark occurs in a text exactly if it does once the text is folded. -/
theorem mem_upper_iff {mark : Char} (h : mark.isAlpha = false) {cs : List Char} :
    mark ∈ upper cs ↔ mark ∈ cs := by
  rw [upper, List.mem_map]
  simp only [toUpper_eq_iff mark h, exists_eq_right]

theorem dropWhile_upper {p : Char → Bool} (h : ∀ c, p c.toUpper = p c) (cs : List Char) :
    (upper cs).dropWhile p = upper (cs.dropWhile p) := by
  rw [upper, List.dropWhile_map, show p ∘ Char.toUpper = p from funext h]
  rfl

theorem trim_upper (cs : List Char) : trim (upper cs) = upper (trim cs) := by
  rw [trim, trimStart, dropWhile_upper isBlank_toUpper, trimEnd, ← upper_reverse,
    dropWhile_upper isBlank_toUpper, ← upper_reverse]
  rfl

theorem splitLast?_upper {sep : Char} (mark : sep.isAlpha = false) (cs : List Char) :
    splitLast? sep (upper cs) = (splitLast? sep cs).map (Prod.map upper upper) := by
  induction cs with
  | nil => rfl
  | cons c cs ih =>
    rw [upper_cons, splitLast?, ih, splitLast?]
    cases splitLast? sep cs with
    | some parts => rfl
    | none =>
      by_cases here : c = sep
      · simp [here, toUpper_of_not_isAlpha mark]
      · simp [here, mt (toUpper_eq_iff sep mark c).mp here]

theorem lines_upper (cs : List Char) : lines (upper cs) = (lines cs).map upper := by
  have feed := toUpper_eq_iff '\n' (by decide)
  have ret := toUpper_eq_iff '\r' (by decide)
  have kept {c : Char} {rest : List Char}
      (noReturn : ∀ rest', c = '\r' → rest = '\n' :: rest' → False) :
      c.toUpper = '\r' → (upper rest).head? ≠ some '\n' := by
    intro isReturn follows
    cases rest with
    | nil => cases follows
    | cons d ds =>
      have follows : some d.toUpper = some '\n' := follows
      rw [Option.some.injEq, feed] at follows
      exact noReturn ds ((ret c).mp isReturn) (by rw [follows])
  fun_induction lines cs with
  | case1 => rfl
  | case2 rest ih =>
    rw [List.map_cons, ← ih]
    rfl
  | case3 rest ih =>
    rw [List.map_cons, ← ih]
    rfl
  | case4 c rest noFeed noReturn none ih =>
    rw [upper_cons, lines_cons (mt (feed c).mp noFeed) (kept noReturn), ih, none]
    rfl
  | case5 c rest noFeed noReturn line others some ih =>
    rw [upper_cons, lines_cons (mt (feed c).mp noFeed) (kept noReturn), ih, some]
    rfl

theorem wordAt_upper (cs : List Char) : wordAt (upper cs) = upper (wordAt cs) := by
  have same : isAsciiWord ∘ Char.toUpper = isAsciiWord := funext isAsciiWord_toUpper
  rw [wordAt, upper, ← List.map_take, List.takeWhile_map, same]
  rfl

theorem words_upper (cs : List Char) : words (upper cs) = (words cs).map upper := by
  fun_induction words cs with
  | case1 => rw [upper, List.map_nil, words, List.map_nil]
  | case2 c rest w long ih =>
    have found : wordAt (c.toUpper :: upper rest) = upper w := wordAt_upper (c :: rest)
    rw [upper_cons, words, found, length_upper, if_pos long, List.map_cons, ← ih, upper_drop]
  | case3 c rest w short ih =>
    have found : wordAt (c.toUpper :: upper rest) = upper w := wordAt_upper (c :: rest)
    rw [upper_cons, words, found, length_upper, if_neg short, ih]

end Text
end Unreferenced
