import Unreferenced.Text.Blank
import Unreferenced.Text.Pieces
import Unreferenced.Text.Word

/-!
# Lines and trimming

A trimmed text neither begins nor ends with a blank character, and trimming
changes nothing else (`trimmed_trim`, `trim_eq_self`, `exists_eq_trim`).  No word
character is blank (`isBlank_of_isWord`), so a text of word characters is trimmed.

Lines that hold no line feed and do not end with a carriage return come back
when they are ended by line feeds and split again (`lines_endLines`).  If none
of them is empty they also come back when they are joined (`lines_joinLines`).
-/

namespace Unreferenced
namespace Text

/-! ## Trimming -/

/-- The text neither begins nor ends with a blank character. -/
def Trimmed (cs : List Char) : Prop :=
  (∀ c, cs.head? = some c → isBlank c = false) ∧ ∀ c, cs.getLast? = some c → isBlank c = false

theorem isBlank_of_head?_dropWhile {cs : List Char} {c : Char}
    (h : (cs.dropWhile isBlank).head? = some c) : isBlank c = false := by
  have first := List.head?_dropWhile_not isBlank cs
  rw [h] at first
  exact first

theorem dropWhile_isBlank_eq_self {cs : List Char}
    (h : ∀ c, cs.head? = some c → isBlank c = false) : cs.dropWhile isBlank = cs := by
  cases cs with
  | nil => rfl
  | cons c cs => rw [List.dropWhile_cons_of_neg (by simp [h c rfl])]

/-- What trimming leaves stands between blank characters. -/
theorem exists_eq_trim (cs : List Char) :
    ∃ before after, cs = before ++ trim cs ++ after ∧
      (∀ c ∈ before, isBlank c = true) ∧ ∀ c ∈ after, isBlank c = true := by
  refine ⟨cs.takeWhile isBlank, ((trimStart cs).reverse.takeWhile isBlank).reverse, ?_, ?_, ?_⟩
  · rw [trim, trimEnd, List.append_assoc, ← List.reverse_append, List.takeWhile_append_dropWhile,
      List.reverse_reverse, trimStart, List.takeWhile_append_dropWhile]
  · intro c hc
    exact List.all_eq_true.mp List.all_takeWhile c hc
  · intro c hc
    exact List.all_eq_true.mp List.all_takeWhile c (List.mem_reverse.mp hc)

theorem mem_of_mem_trim {cs : List Char} {c : Char} (h : c ∈ trim cs) : c ∈ cs := by
  obtain ⟨before, after, eq, -, -⟩ := exists_eq_trim cs
  rw [eq]
  simp [h]

/-- A text with a character that is not blank is not trimmed away. -/
theorem trim_ne_nil {cs : List Char} {c : Char} (member : c ∈ cs) (visible : isBlank c = false) :
    trim cs ≠ [] := by
  intro none
  obtain ⟨before, after, eq, blankBefore, blankAfter⟩ := exists_eq_trim cs
  rw [none, List.append_nil] at eq
  rw [eq, List.mem_append] at member
  rcases member with h | h
  · rw [blankBefore c h] at visible
    cases visible
  · rw [blankAfter c h] at visible
    cases visible

/-- A trimmed text begins and ends with characters that are not blank. -/
theorem trimmed_trim (cs : List Char) : Trimmed (trim cs) := by
  constructor
  · intro c h
    have whole : trimStart cs = trim cs ++ ((trimStart cs).reverse.takeWhile isBlank).reverse := by
      rw [trim, trimEnd, ← List.reverse_append, List.takeWhile_append_dropWhile,
        List.reverse_reverse]
    have first : (trimStart cs).head? = some c := by
      rw [whole, List.head?_append, h]
      rfl
    exact isBlank_of_head?_dropWhile first
  · intro c h
    rw [trim, trimEnd, List.getLast?_reverse] at h
    exact isBlank_of_head?_dropWhile h

theorem trim_eq_self {cs : List Char} (h : Trimmed cs) : trim cs = cs := by
  rw [trim, trimStart, dropWhile_isBlank_eq_self h.1, trimEnd, dropWhile_isBlank_eq_self,
    List.reverse_reverse]
  intro c hc
  rw [List.head?_reverse] at hc
  exact h.2 c hc

theorem trimmed_iff {cs : List Char} : Trimmed cs ↔ trim cs = cs :=
  ⟨trim_eq_self, fun same => same ▸ trimmed_trim cs⟩

theorem trim_trimStart (cs : List Char) : trim (trimStart cs) = trim cs := by
  have once : trimStart (trimStart cs) = trimStart cs :=
    dropWhile_isBlank_eq_self fun _ => isBlank_of_head?_dropWhile
  rw [trim, once, trim]

/-- Blank characters after a text are trimmed with those at its end. -/
theorem trim_append_blank {after : List Char} (blank : ∀ c ∈ after, isBlank c = true)
    (cs : List Char) : trim (cs ++ after) = trim cs := by
  have none : (after ++ []).dropWhile isBlank = [] := List.dropWhile_append_of_pos blank
  rw [List.append_nil] at none
  have start : trimStart (cs ++ after) =
      if (trimStart cs).isEmpty then [] else trimStart cs ++ after := by
    rw [trimStart, List.dropWhile_append]
    exact congrArg (ite _ · _) none
  rw [trim, start, trim]
  split
  · next gone => rw [List.isEmpty_iff.mp gone]
  · rw [trimEnd, List.reverse_append, List.dropWhile_append_of_pos, trimEnd]
    intro c member
    exact blank c (List.mem_reverse.mp member)

theorem trim_trimEnd (cs : List Char) : trim (trimEnd cs) = trim cs := by
  have split : cs = trimEnd cs ++ (cs.reverse.takeWhile isBlank).reverse := by
    rw [trimEnd, ← List.reverse_append, List.takeWhile_append_dropWhile, List.reverse_reverse]
  conv => rhs; rw [split]
  refine (trim_append_blank ?_ _).symm
  intro c member
  exact List.all_eq_true.mp List.all_takeWhile c (List.mem_reverse.mp member)

/-- Around a character that is not blank, a text is trimmed on the outer sides only. -/
theorem trim_append_cons {sep : Char} (visible : isBlank sep = false) (before after : List Char) :
    trim (before ++ sep :: after) = trimStart before ++ sep :: trimEnd after := by
  have outer (front back : List Char) : (front ++ sep :: back).dropWhile isBlank =
      front.dropWhile isBlank ++ sep :: back := by
    rw [List.dropWhile_append, List.dropWhile_cons_of_neg (by simp [visible])]
    split
    · next gone => rw [List.isEmpty_iff.mp gone, List.nil_append]
    · rfl
  rw [trim, trimStart, outer, trimEnd, List.reverse_append, List.reverse_cons, List.append_assoc,
    List.singleton_append, outer]
  simp [trimStart, trimEnd]

/-- Trimming leaves a text without blank characters as it is. -/
theorem trim_of_visible {cs : List Char} (visible : ∀ c ∈ cs, isBlank c = false) :
    trim cs = cs := by
  apply trim_eq_self
  exact ⟨fun c first => visible c (List.mem_of_mem_head? first),
    fun c last => visible c (List.mem_of_getLast? last)⟩

/-! ## Word characters -/

/-- The code points of the blank characters. -/
def blankCodes : List Nat :=
  [9, 10, 11, 12, 13, 0x20, 0x85, 0xA0, 0x1680, 0x2000, 0x2001, 0x2002, 0x2003, 0x2004, 0x2005,
    0x2006, 0x2007, 0x2008, 0x2009, 0x200A, 0x2028, 0x2029, 0x202F, 0x205F, 0x3000]

theorem toNat_mem_blankCodes {c : Char} (blank : isBlank c = true) : c.toNat ∈ blankCodes := by
  simp only [isBlank, Bool.or_eq_true, Bool.and_eq_true, decide_eq_true_eq, beq_iff_eq] at blank
  simp only [blankCodes, List.mem_cons, List.not_mem_nil, or_false]
  omega

theorem isBlank_of_isWord {c : Char} (word : isWord c = true) : isBlank c = false := by
  have none_word : ∀ n ∈ blankCodes, isWord (Char.ofNat n) = false := by decide +kernel
  rw [Bool.eq_false_iff]
  intro blank
  have not_word := none_word _ (toNat_mem_blankCodes blank)
  rw [Char.ofNat_toNat, word] at not_word
  cases not_word

theorem isWord_of_isAsciiWord {c : Char} (h : isAsciiWord c = true) : isWord c = true := by
  rcases (Bool.or_eq_true ..).mp h with alphanumeric | underscore
  · exact isWord_of_isAlphanum c alphanumeric
  · rw [eq_of_beq underscore]
    decide

/-! ## Splitting at line feeds -/

/-- The text holds no line feed and does not end with a carriage return. -/
def IsLine (line : List Char) : Prop :=
  '\n' ∉ line ∧ line.getLast? ≠ some '\r'

theorem lines_cons {c : Char} {rest : List Char} (feed : c ≠ '\n')
    (ret : c = '\r' → rest.head? ≠ some '\n') :
    lines (c :: rest) = match lines rest with
      | [] => [[c]]
      | line :: others => (c :: line) :: others := by
  refine lines.eq_4 c rest feed ?_
  rintro rest' rfl rfl
  exact ret rfl rfl

theorem lines_append_newline {line : List Char} (h : IsLine line) (rest : List Char) :
    lines (line ++ '\n' :: rest) = line :: lines rest := by
  induction line with
  | nil => rw [List.nil_append, lines]
  | cons c cs ih =>
    obtain ⟨feed, ret⟩ := h
    simp only [List.mem_cons, not_or] at feed
    have tail : IsLine cs := by
      refine ⟨feed.2, ?_⟩
      cases cs with
      | nil => simp
      | cons d ds => simpa [List.getLast?_cons_cons] using ret
    rw [List.cons_append, lines_cons (Ne.symm feed.1), ih tail]
    rintro rfl
    cases cs with
    | nil => simp at ret
    | cons d ds =>
      simp only [List.mem_cons, not_or] at feed
      simpa using Ne.symm feed.2.1

theorem lines_of_no_newline {line : List Char} (h : '\n' ∉ line) (ne : line ≠ []) :
    lines line = [line] := by
  induction line with
  | nil => exact absurd rfl ne
  | cons c cs ih =>
    simp only [List.mem_cons, not_or] at h
    have after : cs.head? ≠ some '\n' := by
      intro hc
      exact h.2 (List.mem_of_mem_head? hc)
    rw [lines_cons (Ne.symm h.1) fun _ => after]
    cases cs with
    | nil => rw [lines]
    | cons d ds => rw [ih h.2 (by simp)]

theorem newline_not_mem_lines (cs : List Char) : ∀ line ∈ lines cs, '\n' ∉ line := by
  fun_induction lines cs with
  | case1 => simp
  | case2 rest ih => simpa using ih
  | case3 rest ih => simpa using ih
  | case4 c rest feed ret none ih =>
    intro line h
    rw [List.mem_singleton] at h
    subst h
    simpa using fun hc => feed hc.symm
  | case5 c rest feed ret line others some ih =>
    intro l h
    rw [some] at ih
    rcases List.mem_cons.mp h with rfl | h
    · simp only [List.mem_cons, not_or]
      exact ⟨fun hc => feed hc.symm, ih line (by simp)⟩
    · exact ih l (by simp [h])

/-! ## Putting lines together again -/

theorem lines_endLines {ls : List (List Char)} (h : ∀ l ∈ ls, IsLine l) :
    lines (endLines ls) = ls := by
  induction ls with
  | nil => rw [endLines, lines]
  | cons l ls ih =>
    rw [endLines, lines_append_newline (h l (by simp)), ih fun l' hl' => h l' (by simp [hl'])]

theorem lines_joinLines {ls : List (List Char)} (h : ∀ l ∈ ls, IsLine l ∧ l ≠ []) :
    lines (joinLines ls) = ls := by
  induction ls with
  | nil => rw [joinLines, lines]
  | cons l ls ih =>
    have first := h l (by simp)
    cases ls with
    | nil => exact lines_of_no_newline first.1.1 first.2
    | cons l' ls =>
      rw [show joinLines (l :: l' :: ls) = l ++ '\n' :: joinLines (l' :: ls) from rfl,
        lines_append_newline first.1, ih fun l'' hl'' => h l'' (by simp [hl''])]

end Text
end Unreferenced
