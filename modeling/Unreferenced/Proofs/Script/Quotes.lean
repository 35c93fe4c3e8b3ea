import Unreferenced.Proofs.Script.RoundTrip

/-!
# What stands in quotes

There are two notions of it.  The reader of compiled code takes the stretches between the
first and the second quote of a line, the third and the fourth, and so on
(`mem_quoted_iff`).  The check of a source goes through the lines character by character
and remembers whether a quote is open.  The check is written out once more here so that it
tells what it comes past and in which state (`walk`), without any other difference
(`walk_result`).  The characters that it comes past with a quote open make up the same
stretches (`stretch_iff`), and trimming and leaving out blank lines does not touch them
(`flatMap_quoted_statements`).
-/

namespace Unreferenced
namespace Script

/-! ## Between quotes -/

/-- The text stands in a line between two neighbouring quotes, of which the first one opens:
the number of quotes before it is even, with one that is open where the line begins. -/
def InQuotes (isOpen : Bool) (line text : List Char) : Prop :=
  ∃ before after, line = before ++ '"' :: (text ++ '"' :: after) ∧ '"' ∉ text ∧
    2 ∣ isOpen.toNat + before.count '"'

/-- The text stands at the beginning of a line, up to the first quote. -/
def UpToQuote (line text : List Char) : Prop :=
  ∃ after, line = text ++ '"' :: after ∧ '"' ∉ text

theorem not_inQuotes_nil (isOpen : Bool) (text : List Char) : ¬ InQuotes isOpen [] text := by
  rintro ⟨before, after, eq, -⟩
  cases before <;> cases eq

theorem dvd_toggle (isOpen : Bool) (n : Nat) :
    2 ∣ isOpen.toNat + (n + 1) ↔ 2 ∣ (!isOpen).toNat + n := by
  cases isOpen with
  | false => rw [Bool.not_false, Bool.toNat_false, Bool.toNat_true]; omega
  | true => rw [Bool.not_true, Bool.toNat_false, Bool.toNat_true]; omega

/-- A quote opens the text that follows it, or it changes which of the others do. -/
theorem inQuotes_cons_quote {isOpen : Bool} {line text : List Char} :
    InQuotes isOpen ('"' :: line) text ↔
      isOpen = false ∧ UpToQuote line text ∨ InQuotes (!isOpen) line text := by
  constructor
  · rintro ⟨before, after, eq, plain, even⟩
    cases before with
    | nil =>
      cases eq
      cases isOpen with
      | false => exact .inl ⟨rfl, after, rfl, plain⟩
      | true => exact absurd even (by decide)
    | cons c before =>
      cases eq
      rw [List.count_cons_self, dvd_toggle] at even
      exact .inr ⟨before, after, rfl, plain, even⟩
  · rintro (⟨rfl, after, rfl, plain⟩ | ⟨before, after, rfl, plain, even⟩)
    · exact ⟨[], after, rfl, plain, by decide⟩
    · refine ⟨'"' :: before, after, rfl, plain, ?_⟩
      rwa [List.count_cons_self, dvd_toggle]

theorem inQuotes_cons_of_ne {isOpen : Bool} {c : Char} (other : c ≠ '"') {line text : List Char} :
    InQuotes isOpen (c :: line) text ↔ InQuotes isOpen line text := by
  constructor
  · rintro ⟨before, after, eq, plain, even⟩
    cases before with
    | nil =>
      cases eq
      exact absurd rfl other
    | cons d before =>
      cases eq
      rw [List.count_cons_of_ne other] at even
      exact ⟨before, after, rfl, plain, even⟩
  · rintro ⟨before, after, rfl, plain, even⟩
    refine ⟨c :: before, after, rfl, plain, ?_⟩
    rwa [List.count_cons_of_ne other]

theorem upToQuote_cons_quote {line text : List Char} :
    UpToQuote ('"' :: line) text ↔ text = [] := by
  constructor
  · rintro ⟨after, eq, plain⟩
    cases text with
    | nil => rfl
    | cons c text =>
      cases eq
      exact absurd List.mem_cons_self plain
  · rintro rfl
    exact ⟨line, rfl, List.not_mem_nil⟩

theorem upToQuote_cons_of_ne {c : Char} (other : c ≠ '"') {line text : List Char} :
    UpToQuote (c :: line) text ↔ ∃ rest, text = c :: rest ∧ UpToQuote line rest := by
  constructor
  · rintro ⟨after, eq, plain⟩
    cases text with
    | nil =>
      cases eq
      exact absurd rfl other
    | cons d text =>
      cases eq
      exact ⟨text, rfl, after, rfl, fun member => plain (List.mem_cons_of_mem _ member)⟩
  · rintro ⟨rest, rfl, after, rfl, plain⟩
    refine ⟨after, rfl, ?_⟩
    rw [List.mem_cons, not_or]
    exact ⟨other.symm, plain⟩

/-! ## The stretches of the reader -/

/-- A stretch that is being read ends at the next quote; the others stand in quotes of what
is left of the line. -/
theorem mem_stretches_iff {line text : List Char} {read? : Option (List Char)} :
    text ∈ stretches line read? ↔
      (∃ read rest, read? = some read ∧ UpToQuote line rest ∧ text = read.reverse ++ rest) ∨
        InQuotes read?.isSome line text := by
  induction line generalizing read? with
  | nil =>
    have none_up (rest : List Char) : ¬ UpToQuote [] rest := by
      rintro ⟨after, eq, -⟩
      cases rest <;> cases eq
    simp [stretches, not_inQuotes_nil, none_up]
  | cons c line ih =>
    by_cases quote : c = '"'
    · subst quote
      rw [inQuotes_cons_quote]
      cases read? with
      | none =>
        rw [stretches, if_pos rfl, ih]
        simp
      | some read =>
        rw [stretches, if_pos rfl, List.mem_cons, ih]
        simp [upToQuote_cons_quote]
    · rw [inQuotes_cons_of_ne quote]
      cases read? with
      | none =>
        rw [stretches, if_neg quote, ih]
        simp
      | some read =>
        rw [stretches, if_neg quote, ih]
        simp only [upToQuote_cons_of_ne quote, Option.some.injEq]
        refine or_congr ⟨?_, ?_⟩ Iff.rfl
        · rintro ⟨_, rest, rfl, upTo, rfl⟩
          exact ⟨read, c :: rest, rfl, ⟨rest, rfl, upTo⟩, by simp⟩
        · rintro ⟨_, _, rfl, ⟨rest, rfl, upTo⟩, rfl⟩
          exact ⟨c :: read, rest, rfl, upTo, by simp⟩

/-- The stretches of a line are the texts in its quotes. -/
theorem mem_quoted_iff {line text : List Char} : text ∈ quoted line ↔ InQuotes false line text := by
  rw [quoted, mem_stretches_iff]
  simp

/-! ## Layout -/

/-- Where no quote stands, nothing ends. -/
theorem stretches_append_plain {after : List Char} (plain : '"' ∉ after) (line : List Char)
    (read? : Option (List Char)) : stretches (line ++ after) read? = stretches line read? := by
  induction line generalizing read? with
  | nil =>
    rw [List.nil_append, stretches]
    induction after generalizing read? with
    | nil => rw [stretches]
    | cons c after ih =>
      rw [List.mem_cons, not_or] at plain
      cases read? with
      | none => rw [stretches, if_neg (Ne.symm plain.1), ih plain.2]
      | some read => rw [stretches, if_neg (Ne.symm plain.1), ih plain.2]
  | cons c line ih =>
    cases read? with
    | none =>
      rw [List.cons_append, stretches, stretches, ih, ih]
    | some read =>
      rw [List.cons_append, stretches, stretches, ih, ih]

theorem quoted_plain_append {before : List Char} (plain : '"' ∉ before) (line : List Char) :
    quoted (before ++ line) = quoted line := by
  induction before with
  | nil => rfl
  | cons c before ih =>
    rw [List.mem_cons, not_or] at plain
    rw [List.cons_append, quoted, stretches, if_neg (Ne.symm plain.1)]
    exact ih plain.2

theorem quoted_trim (line : List Char) : quoted (Text.trim line) = quoted line := by
  obtain ⟨before, after, eq, blankBefore, blankAfter⟩ := Text.exists_eq_trim line
  have plain {cs : List Char} (blank : ∀ c ∈ cs, Text.isBlank c = true) : '"' ∉ cs := by
    intro member
    exact absurd (blank '"' member) (by decide)
  conv => rhs; rw [eq]
  rw [List.append_assoc, quoted_plain_append (plain blankBefore), quoted, quoted,
    stretches_append_plain (plain blankAfter)]

/-- Trimming lines and leaving out blank ones neither adds nor takes away a text in quotes. -/
theorem flatMap_quoted_statements (cs : List Char) :
    (statements cs).flatMap quoted = (Text.lines cs).flatMap quoted := by
  rw [statements]
  induction Text.lines cs with
  | nil => rfl
  | cons line ls ih =>
    rw [List.map_cons, List.flatMap_cons, ← ih, ← quoted_trim line]
    cases trimmed : Text.trim line with
    | nil => rw [List.filter_cons_of_neg (by simp)]; rfl
    | cons c rest => rw [List.filter_cons_of_pos (by simp), List.flatMap_cons]

/-! ## The walk of the check -/

/-- Notes what is come past first. -/
def note {α β : Type} (first : α) (walked : List α × β) : List α × β :=
  (first :: walked.1, walked.2)

/-- The check of a line, with the characters that it comes past and whether a quote is open
when it does. -/
def walkLine : List Char → Bool → Nat → List (Char × Bool) × Except LineFault Nat
  | [], true, _ => ([], .error .unterminated)
  | [], false, depth => ([], .ok depth)
  | '"' :: rest, inQuote, depth => note ('"', inQuote) (walkLine rest (!inQuote) depth)
  | '(' :: rest, false, depth => note ('(', false) (walkLine rest false (depth + 1))
  | ')' :: _, false, 0 => ([(')', false)], .error .unexpectedClose)
  | ')' :: rest, false, depth + 1 => note (')', false) (walkLine rest false depth)
  | c :: rest, inQuote, depth => note (c, inQuote) (walkLine rest inQuote depth)

/-- The check of lines, with what it comes past in each of them until it fails. -/
def walkLines : Nat → Nat → List (List Char) → List (List (Char × Bool)) × Except CompileFault Unit
  | _, 0, [] => ([], .ok ())
  | _, _ + 1, [] => ([], .error .unclosed)
  | number, depth, line :: rest =>
    match walkLine line false depth with
    | (walked, .ok depth) => note walked (walkLines (number + 1) depth rest)
    | (walked, .error fault) => ([walked], .error (fault.atLine number))

/-- The check of a source, with what it comes past. -/
def walk (source : List Char) : List (List (Char × Bool)) × Except CompileFault Unit :=
  walkLines 1 0 (Text.lines source)

theorem walkLine_result (line : List Char) (inQuote : Bool) (depth : Nat) :
    (walkLine line inQuote depth).2 = scanLine line inQuote depth := by
  fun_induction walkLine line inQuote depth with
  | case1 depth => rw [scanLine]
  | case2 depth => rw [scanLine]
  | case3 rest inQuote depth ih => rw [scanLine, ← ih, note]
  | case4 rest depth ih => rw [scanLine, ← ih, note]
  | case5 rest => rw [scanLine]
  | case6 rest depth ih => rw [scanLine, ← ih, note]
  | case7 c rest inQuote depth quote opening closing closing' ih =>
    rw [scanLine, ← ih, note] <;> assumption

theorem walkLines_result (ls : List (List Char)) (number depth : Nat) :
    (walkLines number depth ls).2 = scanLines number depth ls := by
  induction ls generalizing number depth with
  | nil => cases depth <;> rfl
  | cons line ls ih =>
    rw [walkLines, scanLines, ← walkLine_result]
    obtain ⟨walked, result⟩ := walkLine line false depth
    cases result with
    | ok depth => exact ih (number + 1) depth
    | error fault => rfl

/-- The check that tells what it comes past is the check. -/
theorem walk_result (source : List Char) : (walk source).2 = checkBalanced source :=
  walkLines_result _ _ _

/-- The characters of a line, each with whether a quote is open before it. -/
def marked : List Char → Bool → List (Char × Bool)
  | [], _ => []
  | c :: rest, isOpen => (c, isOpen) :: marked rest (if c = '"' then !isOpen else isOpen)

/-- A line that is accepted is walked to its end. -/
theorem walkLine_of_ok {line : List Char} {inQuote : Bool} {depth after : Nat}
    (accepted : (walkLine line inQuote depth).2 = .ok after) :
    (walkLine line inQuote depth).1 = marked line inQuote := by
  fun_induction walkLine line inQuote depth with
  | case1 depth => rfl
  | case2 depth => rfl
  | case3 rest inQuote depth ih => exact congrArg (_ :: ·) (ih accepted)
  | case4 rest depth ih => exact congrArg (_ :: ·) (ih accepted)
  | case5 rest => cases accepted
  | case6 rest depth ih => exact congrArg (_ :: ·) (ih accepted)
  | case7 c rest inQuote depth quote opening closing closing' ih =>
    rw [marked, if_neg quote, ← ih accepted]
    rfl

theorem walkLines_of_ok {ls : List (List Char)} {number depth : Nat}
    (accepted : (walkLines number depth ls).2 = .ok ()) :
    (walkLines number depth ls).1 = ls.map fun line => marked line false := by
  induction ls generalizing number depth with
  | nil => cases depth <;> rfl
  | cons line ls ih =>
    rw [walkLines] at accepted ⊢
    cases walks : walkLine line false depth with
    | mk walked result =>
      rw [walks] at accepted
      cases result with
      | error fault => cases accepted
      | ok depth =>
        have whole := walkLine_of_ok (congrArg Prod.snd walks)
        rw [walks] at whole
        rw [List.map_cons, ← whole, ← ih accepted]
        rfl

/-- The text is walked with a quote open, from the quote that opens to the one that closes. -/
def Stretch (walked : List (Char × Bool)) (text : List Char) : Prop :=
  ∃ before after, walked = before ++ ('"', false) :: (text.map (·, true) ++ ('"', true) :: after)

theorem not_stretch_nil (text : List Char) : ¬ Stretch [] text := by
  rintro ⟨before, after, eq⟩
  cases before <;> cases eq

theorem stretch_cons_iff {c : Char} {isOpen : Bool} {walked : List (Char × Bool)}
    {text : List Char} : Stretch ((c, isOpen) :: walked) text ↔
      (c = '"' ∧ isOpen = false ∧ ∃ after, walked = text.map (·, true) ++ ('"', true) :: after) ∨
        Stretch walked text := by
  constructor
  · rintro ⟨before, after, eq⟩
    cases before with
    | nil =>
      cases eq
      exact .inl ⟨rfl, rfl, after, rfl⟩
    | cons d before =>
      cases eq
      exact .inr ⟨before, after, rfl⟩
  · rintro (⟨rfl, rfl, after, rfl⟩ | ⟨before, after, rfl⟩)
    · exact ⟨[], after, rfl⟩
    · exact ⟨(c, isOpen) :: before, after, rfl⟩

/-- With a quote open, a walk comes to the next quote with the quote still open. -/
theorem marked_eq_iff {line text : List Char} :
    (∃ after, marked line true = text.map (·, true) ++ ('"', true) :: after) ↔
      UpToQuote line text := by
  induction line generalizing text with
  | nil =>
    constructor
    · rintro ⟨after, eq⟩
      cases text <;> cases eq
    · rintro ⟨after, eq, -⟩
      cases text <;> cases eq
  | cons c line ih =>
    by_cases quote : c = '"'
    · subst quote
      rw [upToQuote_cons_quote, marked, if_pos rfl]
      constructor
      · rintro ⟨after, eq⟩
        cases text with
        | nil => rfl
        | cons d text =>
          -- after the quote it is no longer open, but it should be for one more character
          have closed : marked line false = text.map (·, true) ++ ('"', true) :: after :=
            (List.cons.inj eq).2
          cases line <;> cases text <;> cases closed
      · rintro rfl
        exact ⟨_, rfl⟩
    · rw [upToQuote_cons_of_ne quote, marked, if_neg quote]
      constructor
      · rintro ⟨after, eq⟩
        cases text with
        | nil => exact absurd (congrArg Prod.fst (List.cons.inj eq).1) quote
        | cons d text =>
          obtain ⟨same, rest⟩ := List.cons.inj eq
          obtain rfl : c = d := congrArg Prod.fst same
          exact ⟨text, rfl, ih.mp ⟨after, rest⟩⟩
      · rintro ⟨rest, rfl, upTo⟩
        obtain ⟨after, eq⟩ := ih.mpr upTo
        exact ⟨after, by rw [eq]; rfl⟩

/-- What is walked with a quote open are the texts in quotes. -/
theorem stretch_marked_iff {line text : List Char} {isOpen : Bool} :
    Stretch (marked line isOpen) text ↔ InQuotes isOpen line text := by
  induction line generalizing isOpen with
  | nil => exact iff_of_false (not_stretch_nil text) (not_inQuotes_nil isOpen text)
  | cons c line ih =>
    rw [marked, stretch_cons_iff]
    by_cases quote : c = '"'
    · subst quote
      rw [inQuotes_cons_quote, if_pos rfl, ih]
      refine or_congr ⟨?_, ?_⟩ Iff.rfl
      · rintro ⟨-, rfl, ends⟩
        exact ⟨rfl, marked_eq_iff.mp ends⟩
      · rintro ⟨rfl, upTo⟩
        exact ⟨rfl, rfl, marked_eq_iff.mpr upTo⟩
    · rw [inQuotes_cons_of_ne quote, if_neg quote, ih]
      exact or_iff_right fun opens => quote opens.1

/-- The check of a source that is accepted walks exactly the stretches of its lines with a
quote open. -/
theorem stretch_walk_iff {source : List Char} (accepted : checkBalanced source = .ok ())
    (text : List Char) : (∃ walked ∈ (walk source).1, Stretch walked text) ↔
      text ∈ (Text.lines source).flatMap quoted := by
  rw [← walk_result] at accepted
  rw [walk, walkLines_of_ok accepted, List.mem_flatMap]
  simp only [mem_quoted_iff, ← stretch_marked_iff]
  constructor
  · rintro ⟨walked, among, stretch⟩
    obtain ⟨line, member, rfl⟩ := List.mem_map.mp among
    exact ⟨line, member, stretch⟩
  · rintro ⟨line, member, stretch⟩
    exact ⟨_, List.mem_map_of_mem member, stretch⟩

end Script
end Unreferenced
