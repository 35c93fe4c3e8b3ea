import Unreferenced.Proofs.Script.Quotes

/-!
# Which sources compile

A place of a line is outside quotes when an even number of quotes stands before it
(`parens`).  A source compiles exactly if each of its lines has an even number of quotes and
the parentheses outside quotes, read across all lines, match: no part from the beginning
closes more than it opens, and none stays open.

The check goes through a line with two variables, and what it says of the line can be told
from the line without them: from its parentheses outside quotes alone how many are open
after it (`depthAfter?`), and from the number of its quotes whether it ends in one
(`scanLine_eq`).  So the result of the check is the `Verdict` on the lines, of which there
is only one.  The main theorem, `compiles_iff_balanced`, writes it out for the compiler.
-/

namespace Unreferenced
namespace Script

/-! ## Parentheses outside quotes -/

/-- The parentheses of a line that stand outside quotes, in order: those before which the
number of quotes is even, counting one that is open where the line begins. -/
def parens (isOpen : Bool) (cs : List Char) : List Char :=
  (List.range cs.length).filterMap fun place => cs[place]?.filter fun c =>
    (c = '(' ∨ c = ')') ∧ 2 ∣ isOpen.toNat + (cs.take place).count '"'

theorem parens_cons_quote (isOpen : Bool) (line : List Char) :
    parens isOpen ('"' :: line) = parens (!isOpen) line := by
  rw [parens, List.length_cons, List.range_succ_eq_map, List.filterMap_cons_none (by simp),
    List.filterMap_map, parens]
  congr 1
  funext place
  simp only [Function.comp_apply, List.getElem?_cons_succ, List.take_succ_cons,
    List.count_cons_self, dvd_toggle]

theorem parens_cons_of_ne {c : Char} (other : c ≠ '"') (isOpen : Bool) (line : List Char) :
    parens isOpen (c :: line) =
      (if (c = '(' ∨ c = ')') ∧ isOpen = false then [c] else []) ++ parens isOpen line := by
  have later : (List.range line.length).filterMap ((fun place => (c :: line)[place]?.filter fun d =>
      (d = '(' ∨ d = ')') ∧ 2 ∣ isOpen.toNat + ((c :: line).take place).count '"') ∘ Nat.succ) =
        parens isOpen line := by
    rw [parens]
    congr 1
    funext place
    simp only [Function.comp_apply, List.getElem?_cons_succ, List.take_succ_cons,
      List.count_cons_of_ne other]
  rw [← later, parens, List.length_cons, List.range_succ_eq_map, List.filterMap_cons,
    List.filterMap_map, List.getElem?_cons_zero, List.take_zero, List.count_nil]
  by_cases paren : c = '(' ∨ c = ')' <;> cases isOpen <;> simp [Option.filter, paren]

/-- Inside quotes nothing counts, and outside them only parentheses do. -/
theorem parens_cons_skip {c : Char} (other : c ≠ '"') {isOpen : Bool}
    (skip : c = '(' ∨ c = ')' → isOpen = true) (line : List Char) :
    parens isOpen (c :: line) = parens isOpen line := by
  rw [parens_cons_of_ne other, if_neg, List.nil_append]
  rintro ⟨paren, outside⟩
  rw [skip paren] at outside
  cases outside

theorem parens_cons_paren {c : Char} (paren : c = '(' ∨ c = ')') (line : List Char) :
    parens false (c :: line) = c :: parens false line := by
  have other : c ≠ '"' := by
    rintro rfl
    revert paren
    decide
  rw [parens_cons_of_ne other, if_pos ⟨paren, rfl⟩, List.singleton_append]

/-! ## How deep parentheses go -/

/-- The number of parentheses that are open after some characters, when so many are open
before them; none if one of the characters closes nothing. -/
def depthAfter? : Nat → List Char → Option Nat
  | depth, [] => some depth
  | depth, c :: rest =>
    if c = '(' then depthAfter? (depth + 1) rest
    else if c ≠ ')' then depthAfter? depth rest
    else if depth = 0 then none
    else depthAfter? (depth - 1) rest

theorem depthAfter?_opening (depth : Nat) (rest : List Char) :
    depthAfter? depth ('(' :: rest) = depthAfter? (depth + 1) rest := by
  rw [depthAfter?, if_pos rfl]

theorem depthAfter?_closing_zero (rest : List Char) : depthAfter? 0 (')' :: rest) = none := by
  rw [depthAfter?, if_neg (by decide), if_neg (by simp), if_pos rfl]

theorem depthAfter?_closing_succ (depth : Nat) (rest : List Char) :
    depthAfter? (depth + 1) (')' :: rest) = depthAfter? depth rest := by
  rw [depthAfter?, if_neg (by decide), if_neg (by simp), if_neg (Nat.succ_ne_zero depth)]
  rfl

theorem depthAfter?_append (depth : Nat) (front back : List Char) :
    depthAfter? depth (front ++ back) =
      (depthAfter? depth front).bind fun between => depthAfter? between back := by
  fun_induction depthAfter? depth front with
  | case1 depth => rfl
  | case2 depth rest ih => rw [List.cons_append, depthAfter?_opening, ih]
  | case3 depth c rest opening closing ih =>
    rw [List.cons_append, depthAfter?, if_neg opening, if_pos closing, ih]
  | case4 c rest opening closing =>
    rw [List.cons_append, depthAfter?, if_neg opening, if_neg closing, if_pos rfl]
    rfl
  | case5 depth c rest opening closing isOpen ih =>
    rw [List.cons_append, depthAfter?, if_neg opening, if_neg closing, if_neg isOpen, ih]

/-- What is open afterwards and what was closed make up what was open before and what was
opened. -/
theorem count_of_depthAfter? {depth after : Nat} {read : List Char}
    (reached : depthAfter? depth read = some after) :
    after + read.count ')' = depth + read.count '(' := by
  fun_induction depthAfter? depth read with
  | case1 depth => cases reached; rfl
  | case2 depth rest ih =>
    have := ih reached
    rw [List.count_cons_of_ne (by decide), List.count_cons_self]
    omega
  | case3 depth c rest opening closing ih =>
    rw [List.count_cons_of_ne opening, List.count_cons_of_ne closing, ih reached]
  | case4 => cases reached
  | case5 depth c rest opening closing isOpen ih =>
    obtain rfl : c = ')' := by simpa using closing
    have := ih reached
    rw [List.count_cons_self, List.count_cons_of_ne opening]
    omega

/-- Some character closes nothing exactly if it is a closing parenthesis before which as many
are closed as are open or opened. -/
theorem depthAfter?_eq_none_iff {depth : Nat} {read : List Char} :
    depthAfter? depth read = none ↔ ∃ before rest, read = before ++ ')' :: rest ∧
      depth + before.count '(' ≤ before.count ')' := by
  constructor
  · intro fails
    fun_induction depthAfter? depth read with
    | case1 depth => cases fails
    | case2 depth rest ih =>
      obtain ⟨before, others, rfl, closed⟩ := ih fails
      refine ⟨'(' :: before, others, rfl, ?_⟩
      rw [List.count_cons_self, List.count_cons_of_ne (by decide)]
      omega
    | case3 depth c rest opening closing ih =>
      obtain ⟨before, others, rfl, closed⟩ := ih fails
      refine ⟨c :: before, others, rfl, ?_⟩
      rw [List.count_cons_of_ne opening, List.count_cons_of_ne closing]
      exact closed
    | case4 c rest opening closing =>
      obtain rfl : c = ')' := by simpa using closing
      exact ⟨[], rest, rfl, Nat.le_refl 0⟩
    | case5 depth c rest opening closing isOpen ih =>
      obtain rfl : c = ')' := by simpa using closing
      obtain ⟨before, others, rfl, closed⟩ := ih fails
      refine ⟨')' :: before, others, rfl, ?_⟩
      rw [List.count_cons_self, List.count_cons_of_ne opening]
      omega
  · rintro ⟨before, rest, rfl, closed⟩
    rw [depthAfter?_append]
    cases reached : depthAfter? depth before with
    | none => rfl
    | some between =>
      have balance := count_of_depthAfter? reached
      obtain rfl : between = 0 := by omega
      exact depthAfter?_closing_zero rest

/-- No character closes nothing exactly if no part from the beginning closes more than is
open or opened. -/
theorem exists_depthAfter?_iff {depth : Nat} {read : List Char} :
    (∃ after, depthAfter? depth read = some after) ↔
      ∀ part, part <+: read → part.count ')' ≤ depth + part.count '(' := by
  constructor
  · rintro ⟨after, reached⟩ part ⟨rest, rfl⟩
    rw [depthAfter?_append] at reached
    obtain ⟨between, halfway, -⟩ := Option.bind_eq_some_iff.mp reached
    have balance := count_of_depthAfter? halfway
    omega
  · intro fits
    rw [← Option.ne_none_iff_exists']
    intro fails
    obtain ⟨before, rest, rfl, closed⟩ := depthAfter?_eq_none_iff.mp fails
    have more := fits (before ++ [')']) ⟨rest, by simp⟩
    have none_opened : [')'].count '(' = 0 := rfl
    rw [List.count_append, List.count_append, List.count_singleton_self, none_opened] at more
    omega

/-! ## The check of one line -/

/-- What the check says of a line depends on its parentheses outside quotes, and then on the
number of its quotes. -/
theorem scanLine_eq (line : List Char) (isOpen : Bool) (depth : Nat) :
    scanLine line isOpen depth = match depthAfter? depth (parens isOpen line) with
      | none => .error .unexpectedClose
      | some after =>
        if 2 ∣ isOpen.toNat + line.count '"' then .ok after else .error .unterminated := by
  fun_induction scanLine line isOpen depth with
  | case1 depth => rfl
  | case2 depth => rfl
  | case3 isOpen depth rest ih =>
    rw [ih, parens_cons_quote, List.count_cons_self]
    simp only [dvd_toggle]
  | case4 depth rest ih =>
    rw [ih, parens_cons_paren (.inl rfl), depthAfter?_opening, List.count_cons_of_ne (by decide)]
  | case5 rest => rw [parens_cons_paren (.inr rfl), depthAfter?_closing_zero]
  | case6 rest depth ih =>
    rw [ih, parens_cons_paren (.inr rfl), depthAfter?_closing_succ,
      List.count_cons_of_ne (by decide)]
  | case7 c rest isOpen depth quote opening closing closing' ih =>
    have inside : c = '(' ∨ c = ')' → isOpen = true := by
      intro paren
      rw [← Bool.not_eq_false]
      intro outside
      rcases paren with isOpening | isClosing
      · exact opening outside isOpening
      · cases depth with
        | zero => exact closing outside rfl isClosing
        | succ depth => exact closing' depth outside rfl isClosing
    rw [ih, parens_cons_skip quote inside, List.count_cons_of_ne quote]

/-! ## Faulty lines -/

/-- The parentheses of some lines that stand outside quotes, read across all of them. -/
def allParens (ls : List (List Char)) : List Char := ls.flatMap (parens false)

/-- On the line of this number, counted from one, a closing parenthesis outside quotes closes
more than was opened: as many are closed as opened before it, here and on the lines before. -/
def OverclosesOn (ls : List (List Char)) (number : Nat) : Prop :=
  ∃ place line before rest, number = place + 1 ∧ ls[place]? = some line ∧
    parens false line = before ++ ')' :: rest ∧
    (allParens (ls.take place) ++ before).count '(' ≤
      (allParens (ls.take place) ++ before).count ')'

/-- The line of this number, counted from one, ends inside a quote. -/
def EndsInQuoteOn (ls : List (List Char)) (number : Nat) : Prop :=
  ∃ place line, number = place + 1 ∧ ls[place]? = some line ∧ ¬ 2 ∣ line.count '"'

/-- Something is wrong with the line of this number. -/
def IsFaulty (ls : List (List Char)) (number : Nat) : Prop :=
  OverclosesOn ls number ∨ EndsInQuoteOn ls number

/-- The line of this number is the first with which something is wrong. -/
def IsFirstFaulty (ls : List (List Char)) (number : Nat) : Prop :=
  IsFaulty ls number ∧ ∀ earlier < number, ¬ IsFaulty ls earlier

theorem allParens_append (front back : List (List Char)) :
    allParens (front ++ back) = allParens front ++ allParens back := List.flatMap_append

theorem allParens_singleton (line : List Char) : allParens [line] = parens false line :=
  List.flatMap_singleton _ _

/-- A line closes more than was opened if the parentheses that are open before it run out. -/
theorem overclosesOn_iff {ls : List (List Char)} {place depth : Nat} {line : List Char}
    (here : ls[place]? = some line)
    (reached : depthAfter? 0 (allParens (ls.take place)) = some depth) :
    OverclosesOn ls (place + 1) ↔ depthAfter? depth (parens false line) = none := by
  have balance := count_of_depthAfter? reached
  rw [depthAfter?_eq_none_iff]
  constructor
  · rintro ⟨place', line', before, rest, same, here', split, closed⟩
    obtain rfl := Nat.succ.inj same
    obtain rfl := Option.some.inj (here.symm.trans here')
    rw [List.count_append, List.count_append] at closed
    exact ⟨before, rest, split, by omega⟩
  · rintro ⟨before, rest, split, closed⟩
    refine ⟨place, line, before, rest, rfl, here, split, ?_⟩
    rw [List.count_append, List.count_append]
    omega

theorem endsInQuoteOn_iff {ls : List (List Char)} {place : Nat} {line : List Char}
    (here : ls[place]? = some line) :
    EndsInQuoteOn ls (place + 1) ↔ ¬ 2 ∣ line.count '"' := by
  constructor
  · rintro ⟨place', line', same, here', odd⟩
    obtain rfl := Nat.succ.inj same
    obtain rfl := Option.some.inj (here.symm.trans here')
    exact odd
  · intro odd
    exact ⟨place, line, rfl, here, odd⟩

/-- No line ends inside a quote exactly if every line has an even number of quotes. -/
theorem forall_not_endsInQuoteOn_iff {ls : List (List Char)} :
    (∀ number, ¬ EndsInQuoteOn ls number) ↔ ∀ line ∈ ls, 2 ∣ line.count '"' := by
  constructor
  · intro even line member
    obtain ⟨place, here⟩ := List.mem_iff_getElem?.mp member
    exact Decidable.of_not_not fun odd => even (place + 1) ((endsInQuoteOn_iff here).mpr odd)
  · rintro even number ⟨place, line, -, here, odd⟩
    exact odd (even line (List.mem_of_getElem? here))

/-- On no line a parenthesis closes more than was opened exactly if those of all lines together
do not run out. -/
theorem forall_not_overclosesOn_iff {ls : List (List Char)} :
    (∀ number, ¬ OverclosesOn ls number) ↔
      ∃ depth, depthAfter? 0 (allParens ls) = some depth := by
  constructor
  · intro closes
    -- the parentheses of the lines before any place do not run out
    suffices upTo : ∀ place ≤ ls.length,
        ∃ depth, depthAfter? 0 (allParens (ls.take place)) = some depth by
      simpa using upTo ls.length (Nat.le_refl _)
    intro place
    induction place with
    | zero => exact fun _ => ⟨0, rfl⟩
    | succ place ih =>
      intro bound
      obtain ⟨depth, reached⟩ := ih (Nat.le_of_lt bound)
      have here : ls[place]? = some ls[place] := List.getElem?_eq_getElem bound
      rw [List.take_add_one, here, Option.toList_some, allParens_append, depthAfter?_append,
        reached, Option.bind_some, allParens_singleton, ← Option.ne_none_iff_exists']
      exact mt (overclosesOn_iff here reached).mpr (closes _)
  · rintro ⟨depth, reached⟩ number ⟨place, line, before, rest, -, here, split, closed⟩
    have whole : allParens ls = (allParens (ls.take place) ++ before) ++
        ')' :: (rest ++ allParens (ls.drop (place + 1))) := by
      obtain ⟨bound, rfl⟩ := List.getElem?_eq_some_iff.mp here
      have cut : ls = ls.take place ++ ([ls[place]] ++ ls.drop (place + 1)) := by
        rw [List.singleton_append, List.getElem_cons_drop, List.take_append_drop]
      conv => lhs; rw [cut]
      rw [allParens_append, allParens_append, allParens_singleton, split]
      simp
    have fails := depthAfter?_eq_none_iff.mpr ⟨_, _, whole, by rwa [Nat.zero_add]⟩
    rw [reached] at fails
    cases fails

/-- Nothing is wrong with any line exactly if every line has an even number of quotes and the
parentheses of all lines together do not run out. -/
theorem intact_iff {ls : List (List Char)} :
    (∀ number, ¬ IsFaulty ls number) ↔ (∀ line ∈ ls, 2 ∣ line.count '"') ∧
      ∃ depth, depthAfter? 0 (allParens ls) = some depth := by
  simp only [IsFaulty, not_or, forall_and]
  rw [forall_not_overclosesOn_iff, forall_not_endsInQuoteOn_iff, and_comm]

/-- Whether something is wrong with a line depends on the lines up to it. -/
theorem IsFaulty.of_append {front back : List (List Char)} {number : Nat}
    (faulty : IsFaulty (front ++ back) number) (among : number ≤ front.length) :
    IsFaulty front number := by
  rcases faulty with ⟨place, line, before, rest, rfl, here, split, closed⟩ |
    ⟨place, line, rfl, here, odd⟩
  · rw [List.getElem?_append_left among] at here
    rw [List.take_append_of_le_length (Nat.le_of_lt among)] at closed
    exact .inl ⟨place, line, before, rest, rfl, here, split, closed⟩
  · rw [List.getElem?_append_left among] at here
    exact .inr ⟨place, line, rfl, here, odd⟩

/-! ## The verdict -/

/-- What is to be said of some lines: nothing if they are balanced, else the first thing that
is wrong with them. -/
inductive Verdict (ls : List (List Char)) : Except CompileFault Unit → Prop
  /-- No line is faulty, and no parenthesis stays open. -/
  | balanced (intact : ∀ number, ¬ IsFaulty ls number)
      (matched : (allParens ls).count '(' = (allParens ls).count ')') : Verdict ls (.ok ())
  /-- On the first faulty line a parenthesis closes more than was opened. -/
  | overcloses {number : Nat} (first : IsFirstFaulty ls number) (closes : OverclosesOn ls number) :
      Verdict ls (.error (.unexpectedClose number))
  /-- The first faulty line ends inside a quote, and its parentheses are in order. -/
  | endsInQuote {number : Nat} (first : IsFirstFaulty ls number)
      (closes : ¬ OverclosesOn ls number) : Verdict ls (.error (.unterminated number))
  /-- No line is faulty, but some parenthesis stays open. -/
  | staysOpen (intact : ∀ number, ¬ IsFaulty ls number)
      (left : (allParens ls).count ')' < (allParens ls).count '(') :
      Verdict ls (.error .unclosed)

/-- The check of lines gives the verdict on them and on those before them. -/
theorem verdict_scanLines {before ls : List (List Char)} {depth : Nat}
    (intact : ∀ number, ¬ IsFaulty before number)
    (reached : depthAfter? 0 (allParens before) = some depth) :
    Verdict (before ++ ls) (scanLines (before.length + 1) depth ls) := by
  induction ls generalizing before depth with
  | nil =>
    have balance := count_of_depthAfter? reached
    rw [List.append_nil]
    cases depth with
    | zero => exact .balanced intact (by omega)
    | succ depth => exact .staysOpen intact (by omega)
  | cons line ls ih =>
    have here : (before ++ line :: ls)[before.length]? = some line := by simp
    have earlier : ∀ number < before.length + 1, ¬ IsFaulty (before ++ line :: ls) number :=
      fun number among faulty => intact number (faulty.of_append (Nat.le_of_lt_succ among))
    have overcloses := overclosesOn_iff here (by rwa [List.take_left])
    rw [scanLines, scanLine_eq]
    cases inside : depthAfter? depth (parens false line) with
    | none => exact .overcloses ⟨.inl (overcloses.mpr inside), earlier⟩ (overcloses.mpr inside)
    | some after =>
      have closes : ¬ OverclosesOn (before ++ line :: ls) (before.length + 1) := by
        rw [overcloses, inside]
        exact Option.some_ne_none after
      by_cases even : 2 ∣ line.count '"'
      · have further : depthAfter? 0 (allParens (before ++ [line])) = some after := by
          rw [allParens_append, allParens_singleton, depthAfter?_append, reached]
          exact inside
        have evens : ∀ l ∈ before ++ [line], 2 ∣ l.count '"' := by
          intro l member
          rcases List.mem_append.mp member with among | last
          · exact (intact_iff.mp intact).1 l among
          · rwa [List.mem_singleton.mp last]
        have verdict := ih (intact_iff.mpr ⟨evens, after, further⟩) further
        rw [List.append_assoc, List.length_append, List.singleton_append] at verdict
        simpa [even] using verdict
      · have ends := (endsInQuoteOn_iff here).mpr even
        have verdict := Verdict.endsInQuote ⟨.inr ends, earlier⟩ closes
        simpa [even, LineFault.atLine] using verdict

/-- Only one line is the first faulty one. -/
theorem IsFirstFaulty.unique {ls : List (List Char)} {number other : Nat}
    (first : IsFirstFaulty ls number) (first' : IsFirstFaulty ls other) : number = other := by
  rcases Nat.lt_trichotomy number other with less | same | more
  · exact absurd first.1 (first'.2 number less)
  · exact same
  · exact absurd first'.1 (first.2 other more)

/-- There is only one verdict. -/
theorem Verdict.unique {ls : List (List Char)} {r r' : Except CompileFault Unit}
    (verdict : Verdict ls r) (verdict' : Verdict ls r') : r = r' := by
  cases verdict with
  | balanced intact matched =>
    cases verdict' with
    | balanced => rfl
    | overcloses first => exact absurd first.1 (intact _)
    | endsInQuote first => exact absurd first.1 (intact _)
    | staysOpen _ left => exact absurd matched (Nat.ne_of_gt left)
  | overcloses first closes =>
    cases verdict' with
    | balanced intact => exact absurd first.1 (intact _)
    | overcloses first' => rw [first.unique first']
    | endsInQuote first' closes' =>
      rw [← first.unique first'] at closes'
      exact absurd closes closes'
    | staysOpen intact => exact absurd first.1 (intact _)
  | endsInQuote first closes =>
    cases verdict' with
    | balanced intact => exact absurd first.1 (intact _)
    | overcloses first' closes' =>
      rw [← first.unique first'] at closes'
      exact absurd closes' closes
    | endsInQuote first' => rw [first.unique first']
    | staysOpen intact => exact absurd first.1 (intact _)
  | staysOpen intact left =>
    cases verdict' with
    | balanced _ matched => exact absurd matched (Nat.ne_of_gt left)
    | overcloses first => exact absurd first.1 (intact _)
    | endsInQuote first => exact absurd first.1 (intact _)
    | staysOpen => rfl

/-- The check of a source gives the verdict on its lines. -/
theorem checkBalanced_eq_iff {source : List Char} {r : Except CompileFault Unit} :
    checkBalanced source = r ↔ Verdict (Text.lines source) r := by
  have none_faulty : ∀ number, ¬ IsFaulty [] number :=
    intact_iff.mpr ⟨fun _ member => (List.not_mem_nil member).elim, 0, rfl⟩
  have verdict : Verdict (Text.lines source) (checkBalanced source) :=
    verdict_scanLines none_faulty rfl
  constructor
  · rintro rfl
    exact verdict
  · exact verdict.unique

theorem compile_eq_error_iff {source : String} {kind : ScriptKind} {e : ScriptError} :
    compile source kind = .error e ↔
      ∃ fault, checkBalanced source.toList = .error fault ∧ e = .compile fault := by
  rw [compile]
  cases checkBalanced source.toList with
  | error fault => simp [eq_comm]
  | ok _ => simp

/-- **The compiler accepts exactly the balanced sources.**  A source compiles exactly if every
line has an even number of quotes, and of the parentheses outside quotes, read across all
lines, no part from the beginning closes more than it opens and all together close as many as
they open.  Otherwise the error names the first line on which a parenthesis outside quotes
closes more than was opened or which ends inside a quote, and of the two the parenthesis; and
if there is no such line, and only then, it says that a parenthesis stays open. -/
theorem compiles_iff_balanced (source : String) (kind : ScriptKind) :
    ((∃ code, compile source kind = .ok code) ↔
      (∀ line ∈ Text.lines source.toList, 2 ∣ line.count '"') ∧
      (∀ part, part <+: allParens (Text.lines source.toList) → part.count ')' ≤ part.count '(') ∧
      (allParens (Text.lines source.toList)).count '(' =
        (allParens (Text.lines source.toList)).count ')') ∧
    (∀ e, compile source kind = .error e ↔
      (∃ number, IsFirstFaulty (Text.lines source.toList) number ∧
        (OverclosesOn (Text.lines source.toList) number ∧
            e = .compile (.unexpectedClose number) ∨
          ¬ OverclosesOn (Text.lines source.toList) number ∧
            e = .compile (.unterminated number))) ∨
      (∀ number, ¬ IsFaulty (Text.lines source.toList) number) ∧
        (allParens (Text.lines source.toList)).count ')' <
          (allParens (Text.lines source.toList)).count '(' ∧
        e = .compile .unclosed) ∧
    (∀ number, (ScriptError.compile (.unexpectedClose number)).message =
        "Compile error: unexpected ')' on line " ++ toString number ∧
      (ScriptError.compile (.unterminated number)).message =
        "Compile error: unterminated string on line " ++ toString number) ∧
    (ScriptError.compile .unclosed).message = "Compile error: unclosed '('" := by
  refine ⟨?_, ?_, ?_, rfl⟩
  · have accepted : (∃ code, compile source kind = .ok code) ↔
        Verdict (Text.lines source.toList) (.ok ()) := by
      simp only [compile_eq_ok_iff, checkBalanced_eq_iff, exists_and_left, exists_eq, and_true]
    rw [accepted, ← and_assoc]
    have intact := @intact_iff (Text.lines source.toList)
    simp only [exists_depthAfter?_iff, Nat.zero_add] at intact
    rw [← intact]
    constructor
    · rintro ⟨intact, matched⟩
      exact ⟨intact, matched⟩
    · rintro ⟨intact, matched⟩
      exact .balanced intact matched
  · intro e
    simp only [compile_eq_error_iff, checkBalanced_eq_iff]
    constructor
    · rintro ⟨fault, verdict, rfl⟩
      cases verdict with
      | overcloses first closes => exact .inl ⟨_, first, .inl ⟨closes, rfl⟩⟩
      | endsInQuote first closes => exact .inl ⟨_, first, .inr ⟨closes, rfl⟩⟩
      | staysOpen intact left => exact .inr ⟨intact, left, rfl⟩
    · rintro (⟨number, first, ⟨closes, rfl⟩ | ⟨closes, rfl⟩⟩ | ⟨intact, left, rfl⟩)
      · exact ⟨_, .overcloses first closes, rfl⟩
      · exact ⟨_, .endsInQuote first closes, rfl⟩
      · exact ⟨_, .staysOpen intact left, rfl⟩
  · exact fun number => ⟨rfl, rfl⟩

/-- A source of three lines.  The parenthesis in quotes on the first one does not count; on the
second one a parenthesis closes nothing, and it ends in a quote; so does the third one. -/
def twoFaults : String := "Give(\"a)\")\r\nTake)(\"b\nDrop(\"c"

/-- Of the two faults of the second line the parenthesis is reported. -/
theorem compiles_iff_balanced_two_faults :
    compile twoFaults .action = .error (.compile (.unexpectedClose 2)) ∧
      IsFirstFaulty (Text.lines twoFaults.toList) 2 ∧
      OverclosesOn (Text.lines twoFaults.toList) 2 ∧
      EndsInQuoteOn (Text.lines twoFaults.toList) 2 := by
  have fails : compile twoFaults .action = .error (.compile (.unexpectedClose 2)) := rfl
  have second : (Text.lines twoFaults.toList)[1]? = some "Take)(\"b".toList := by decide +kernel
  rcases ((compiles_iff_balanced twoFaults .action).2.1 _).mp fails with
    ⟨number, first, ⟨closes, same⟩ | ⟨-, other⟩⟩ | ⟨-, -, other⟩
  · cases same
    exact ⟨fails, first, closes, (endsInQuoteOn_iff second).mpr (by decide)⟩
  · cases other
  · cases other

end Script
end Unreferenced
