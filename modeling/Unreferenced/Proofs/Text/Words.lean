import Unreferenced.Text.Token

/-!
# Words and runs

The words of a text are found by a search from the left, which takes as much as it can and
never comes back.  They can be told without a search: each maximal run of word characters
(`IsRun`) is cut from the left into pieces of the longest word's length and a remainder
(`pieces`), and the pieces that are long enough are the words (`words_eq`, `mem_words_iff`).
A search that has skipped a character of a run skips the rest of the run too, because what
is left of it is shorter than a word.
-/

namespace Unreferenced
namespace Text

/-! ## Runs -/

/-- The text is a maximal run of word characters: there are none next to it. -/
def IsRun (cs run : List Char) : Prop :=
  run ≠ [] ∧ (∀ c ∈ run, isAsciiWord c = true) ∧ ∃ before after, cs = before ++ (run ++ after) ∧
    (∀ c, before.getLast? = some c → isAsciiWord c = false) ∧
    ∀ c, after.head? = some c → isAsciiWord c = false

/-- What holds of all texts of word characters, and of a text that begins with such a text
and another character if it holds of what follows, holds of every text. -/
theorem run_induction {P : List Char → Prop}
    (whole : ∀ run : List Char, (∀ c ∈ run, isAsciiWord c = true) → P run)
    (further : ∀ (run : List Char) (sep : Char) (rest : List Char),
      (∀ c ∈ run, isAsciiWord c = true) → isAsciiWord sep = false → P rest →
      P (run ++ sep :: rest)) (cs : List Char) : P cs := by
  suffices after : ∀ run : List Char, (∀ c ∈ run, isAsciiWord c = true) → P (run ++ cs) from
    after [] fun _ member => (List.not_mem_nil member).elim
  induction cs with
  | nil =>
    intro run word
    rw [List.append_nil]
    exact whole run word
  | cons c cs ih =>
    intro run word
    cases hc : isAsciiWord c with
    | true =>
      rw [← List.singleton_append, ← List.append_assoc]
      refine ih (run ++ [c]) ?_
      intro d member
      rcases List.mem_append.mp member with inside | last
      · exact word d inside
      · rwa [List.mem_singleton.mp last]
    | false => exact further run c cs word hc (ih [] fun _ member => (List.not_mem_nil member).elim)

/-- The runs of a text are what stands between its other characters. -/
theorem isRun_iff_mem_splitOnP {cs run : List Char} :
    IsRun cs run ↔ run ≠ [] ∧ run ∈ cs.splitOnP fun c => !isAsciiWord c := by
  constructor
  · rintro ⟨some, word, before, after, rfl, startsAfter, endsBefore⟩
    refine ⟨some, ?_⟩
    have alone : run ∈ (run ++ after).splitOnP fun c => !isAsciiWord c := by
      cases after with
      | nil =>
        rw [List.append_nil, List.splitOnP_eq_singleton fun c member => by simp [word c member]]
        exact List.mem_singleton_self run
      | cons sep after =>
        rw [List.splitOnP_append_cons_of_forall_mem (fun c member => by simp [word c member]) sep
          (by simp [endsBefore sep rfl])]
        exact List.mem_cons_self
    rcases List.eq_nil_or_concat before with rfl | ⟨front, sep, rfl⟩
    · exact alone
    · rw [List.concat_eq_append] at startsAfter ⊢
      rw [List.append_assoc, List.singleton_append, List.splitOnP_append_cons]
      · exact List.mem_append_right _ alone
      · simp [startsAfter sep List.getLast?_concat]
  · rintro ⟨some, member⟩
    induction cs using run_induction with
    | whole run' word =>
      rw [List.splitOnP_eq_singleton fun c among => by simp [word c among]] at member
      rw [List.mem_singleton.mp member] at some ⊢
      exact ⟨some, word, [], [], by simp, by simp, by simp⟩
    | further run' sep rest word other ih =>
      rw [List.splitOnP_append_cons_of_forall_mem (fun c among => by simp [word c among]) sep
        (by simp [other])] at member
      rcases List.mem_cons.mp member with rfl | later
      · refine ⟨some, word, [], sep :: rest, rfl, by simp, ?_⟩
        rintro c ⟨⟩
        exact other
      · obtain ⟨-, word', before, after, rfl, startsAfter, endsBefore⟩ := ih later
        refine ⟨some, word', run' ++ sep :: before, after, by simp, ?_, endsBefore⟩
        intro c last
        rw [List.getLast?_append, List.getLast?_cons] at last
        cases ends : before.getLast? with
        | none =>
          rw [ends] at last
          cases last
          exact other
        | some d =>
          rw [ends] at last
          cases last
          exact startsAfter _ ends

/-! ## Pieces -/

/-- A run, cut from the left into pieces as long as the longest word, and a remainder. -/
def pieces (run : List Char) : List (List Char) :=
  if run = [] then [] else run.take maxWord :: pieces (run.drop maxWord)
termination_by run.length
decreasing_by
  have := List.length_pos_iff.mpr ‹_›
  rw [List.length_drop, maxWord]
  omega

theorem drop_mul_succ (run : List Char) (k : Nat) :
    run.drop (maxWord * (k + 1)) = (run.drop maxWord).drop (maxWord * k) := by
  rw [List.drop_drop, Nat.mul_succ, Nat.add_comm]

/-- The pieces are what stands between the multiples of the longest word's length. -/
theorem mem_pieces_iff {run w : List Char} :
    w ∈ pieces run ↔ w ≠ [] ∧ ∃ k, w = (run.drop (maxWord * k)).take maxWord := by
  fun_induction pieces run with
  | case1 => simp
  | case2 run some ih =>
    rw [List.mem_cons, ih]
    constructor
    · rintro (rfl | ⟨ne, k, rfl⟩)
      · refine ⟨?_, 0, by rw [Nat.mul_zero, List.drop_zero]⟩
        rw [Ne, List.take_eq_nil_iff, not_or]
        exact ⟨by decide, some⟩
      · exact ⟨ne, k + 1, by rw [drop_mul_succ]⟩
    · rintro ⟨ne, k, rfl⟩
      cases k with
      | zero => exact .inl (by rw [Nat.mul_zero, List.drop_zero])
      | succ k => exact .inr ⟨ne, k, by rw [drop_mul_succ]⟩

/-! ## The search -/

theorem words_of_long {cs : List Char} (long : minWord ≤ (wordAt cs).length) :
    words cs = wordAt cs :: words (cs.drop (wordAt cs).length) := by
  cases cs with
  | nil => exact absurd long (by decide)
  | cons c rest =>
    rw [words, if_pos long]
    cases taken : (wordAt (c :: rest)).length with
    | zero => rw [taken] at long; exact absurd long (by decide)
    | succ n => rfl

theorem words_of_short {c : Char} {rest : List Char}
    (short : ¬ minWord ≤ (wordAt (c :: rest)).length) : words (c :: rest) = words rest := by
  rw [words, if_neg short]

/-- At a character that is no word character nothing is found. -/
theorem words_cons_of_not_word {sep : Char} (other : isAsciiWord sep = false) (rest : List Char) :
    words (sep :: rest) = words rest := by
  apply words_of_short
  rw [wordAt, maxWord, List.take_succ_cons, List.takeWhile_cons_of_neg (by simp [other])]
  decide

/-- In a run, as much is found as there is up to the longest word. -/
theorem wordAt_append {run rest : List Char} (word : ∀ c ∈ run, isAsciiWord c = true)
    (ends : ∀ c, rest.head? = some c → isAsciiWord c = false) :
    wordAt (run ++ rest) = run.take maxWord := by
  have nothing (n : Nat) : (rest.take n).takeWhile isAsciiWord = [] := by
    cases rest with
    | nil => rw [List.take_nil, List.takeWhile_nil]
    | cons c rest =>
      cases n with
      | zero => rfl
      | succ n => rw [List.take_succ_cons, List.takeWhile_cons_of_neg (by simp [ends c rfl])]
  rw [wordAt, List.take_append, List.takeWhile_append_of_pos, nothing, List.append_nil]
  intro c member
  exact word c (List.mem_of_mem_take member)

/-- A run that is shorter than a word is skipped. -/
theorem words_append_of_short {run rest : List Char} (word : ∀ c ∈ run, isAsciiWord c = true)
    (ends : ∀ c, rest.head? = some c → isAsciiWord c = false) (short : run.length < minWord) :
    words (run ++ rest) = words rest := by
  induction run with
  | nil => rfl
  | cons c run ih =>
    rw [List.cons_append, words_of_short, ih (fun d among => word d (List.mem_cons_of_mem c among))]
    · exact Nat.lt_of_succ_lt short
    · rw [← List.cons_append, wordAt_append word ends, Nat.not_le]
      exact Nat.lt_of_le_of_lt (List.length_take_le' _ _) short

/-- The words of a run are its pieces that are long enough. -/
theorem words_append {run rest : List Char} (word : ∀ c ∈ run, isAsciiWord c = true)
    (ends : ∀ c, rest.head? = some c → isAsciiWord c = false) :
    words (run ++ rest) = ((pieces run).filter fun w => minWord ≤ w.length) ++ words rest := by
  fun_induction pieces run with
  | case1 => rfl
  | case2 run some ih =>
    have found := wordAt_append word ends
    have others := ih fun c member => word c (List.mem_of_mem_drop member)
    by_cases long : minWord ≤ (run.take maxWord).length
    · have left : run.drop (run.take maxWord).length = run.drop maxWord := by
        rw [List.length_take, ← List.drop_eq_drop_min]
      rw [words_of_long (by rwa [found]), found, List.filter_cons_of_pos (by simpa using long),
        List.cons_append, List.drop_append_of_le_length (List.length_take_le' _ _), left, others]
    · have short : run.length < minWord := by
        rw [List.length_take, maxWord, minWord] at long
        rw [minWord]
        omega
      have nothing : run.drop maxWord = [] :=
        List.drop_eq_nil_of_le (Nat.le_of_lt (Nat.lt_trans short (by decide)))
      rw [List.filter_cons_of_neg (by simpa using long), ← others, nothing, List.nil_append,
        words_append_of_short word ends short]

/-- The words of a text are the pieces of its runs that are long enough. -/
theorem words_eq (cs : List Char) : words cs =
    (cs.splitOnP fun c => !isAsciiWord c).flatMap fun run =>
      (pieces run).filter fun w => minWord ≤ w.length := by
  induction cs using run_induction with
  | whole run word =>
    have alone := @words_append run [] word (by simp)
    rw [List.append_nil, words, List.append_nil] at alone
    rw [List.splitOnP_eq_singleton fun c among => by simp [word c among], List.flatMap_singleton,
      alone]
  | further run sep rest word other ih =>
    rw [List.splitOnP_append_cons_of_forall_mem (fun c among => by simp [word c among]) sep
      (by simp [other]), List.flatMap_cons, ← ih, words_append word, words_cons_of_not_word other]
    rintro c ⟨⟩
    exact other

/-- The text is one of the pieces, eight characters long each and a remainder, that a maximal
run of word characters is cut into from the left, and it has three characters or more. -/
def IsPiece (cs w : List Char) : Prop :=
  ∃ run k, IsRun cs run ∧ w = (run.drop (8 * k)).take 8 ∧ 3 ≤ w.length

theorem mem_words_iff {cs w : List Char} : w ∈ words cs ↔ IsPiece cs w := by
  rw [words_eq, List.mem_flatMap]
  simp only [List.mem_filter, decide_eq_true_eq, mem_pieces_iff, isRun_iff_mem_splitOnP, IsPiece]
  constructor
  · rintro ⟨run, member, ⟨ne, k, rfl⟩, long⟩
    refine ⟨run, k, ⟨?_, member⟩, rfl, long⟩
    rintro rfl
    simp at ne
  · rintro ⟨run, k, ⟨-, member⟩, rfl, long⟩
    refine ⟨run, member, ⟨?_, k, rfl⟩, long⟩
    intro none
    rw [none] at long
    exact absurd long (by decide)

end Text
end Unreferenced
