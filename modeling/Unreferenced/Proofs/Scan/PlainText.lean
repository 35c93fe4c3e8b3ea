import Unreferenced.Proofs.Scan.Completed
import Unreferenced.Proofs.Text.Folding
import Unreferenced.Proofs.Text.Words

/-!
# Plain text

A plain text refers to the words in it, taken as names of the target kind.  So a resource
whose name can be a word is struck off as soon as its name stands somewhere in a text that
is scanned with no word character next to it, and a resource with another name is not struck
off by any text (`plain_text_strikes_words`).
-/

namespace Unreferenced

/-! ## Names that can be words -/

/-- The name has three to eight characters, which are ASCII letters, digits and underscores. -/
def Identity.IsWord (i : Identity) : Prop :=
  3 ≤ i.name.toList.length ∧ i.name.toList.length ≤ 8 ∧
    ∀ c ∈ i.name.toList, Text.isAsciiWord c = true

/-- The name stands in the text as a whole word, in any letter case. -/
def Identity.StandsIn (i : Identity) (text : String) : Prop :=
  ∃ run, Text.IsRun text.toList run ∧ Text.upper run = Text.upper i.name.toList

namespace Text

/-- A text has all its characters in the class of word characters whatever their case. -/
theorem forall_isAsciiWord_congr {xs ys : List Char} (alike : upper xs = upper ys)
    (word : ∀ c ∈ xs, isAsciiWord c = true) : ∀ c ∈ ys, isAsciiWord c = true := by
  intro c member
  have upperCase : c.toUpper ∈ upper xs := by
    rw [alike]
    exact List.mem_map_of_mem member
  obtain ⟨d, among, same⟩ := List.mem_map.mp upperCase
  rw [← isAsciiWord_toUpper, ← same, isAsciiWord_toUpper]
  exact word d among

theorem length_of_alike {xs ys : List Char} (alike : upper xs = upper ys) :
    xs.length = ys.length := by
  rw [← length_upper, alike, length_upper]

/-- A run that is neither too short nor too long is a piece. -/
theorem isPiece_of_isRun {cs run : List Char} (isRun : IsRun cs run) (few : 3 ≤ run.length)
    (many : run.length ≤ 8) : IsPiece cs run :=
  ⟨run, 0, isRun, (List.take_of_length_le many).symm, few⟩

theorem IsPiece.length_le {cs w : List Char} (piece : IsPiece cs w) : w.length ≤ 8 := by
  obtain ⟨run, k, -, rfl, -⟩ := piece
  exact List.length_take_le _ _

theorem IsPiece.isAsciiWord {cs w : List Char} (piece : IsPiece cs w) :
    ∀ c ∈ w, Text.isAsciiWord c = true :=
  Extraction.isAsciiWord_of_mem_words (mem_words_iff.mpr piece)

end Text

namespace Extraction

variable {lookup : Int32 → Option String} {target : Kind} {text : String} {i : Identity}

/-- A plain text refers to the identities of the target kind that have a piece as their name,
in any letter case. -/
theorem contains_plainText_iff :
    (ofContent lookup target (.plainText text)).references.contains i = true ↔
      i.kind = target ∧
        ∃ w, Text.IsPiece text.toList w ∧ Text.upper w = Text.upper i.name.toList := by
  rw [contains_ofContent]
  rfl

/-- What is extracted from a plain text are pieces of it, in the spelling of the text. -/
theorem exists_isPiece_of_mem_plainText
    (member : i ∈ (ofContent lookup target (.plainText text)).references.members) :
    ∃ w, Text.IsPiece text.toList w ∧ i = ⟨String.ofList w, target⟩ := by
  have collected := (List.mem_filter.mp (IdentitySet.mem_ofList member)).1
  obtain ⟨w, word, rfl⟩ := List.mem_map.mp collected
  exact ⟨w, Text.mem_words_iff.mp word, ofParts_word word target⟩

/-- A plain text refers to names that can be words only. -/
theorem isWord_of_contains_plainText
    (contained : (ofContent lookup target (.plainText text)).references.contains i = true) :
    i.IsWord := by
  obtain ⟨-, w, piece, alike⟩ := contains_plainText_iff.mp contained
  have long : 3 ≤ w.length := piece.choose_spec.choose_spec.2.2
  have short := piece.length_le
  rw [Text.length_of_alike alike] at long short
  exact ⟨long, short, Text.forall_isAsciiWord_congr alike piece.isAsciiWord⟩

/-- A plain text refers to every such name that stands in it as a whole word. -/
theorem contains_plainText_of_standsIn (kind : i.kind = target) (isWord : i.IsWord)
    (stands : i.StandsIn text) :
    (ofContent lookup target (.plainText text)).references.contains i = true := by
  obtain ⟨run, isRun, alike⟩ := stands
  obtain ⟨few, many, -⟩ := isWord
  rw [← Text.length_of_alike alike] at few many
  exact contains_plainText_iff.mpr ⟨kind, run, Text.isPiece_of_isRun isRun few many, alike⟩

end Extraction

namespace Scan

variable {su : Setup} {s : State} {i : Identity} {done : List Nat}

/-! ## What the books say -/

/-- An equal spelling is named by the same jobs. -/
theorem Setup.names_congr (su : Setup) {m : Identity} (same : (m == i) = true) (n : Nat) :
    su.names m n = su.names i n := by
  simp only [Setup.names, IdentitySet.contains, BEq.congr_right same]

/-- What a completed job names is no candidate any more. -/
theorem Ledger.not_mem_of_names (h : Ledger su done s) {n : Nat} (member : n ∈ done)
    (named : su.names i n = true) : i ∉ s.candidates.members.members := by
  intro candidate
  have nothing := ((h.candidates i).mp candidate).2
  rw [Account.total, Nat.add_eq_zero_iff, tally_eq_zero_iff] at nothing
  have unnamed : (su.names i n).toNat = 0 := nothing.1 n member
  rw [named] at unnamed
  cases unnamed

/-- A candidate that no job names stays a candidate. -/
theorem Ledger.mem_of_names (h : Ledger su done s)
    (seeded : i ∈ (CandidateSet.seed su.target su.targets).members.members)
    (unnamed : ∀ n, su.names i n = false) : i ∈ s.candidates.members.members := by
  refine (h.candidates i).mpr ⟨seeded, ?_⟩
  rw [Account.total, Nat.add_eq_zero_iff, tally_eq_zero_iff, tally_eq_zero_iff]
  constructor
  · intro n _
    exact congrArg Bool.toNat (unnamed n)
  · rintro ⟨n, job, phase⟩ _
    cases phase <;> simp [Account.struckOff, unnamed]

/-! ## What plain text does to a scan -/

/-- The job of this number reads a plain text in which the resource, of the target kind and
with a name that can be a word, stands as a whole word. -/
def Setup.ReadsWord (su : Setup) (i : Identity) (n : Nat) : Prop :=
  i.kind = su.target ∧ i.IsWord ∧
    ∃ text, su.content? n = some (.plainText text) ∧ i.StandsIn text

/-- The resource is listed, its name cannot be a word, and what is loaded does not refer to
it unless it is plain text. -/
def Setup.OnlyPlainText (su : Setup) (i : Identity) : Prop :=
  i ∈ (CandidateSet.seed su.target su.targets).members.members ∧ ¬ i.IsWord ∧
    ∀ n content, su.content? n = some content → (∀ text, content ≠ .plainText text) →
      (Extraction.ofContent su.audio su.target content su.compiler).references.contains i = false

theorem Setup.ReadsWord.names {n : Nat} (reads : su.ReadsWord i n) : su.names i n = true := by
  obtain ⟨kind, isWord, text, loaded, stands⟩ := reads
  rw [Setup.names, Setup.found?, loaded, Option.map_some, Extraction.ofContent_plainText]
  exact Extraction.contains_plainText_of_standsIn kind isWord stands

theorem Setup.OnlyPlainText.names (only : su.OnlyPlainText i) (n : Nat) :
    su.names i n = false := by
  obtain ⟨-, notWord, others⟩ := only
  rw [Setup.names, Setup.found?]
  cases loaded : su.content? n with
  | none => rfl
  | some content =>
    show (Extraction.ofContent su.audio su.target content su.compiler).references.contains i = false
    cases content with
    | plainText text =>
      rw [Extraction.ofContent_plainText, ← Bool.not_eq_true]
      exact mt Extraction.isWord_of_contains_plainText notWord
    | _ => exact others n _ loaded (by simp)

/-- **Plain text strikes off words.**  The references extracted from a plain text are exactly
the pieces that its maximal runs of word characters are cut into, from the left, eight
characters each and a remainder, if they have three characters or more, all with the target
kind.  So a resource whose name has three to eight word characters, and nothing else, is no
candidate any more once a plain text has been scanned in which it stands as a whole word,
and if the scan is not cancelled it is not found unused.  And a resource with another name is
not extracted from any plain text: it stays a candidate in every state of every scan, and is
found unused, if nothing but plain text could refer to it. -/
theorem plain_text_strikes_words :
    (∀ (lookup : Int32 → Option String) (target : Kind) (text : String),
      (∀ i, (Extraction.ofContent lookup target (.plainText text)).references.contains i = true ↔
        i.kind = target ∧
          ∃ w, Text.IsPiece text.toList w ∧ Text.upper w = Text.upper i.name.toList) ∧
      (∀ i ∈ (Extraction.ofContent lookup target (.plainText text)).references.members,
        ∃ w, Text.IsPiece text.toList w ∧ i = ⟨String.ofList w, target⟩) ∧
      (∀ i : Identity, i.kind = target → i.IsWord → i.StandsIn text →
        (Extraction.ofContent lookup target (.plainText text)).references.contains i = true) ∧
      ∀ i : Identity, ¬ i.IsWord →
        (Extraction.ofContent lookup target (.plainText text)).references.contains i = false) ∧
    (∀ (su : Setup) (cancelled : Bool) (actions : List Action) (s : State),
      follow su (State.initial su cancelled) actions = some s → ∀ i : Identity,
      (∀ n ∈ completions su (State.initial su cancelled) actions, su.ReadsWord i n →
        ∀ m ∈ s.candidates.members.members, (m == i) = false) ∧
      (su.OnlyPlainText i → i ∈ s.candidates.members.members)) ∧
    ∀ (su : Setup) (s : State), Ends su s → ∀ i : Identity,
      (∀ n, su.ReadsWord i n → ∀ m ∈ (s.unused su).resources, (m == i) = false) ∧
      (su.OnlyPlainText i → i ∈ (s.unused su).resources) := by
  have scanned (su : Setup) (cancelled : Bool) (actions : List Action) (s : State)
      (run : follow su (State.initial su cancelled) actions = some s) (i : Identity) :
      (∀ n ∈ completions su (State.initial su cancelled) actions, su.ReadsWord i n →
        ∀ m ∈ s.candidates.members.members, (m == i) = false) ∧
      (su.OnlyPlainText i → i ∈ s.candidates.members.members) := by
    have books := Ledger.of_follow run
    constructor
    · intro n completed reads m member
      rw [← Bool.not_eq_true]
      intro same
      exact books.not_mem_of_names completed ((su.names_congr same n).trans reads.names) member
    · intro only
      exact books.mem_of_names only.1 only.names
  refine ⟨?_, scanned, ?_⟩
  · intro lookup target text
    refine ⟨fun i => Extraction.contains_plainText_iff,
      fun i => Extraction.exists_isPiece_of_mem_plainText,
      fun i => Extraction.contains_plainText_of_standsIn, ?_⟩
    intro i notWord
    rw [← Bool.not_eq_true]
    exact mt Extraction.isWord_of_contains_plainText notWord
  · rintro su s ⟨actions, run, never, closed⟩ i
    obtain ⟨strikes, spares⟩ := scanned su false actions s run i
    constructor
    · intro n reads m listed
      obtain ⟨-, -, text, loaded, -⟩ := id reads
      have inside : n < su.total := by
        obtain ⟨r, there, -⟩ := Option.bind_eq_some_iff.mp loaded
        exact (List.getElem?_eq_some_iff.mp there).1
      have completed := (mem_completions_iff run (Dispatcher.isJoined_of_isClosed closed)
        (cancelled_follow run never) n).mpr inside
      exact strikes n completed reads m (mem_snapshot_iff.mp listed)
    · intro only
      exact mem_snapshot_iff.mpr (spares only)

/-- A scroll on which an item is written between letters that are no word characters, and
another one with a long name. -/
def Setup.scroll : Setup where
  load _ _ := .ok (.plainText "éRing01é, longername1")
  audio _ := none
  target := ⟨"ITM"⟩
  resources := [⟨"scroll", ⟨"2DA"⟩⟩]
  targets := [⟨"RING01", ⟨"ITM"⟩⟩, ⟨"longername1", ⟨"ITM"⟩⟩]
  limit := 1
  interval := 1

/-- The first item is not found unused, and the second one is. -/
theorem plain_text_strikes_words_scroll :
    ∃ s, Ends Setup.scroll s ∧
      ⟨"RING01", ⟨"ITM"⟩⟩ ∉ (s.unused Setup.scroll).resources ∧
      ⟨"longername1", ⟨"ITM"⟩⟩ ∈ (s.unused Setup.scroll).resources := by
  have ends : Ends Setup.scroll _ := Ends.drive (Nat.le_refl 1)
  have found := plain_text_strikes_words.2.2 Setup.scroll _ ends
  refine ⟨_, ends, ?_, ?_⟩
  · intro listed
    have reads : Setup.scroll.ReadsWord ⟨"RING01", ⟨"ITM"⟩⟩ 0 := by
      refine ⟨rfl, ⟨by decide, by decide, List.all_eq_true.mp rfl⟩, _, rfl, "Ring01".toList,
        ⟨by decide, List.all_eq_true.mp rfl, ['é'], 'é' :: ", longername1".toList,
          by decide +kernel, ?_, ?_⟩, rfl⟩
      all_goals
        rintro c ⟨⟩
        decide
    have apart := (found _).1 0 reads _ listed
    rw [BEq.rfl] at apart
    cases apart
  · refine (found _).2 ⟨?_, fun isWord => absurd isWord.2.1 (by decide), ?_⟩
    · exact List.mem_cons_of_mem _ List.mem_cons_self
    · intro n content loaded notPlain
      obtain ⟨r, -, given⟩ := Option.bind_eq_some_iff.mp loaded
      cases given
      exact absurd rfl (notPlain _)

end Scan
end Unreferenced
