import Unreferenced.Proofs.Identity.Parse
import Unreferenced.Proofs.Report.Entries

/-!
# The saved text of a report

The saved text has a header, the number of hits and a line for each entry.  Names and
labels are written as they are, so each line feed in one of them, or in the target kind,
starts a further line (`Report.length_savedLines`), and the lines correspond to the entries
exactly if there is none (`Report.savedLines_of_completes`).
-/

namespace Unreferenced

/-! ## Cutting at line feeds -/

namespace Text

/-- A list is cut into one piece more than the separator occurs in it. -/
theorem length_splitOn {α : Type} [BEq α] (sep : α) (xs : List α) :
    (xs.splitOn sep).length = xs.count sep + 1 := by
  unfold List.splitOn
  induction xs with
  | nil => rfl
  | cons x xs ih =>
    rw [List.splitOnP_cons_eq_if_modifyHead, List.count_cons]
    by_cases here : (x == sep) = true
    · rw [if_pos here, if_pos here, List.length_cons, ih]
    · rw [if_neg here, if_neg here, List.length_modifyHead, ih, Nat.add_zero]

/-- The number of line feeds in a text. -/
def feeds (s : String) : Nat := s.toList.count '\n'

theorem feeds_append (s t : String) : feeds (s ++ t) = feeds s + feeds t := by
  rw [feeds, String.toList_append, List.count_append]
  rfl

theorem feeds_eq_zero_iff {s : String} : feeds s = 0 ↔ '\n' ∉ s.toList :=
  List.count_eq_zero

/-- The decimal digits of a number hold no line feed. -/
theorem feeds_toString (n : Nat) : feeds (toString n) = 0 := by
  rw [feeds_eq_zero_iff, Nat.toString_eq_repr, Nat.toList_repr]
  intro feed
  have digit := Nat.isDigit_of_mem_toDigits (by decide) (by decide) feed
  exact absurd digit (by decide)

end Text

namespace Report

open Text (feeds feeds_append feeds_eq_zero_iff feeds_toString length_splitOn)

theorem toList_ended (lines : List String) :
    (ended lines).toList = lines.flatMap fun line => line.toList ++ ['\n'] := by
  simp [ended, String.toList_join, List.flatMap_map]

/-- A text of ended lines is cut into the pieces of the lines, and nothing stands after the
last line feed. -/
theorem splitOn_ended (lines : List String) :
    (ended lines).toList.splitOn '\n' =
      lines.flatMap (fun line => line.toList.splitOn '\n') ++ [[]] := by
  rw [toList_ended]
  induction lines with
  | nil => rfl
  | cons line lines ih =>
    rw [List.flatMap_cons, List.append_assoc, List.singleton_append, List.splitOn,
      List.splitOnP_append_cons _ _ (by decide), List.flatMap_cons, List.append_assoc, ← ih]
    rfl

/-! ## Lines of the saved text -/

variable {r : Report}

/-- The lines of the saved text, each ended by a line feed. -/
def savedLines (r : Report) : List (List Char) := (r.text.toList.splitOn '\n').dropLast

/-- Nothing stands after the last line of the saved text. -/
theorem splitOn_text (r : Report) : r.text.toList.splitOn '\n' = r.savedLines ++ [[]] := by
  rw [savedLines, text, splitOn_ended, List.dropLast_concat]

theorem savedLines_eq (r : Report) :
    r.savedLines = r.textLines.flatMap fun line => line.toList.splitOn '\n' := by
  rw [savedLines, text, splitOn_ended, List.dropLast_concat]

/-- The line feeds in what the saved text says of the target kind and of the entries. -/
def lineFeeds (r : Report) : Nat :=
  feeds r.target.text +
    (r.entries.map fun e => feeds e.resource.fileName + feeds e.label).sum

theorem feeds_line (e : ReportEntry) : feeds e.line = feeds e.resource.fileName + feeds e.label := by
  have file : feeds "File: " = 0 := by decide
  have name : feeds "  Name: " = 0 := by decide
  rw [ReportEntry.line, feeds_append, feeds_append, feeds_append, file, name]
  omega

/-- The lines of the report hold the line feeds of the target kind and of the entries. -/
theorem sum_feeds_textLines (r : Report) : (r.textLines.map feeds).sum = r.lineFeeds := by
  have result : feeds "Result of " = 0 := by decide
  have check : feeds " usage check" = 0 := by decide
  have hits : feeds "Number of hits: " = 0 := by decide
  have entries : (r.entries.map ReportEntry.line).map feeds =
      r.entries.map fun e => feeds e.resource.fileName + feeds e.label := by
    rw [List.map_map]
    exact List.map_congr_left fun e _ => feeds_line e
  rw [textLines, List.map_append, List.sum_append, entries, lineFeeds]
  simp only [List.map_cons, List.map_nil, List.sum_cons, List.sum_nil, feeds_append,
    feeds_toString, result, check, hits]
  omega

/-- The saved text has a line more for each line feed in what it says. -/
theorem length_savedLines (r : Report) : r.savedLines.length = 2 + r.size + r.lineFeeds := by
  have pieces (lines : List String) : (lines.flatMap fun line => line.toList.splitOn '\n').length =
      lines.length + (lines.map feeds).sum := by
    induction lines with
    | nil => rfl
    | cons line lines ih =>
      rw [List.flatMap_cons, List.length_append, ih, length_splitOn, List.map_cons, List.sum_cons,
        List.length_cons, feeds]
      omega
  rw [savedLines_eq, pieces, sum_feeds_textLines, textLines, List.length_append, List.length_map]
  rfl

/-- The saved text is cut into the lines of the report exactly if there is no line feed in
what it says. -/
theorem savedLines_eq_iff : r.savedLines = r.textLines.map String.toList ↔ r.lineFeeds = 0 := by
  constructor
  · intro same
    have length := congrArg List.length same
    rw [length_savedLines, List.length_map, textLines, List.length_append, List.length_map] at length
    change 2 + r.entries.length + _ = 2 + r.entries.length at length
    omega
  · intro none
    rw [← sum_feeds_textLines, List.sum_eq_zero_iff_forall_eq_nat] at none
    rw [savedLines_eq, List.map_eq_flatMap]
    apply List.flatMap_congr
    intro line member
    exact List.splitOn_eq_singleton (feeds_eq_zero_iff.mp (none _ (List.mem_map_of_mem member)))

theorem lineFeeds_eq_zero_iff : r.lineFeeds = 0 ↔ '\n' ∉ r.target.text.toList ∧
    ∀ e ∈ r.entries, '\n' ∉ e.resource.fileName.toList ∧ '\n' ∉ e.label.toList := by
  rw [lineFeeds, Nat.add_eq_zero_iff, List.sum_eq_zero_iff_forall_eq_nat, feeds_eq_zero_iff]
  simp only [List.forall_mem_map, Nat.add_eq_zero_iff, feeds_eq_zero_iff]

/-! ## Lines of a scan -/

theorem newline_mem_fileName {i : Identity} :
    '\n' ∈ i.fileName.toList ↔ '\n' ∈ i.name.toList ∨ '\n' ∈ i.kind.text.toList := by
  rw [Identity.toList_fileName, List.mem_append, List.mem_cons]
  simp

/-- **The saved text has a line for each entry and for each line feed.**  For every
completed scan and any labels, the entries of the report are the unused resources in their
order.  Beyond the two lines of the header and the line of each entry, the saved text has a
line for every line feed in the target kind, in the names and in the labels.  So its lines
are the header and the lines of the entries exactly if there is no line feed in any of
these. -/
theorem savedLines_of_completes {su : Scan.Setup} {unused : UnusedResources}
    (completes : Scan.Completes su unused) (label? : Identity → Option String) :
    let report := ofUnused label? unused
    report.entries.map (·.resource) = unused.resources ∧
      report.text.toList.splitOn '\n' = report.savedLines ++ [[]] ∧
      report.savedLines.length = 2 + report.size + report.lineFeeds ∧
      (report.savedLines = report.textLines.map String.toList ↔
        '\n' ∉ su.target.text.toList ∧ ∀ i ∈ unused.resources,
          '\n' ∉ i.name.toList ∧ ∀ label, label? i = some label → '\n' ∉ label.toList) := by
  intro report
  refine ⟨resources_ofUnused label? completes.ascending, splitOn_text report,
    length_savedLines report, ?_⟩
  have target : report.target = su.target := completes.target
  rw [savedLines_eq_iff, lineFeeds_eq_zero_iff, target,
    show report.entries = _ from entries_ofUnused label? completes.ascending, List.forall_mem_map]
  apply and_congr_right
  intro plain
  refine forall₂_congr ?_
  intro i member
  have kind := (completes.isFirst member).2
  rw [newline_mem_fileName, kind, not_or, and_iff_left plain]
  cases label? i <;> simp

/-- The line feed in the label of the ring sets the lines apart from those of the report. -/
theorem savedLines_of_completes_ring : ∃ unused, Scan.Completes ringSetup unused ∧
    (ofUnused ringCorpus.store.label? unused).savedLines ≠
      (ofUnused ringCorpus.store.label? unused).textLines.map String.toList := by
  obtain ⟨unused, completes, found⟩ := completes_ring
  refine ⟨unused, completes, ?_⟩
  intro same
  obtain ⟨-, plain⟩ := (savedLines_of_completes completes _).2.2.2.mp same
  rw [found] at plain
  exact (plain _ (List.mem_singleton_self _)).2 _ rfl (by decide)

/-- A saved text need not have a header of two lines and one line for each entry: the label
of the ring takes two. -/
theorem label_takes_two_lines : ¬ ∀ (text : String) (corpus : Corpus),
    Corpus.ofText text = .ok corpus → ∀ (config : Config) (processors : Nat) (su : Scan.Setup),
      Scan.Setup.ofConfig corpus.store.source corpus.stringTable.audio? processors config =
        .ok su → ∀ unused, Scan.Completes su unused →
          (ofUnused corpus.store.label? unused).savedLines.length =
            2 + (ofUnused corpus.store.label? unused).size := by
  intro correspond
  obtain ⟨unused, completes, found⟩ := completes_ring
  have length := correspond _ _ ofText_ring _ _ _ ofConfig_ring unused completes
  have plain : (ofUnused ringCorpus.store.label? unused).lineFeeds = 0 := by
    rw [length_savedLines] at length
    omega
  rw [lineFeeds_eq_zero_iff, entries_ring found] at plain
  exact (plain.2 _ (List.mem_singleton_self _)).2 (by decide)

end Report
end Unreferenced
