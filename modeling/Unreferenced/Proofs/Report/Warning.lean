import Unreferenced.CommandLine.Answer
import Unreferenced.Proofs.Config
import Unreferenced.Proofs.Corpus
import Unreferenced.Proofs.Report.Text
import Unreferenced.Proofs.Scan.Faults

/-!
# The warning below a report

The text output ends with a warning if there were failures.  The number in it is that of
the failures, not that of the resources: two broken scripts of one dialogue count twice
(`CommandLine.stdout_warns`).
-/

namespace Unreferenced

/-! ## Last lines -/

namespace Report

/-- The text has another line before its last one, and this is its last one. -/
def EndsWithLine (text line : String) : Prop :=
  ∃ before, text = before ++ "\n" ++ line ++ "\n"

theorem endsWithLine_iff {text line : String} :
    EndsWithLine text line ↔ ∃ before, text.toList = before ++ '\n' :: line.toList ++ ['\n'] := by
  constructor
  · rintro ⟨before, rfl⟩
    exact ⟨before.toList, by simp⟩
  · rintro ⟨before, cut⟩
    refine ⟨String.ofList before, String.toList_inj.mp ?_⟩
    rw [cut]
    simp

theorem toList_ended_concat (lines : List String) (last : String) :
    (ended (lines ++ [last])).toList = (ended lines).toList ++ (last.toList ++ ['\n']) := by
  rw [toList_ended, toList_ended, List.flatMap_append, List.flatMap_singleton]

/-- Some lines, one or more, end with a line feed. -/
theorem exists_toList_ended {lines : List String} (filled : lines ≠ []) :
    ∃ front, (ended lines).toList = front ++ ['\n'] := by
  obtain ⟨init, last, rfl⟩ := (List.eq_nil_or_concat' lines).resolve_left filled
  exact ⟨(ended init).toList ++ last.toList, by rw [toList_ended_concat, List.append_assoc]⟩

/-- A line without line feeds is the last one of some lines exactly if the last of them is
this line or brings it along after a line feed of its own. -/
theorem endsWithLine_ended_iff {lines : List String} {last line : String} (filled : lines ≠ [])
    (plain : '\n' ∉ line.toList) : EndsWithLine (ended (lines ++ [last])) line ↔
      last = line ∨ ∃ front, last = front ++ "\n" ++ line := by
  obtain ⟨others, before⟩ := exists_toList_ended filled
  rw [endsWithLine_iff, toList_ended_concat, before]
  constructor
  · rintro ⟨front, cut⟩
    rw [← List.append_assoc, List.append_left_inj, List.append_assoc, List.singleton_append] at cut
    -- the last line feed stands inside the last line or right before it
    cases inside : Text.splitLast? '\n' last.toList with
    | some pieces =>
      obtain ⟨own, back⟩ := pieces
      obtain ⟨split, final⟩ := Text.splitLast?_eq_some_iff.mp inside
      rw [split, ← List.cons_append, ← List.append_assoc] at cut
      have same := Text.eq_of_append_cons_eq final plain cut
      refine .inr ⟨String.ofList own, String.toList_inj.mp ?_⟩
      rw [split, same]
      simp
    | none =>
      have final := Text.splitLast?_eq_none_iff.mp inside
      exact .inl (String.toList_inj.mp (Text.eq_of_append_cons_eq final plain cut))
  · rintro (rfl | ⟨own, rfl⟩)
    · exact ⟨others, by simp⟩
    · exact ⟨others ++ ['\n'] ++ own.toList, by simp⟩

/-! ## The last line of the terminal -/

/-- The warning that mentions this number of resources. -/
def warning (n : Nat) : String :=
  " " ++ toString n ++ " resource(s) could not be fully inspected; some entries may be in use"

theorem warning_inj {m n : Nat} : warning m = warning n ↔ m = n := by
  rw [warning, warning, String.append_left_inj, String.append_right_inj]
  exact Nat.repr_inj

theorem newline_not_mem_warning (n : Nat) : '\n' ∉ (warning n).toList := by
  apply Text.feeds_eq_zero_iff.mp
  rw [warning, Text.feeds_append, Text.feeds_append, Text.feeds_toString]
  decide

/-- The line of an entry begins with two blanks, and a warning with one. -/
theorem terminalLine_ne_warning (e : ReportEntry) (n : Nat) : terminalLine e ≠ warning n := by
  intro same
  have second : (warning n).toList[1]? = some ' ' := by
    rw [← same, terminalLine]
    split <;> simp
  obtain ⟨d, ds, digits⟩ := List.exists_cons_of_ne_nil (Json.natText_ne_nil n)
  have digit : d.isDigit = true := by
    apply Json.isDigit_of_mem_natText (n := n)
    rw [digits]
    exact List.mem_cons_self
  rw [Json.natText] at digits
  rw [warning, Nat.toString_eq_repr, String.toList_append, String.toList_append, Nat.toList_repr,
    digits] at second
  have blank : d = ' ' := by simpa using second
  rw [blank] at digit
  exact absurd digit (by decide)

/-! ## The terminal text -/

/-- The lines on the terminal before the entries, but for the blank one. -/
def heading (r : Report) : List String := ["", rule, " " ++ r.summary, " " ++ r.statsLine, rule]

/-- The number of failures. -/
def failures (r : Report) : Nat := r.stats.loadFailures + r.stats.scriptFailures

theorem terminalText_eq (r : Report) : r.terminalText = ended (r.heading ++ [""] ++
    r.entries.map terminalLine ++ if 0 < r.failures then ["", warning r.failures] else []) := by
  have some : r.stats.hasFailures = true ↔ 0 < r.failures := by
    rw [ScanStats.hasFailures, Bool.or_eq_true, decide_eq_true_iff, decide_eq_true_iff, failures]
    omega
  rw [terminalText, warningLines]
  simp only [some]
  rfl

/-- The terminal text ends with a warning exactly if there were failures, and then with their
number, or if there were none and the line of the last entry brings the warning along. -/
theorem endsWithLine_terminalText_iff (r : Report) (n : Nat) :
    EndsWithLine r.terminalText (warning n) ↔ (0 < r.failures ∧ n = r.failures) ∨
      (r.failures = 0 ∧ ∃ e front, r.entries.getLast? = some e ∧
        terminalLine e = front ++ "\n" ++ warning n) := by
  have plain := newline_not_mem_warning n
  rw [terminalText_eq]
  by_cases failed : 0 < r.failures
  · have alone (front : String) : warning r.failures ≠ front ++ "\n" ++ warning n := by
      intro same
      apply newline_not_mem_warning r.failures
      rw [same]
      simp
    have split : r.heading ++ [""] ++ r.entries.map terminalLine ++ ["", warning r.failures] =
        r.heading ++ [""] ++ r.entries.map terminalLine ++ [""] ++ [warning r.failures] := by simp
    rw [if_pos failed, split, endsWithLine_ended_iff (by simp) plain, warning_inj]
    constructor
    · rintro (same | ⟨front, brought⟩)
      · exact .inl ⟨failed, same.symm⟩
      · exact absurd brought (alone front)
    · rintro (⟨-, same⟩ | ⟨none, -⟩)
      · exact .inl same.symm
      · exact absurd failed (by omega)
  · rw [if_neg failed, List.append_nil]
    rcases List.eq_nil_or_concat' r.entries with empty | ⟨before, e, entries⟩
    · rw [empty, List.map_nil, List.append_nil, endsWithLine_ended_iff (by simp [heading]) plain]
      constructor
      · rintro (same | ⟨front, same⟩)
        · exact absurd (congrArg String.toList same) (by simp [warning])
        · exact absurd (congrArg String.toList same) (by simp)
      · rintro (⟨some, -⟩ | ⟨-, _, _, none, -⟩)
        · exact absurd some failed
        · cases none
    · have split : r.heading ++ [""] ++ r.entries.map terminalLine =
          r.heading ++ [""] ++ before.map terminalLine ++ [terminalLine e] := by simp [entries]
      rw [split, endsWithLine_ended_iff (by simp) plain, entries, List.getLast?_concat]
      constructor
      · rintro (same | ⟨front, brought⟩)
        · exact absurd same (terminalLine_ne_warning e n)
        · exact .inr ⟨by omega, e, front, rfl, brought⟩
      · rintro (⟨some, -⟩ | ⟨-, _, front, ⟨⟩, brought⟩)
        · exact absurd some failed
        · exact .inr ⟨front, brought⟩

end Report

/-! ## The output of a check -/

namespace CommandLine

open Report (EndsWithLine warning)

/-- A check is accepted if its kind can be checked, and scans for this kind. -/
theorem Check.config_eq_ok_iff {check : Check} {config : Config} :
    check.config = .ok config ↔ (Kind.ofText check.kind).isCheckable = true ∧
      config = ⟨Kind.ofText check.kind, Kind.scannable, check.jobs, Config.defaultInterval,
        false⟩ := by
  rw [← Config.checkTarget_eq_ok_iff]
  simp only [Check.config, ConfigChoice.build, ConfigChoice.none, pure_bind, Option.getD_none]
  cases Config.checkTarget (Kind.ofText check.kind) false with
  | error fault =>
    constructor
    · rintro ⟨⟩
    · rintro ⟨⟨⟩, -⟩
  | ok =>
    constructor
    · rintro ⟨⟩
      exact ⟨rfl, rfl⟩
    · rintro ⟨-, rfl⟩
      rfl

/-- A check that is accepted is valid and inspects all kinds that may carry references. -/
theorem Check.config_eq_ok {check : Check} {config : Config} (accepted : check.config = .ok config) :
    config.validate = .ok () ∧ config.scannable = Kind.scannable := by
  obtain ⟨checkable, rfl⟩ := Check.config_eq_ok_iff.mp accepted
  refine ⟨?_, rfl⟩
  rw [Config.validate, Config.check, Config.checkTarget_eq_ok_iff.mpr checkable]
  rfl

variable {check : Check} {config : Config} {file? : Option ByteArray} {corpus : Corpus}

/-- The report of a check is that of a scan of the corpus in the file. -/
theorem Check.exists_report? (accepted : check.config = .ok config)
    (described : Corpus.ofFile file? = .ok corpus) (processors : Nat) :
    ∃ s, Scan.Ends (.ofStore corpus.store corpus.stringTable.audio? processors config) s ∧
      check.report? processors file? = some (.ofUnused corpus.store.label?
        (s.unused (.ofStore corpus.store corpus.stringTable.audio? processors config))) := by
  obtain ⟨s, ends, result⟩ := Scan.run_never_eq corpus.unavailable?_store
    (Check.config_eq_ok accepted).1 corpus.stringTable.audio? processors
  refine ⟨s, ends, ?_⟩
  rw [Check.report?, accepted, described]
  show scanReport processors config corpus = _
  rw [scanReport]
  simp only [result]
  rfl

/-- The text output of a check after any scan of the corpus. -/
theorem endsWithLine_stdout_iff (text : check.format = .text)
    (kinds : config.scannable = Kind.scannable) {audio : Int32 → Option String}
    {processors : Nat} {s : Scan.State}
    (ends : Scan.Ends (.ofStore corpus.store audio processors config) s)
    (label? : Identity → Option String) (duration : Duration) (n : Nat) :
    let report := (Report.ofUnused label?
      (s.unused (.ofStore corpus.store audio processors config))).lasting duration
    EndsWithLine (check.answer (some report)).stdout (warning n) ↔
      (0 < corpus.faults ∧ n = corpus.faults) ∨ (corpus.faults = 0 ∧ ∃ e front,
        report.entries.getLast? = some e ∧
        Report.terminalLine e = front ++ "\n" ++ warning n) := by
  intro report
  have failures : report.failures = corpus.faults := ends.faults kinds
  have shown : (check.answer (some report)).stdout = report.terminalText := by
    show printed check.format report = _
    rw [text]
    rfl
  rw [shown, ← failures]
  exact Report.endsWithLine_terminalText_iff report n

/-- **The warning counts failures.**  Take any check of a kind that can be checked with text
output, any file with a corpus and any number of processors.  Every scan that ends without
being cancelled, that of the program among them, gives a report of which the text output
ends with a warning exactly if there are faults in the inspected resources.  The number in
it is that of the faults.  (Without faults, only the line of the last entry can bring such
a line along.)  There are faults exactly if some inspected resource does not load or has a
broken script.  They are as many as these resources exactly if none of them has more than
one. -/
theorem stdout_warns (text : check.format = .text) (accepted : check.config = .ok config)
    (described : Corpus.ofFile file? = .ok corpus) (processors : Nat) :
    ∃ su, Scan.Setup.ofConfig corpus.store.source corpus.stringTable.audio? processors config =
        .ok su ∧
      (∃ s, Scan.Ends su s ∧ check.report? processors file? =
        some (.ofUnused corpus.store.label? (s.unused su))) ∧
      (∀ s, Scan.Ends su s → ∀ (duration : Duration) (n : Nat),
        let report := (Report.ofUnused corpus.store.label? (s.unused su)).lasting duration
        EndsWithLine (check.answer (some report)).stdout (warning n) ↔
          (0 < corpus.faults ∧ n = corpus.faults) ∨ (corpus.faults = 0 ∧ ∃ e front,
            report.entries.getLast? = some e ∧
            Report.terminalLine e = front ++ "\n" ++ warning n)) ∧
      (0 < corpus.faults ↔ ∃ i ∈ corpus.inspected,
        ∀ content, corpus.store.load i = .ok content → 0 < content.brokenScripts) ∧
      corpus.impaired ≤ corpus.faults ∧
      (corpus.faults = corpus.impaired ↔ ∀ i ∈ corpus.inspected, corpus.store.faults i ≤ 1) := by
  obtain ⟨valid, kinds⟩ := Check.config_eq_ok accepted
  refine ⟨_, Scan.ofConfig_source corpus.unavailable?_store valid _ processors,
    Check.exists_report? accepted described processors, ?_, corpus.faults_pos_iff,
    corpus.impaired_le_faults, corpus.faults_eq_impaired_iff⟩
  intro s ends duration n
  exact endsWithLine_stdout_iff text kinds ends _ duration n

/-- A corpus of a ring without data and of a dialogue with two broken scripts. -/
def brokenJson : Json :=
  .obj [("resources", .arr [.obj [("id", .str "Ring.itm")],
    .obj [("id", .str "Talk.dlg"), ("content", .obj [("type", .str "script_bearing"),
      ("fragments", .arr [.obj [("kind", .str "action"), ("source", .str "Give(")],
        .obj [("kind", .str "action"), ("source", .str "Take(")]])])]])]

/-- The corpus that is described there. -/
def brokenCorpus : Corpus :=
  ⟨[], [⟨⟨"Ring", ⟨"ITM"⟩⟩, none, none, none⟩, ⟨⟨"Talk", ⟨"DLG"⟩⟩, none,
    some (.scriptBearing ⟨[], [⟨.action, "Give("⟩, ⟨.action, "Take("⟩], []⟩), none⟩]⟩

/-- The check for unused sounds in it. -/
def brokenCheck : Check := ⟨"corpus.json", "wav", 1, .text, none, true⟩

theorem config_broken :
    brokenCheck.config = .ok ⟨⟨"WAV"⟩, Kind.scannable, 1, Config.defaultInterval, false⟩ := rfl

theorem ofFile_broken : Corpus.ofFile (some brokenJson.compact.toUTF8) = .ok brokenCorpus := by
  apply Corpus.ofFile_toUTF8
  rw [Corpus.ofText, Json.Reader.run_compact]
  rfl

/-- Two resources have three faults. -/
theorem faults_broken : brokenCorpus.faults = 3 ∧ brokenCorpus.impaired = 2 := by
  decide +kernel

/-- The warning about the two resources mentions three. -/
theorem stdout_warns_broken : ∃ report,
    brokenCheck.report? 1 (some brokenJson.compact.toUTF8) = some report ∧
      EndsWithLine (brokenCheck.answer (some report)).stdout (warning 3) ∧
      brokenCorpus.impaired = 2 := by
  have text : brokenCheck.format = .text := rfl
  obtain ⟨su, -, ⟨s, ends, reported⟩, warns, -⟩ := stdout_warns text config_broken ofFile_broken 1
  refine ⟨_, reported, (warns s ends Duration.zero 3).mpr (.inl ?_), faults_broken.2⟩
  rw [faults_broken.1]
  decide

/-- The number in the warning need not be that of the resources with a fault. -/
theorem warning_counts_scripts : ¬ ∀ (check : Check) (config : Config) (file? : Option ByteArray)
    (corpus : Corpus), check.format = .text → check.config = .ok config →
      Corpus.ofFile file? = .ok corpus → ∀ (processors : Nat) (report : Report),
        check.report? processors file? = some report → ∀ (duration : Duration) (n : Nat),
          EndsWithLine (check.answer (some (report.lasting duration))).stdout (warning n) ↔
            0 < corpus.impaired ∧ n = corpus.impaired := by
  intro counts
  obtain ⟨faults, impaired⟩ := faults_broken
  have text : brokenCheck.format = .text := rfl
  obtain ⟨s, ends, reported⟩ := Check.exists_report? config_broken ofFile_broken 1
  have warned := (endsWithLine_stdout_iff text (Check.config_eq_ok config_broken).2 ends
    brokenCorpus.store.label? Duration.zero 3).mpr (.inl (by rw [faults]; decide))
  have counted := (counts _ _ _ _ text config_broken ofFile_broken 1 _ reported
    Duration.zero 3).mp warned
  rw [impaired] at counted
  exact absurd counted.2 (by decide)

end CommandLine
end Unreferenced
