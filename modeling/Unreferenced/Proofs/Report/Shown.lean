import Unreferenced.Proofs.Report.Json
import Unreferenced.Proofs.Report.Warning

/-!
# What reports show

The printed and the saved form of a report, line by line, without the functions that write
them (`Report.Shows`, `Report.IsSavedAs`).
-/

namespace Unreferenced
namespace Report

open CommandLine (OutputFormat printed)
open Json (Reader)

/-! ## The terminal -/

/-- The line shows the entry: the file name after two blanks and, if there is a label, the
label in a column of its own, which is moved to the right by long names. -/
inductive ShowsEntry (e : ReportEntry) : String → Prop
  | bare (unlabelled : e.label = "") : ShowsEntry e ("  " ++ e.resource.fileName)
  | labelled (blanks : Nat) (labelled : e.label ≠ "")
      (column : blanks = 16 - e.resource.fileName.length + 1) :
      ShowsEntry e ("  " ++ e.resource.fileName ++ String.ofList (List.replicate blanks ' ') ++
        e.label)

/-- The headline tells how many entries there are. -/
inductive IsHeadline (r : Report) : String → Prop
  | none (empty : r.entries = []) : IsHeadline r ("No unused " ++ r.target.text ++ "s found")
  | some (filled : r.entries ≠ []) :
      IsHeadline r (toString r.entries.length ++ " unused " ++ r.target.text ++ "s found")

/-- The counters in one line.  Failures are mentioned only if there are any. -/
def counters (r : Report) : String :=
  toString r.stats.scanned ++ " resources scanned, " ++
  toString r.stats.initialCandidates ++ " candidates, " ++
  toString r.stats.removed ++ " referenced" ++
  (if r.stats.loadFailures = 0 then "" else
    ", " ++ toString r.stats.loadFailures ++ " failed to load") ++
  (if r.stats.scriptFailures = 0 then "" else
    ", " ++ toString r.stats.scriptFailures ++ " script errors") ++
  " in " ++ r.duration.text

/-- The text shows the report: the headline and the counters between two rules, a line for
each entry, and a warning with the number of failures if there were any. -/
def IsDisplay (r : Report) (text : String) : Prop :=
  ∃ headline lines, r.IsHeadline headline ∧ List.Forall₂ ShowsEntry r.entries lines ∧
    let rule := String.ofList (List.replicate 60 '─')
    text = ended (["", rule, " " ++ headline, " " ++ r.counters, rule, ""] ++ lines ++
      if r.failures = 0 then [] else ["", warning r.failures])

theorem showsEntry_terminalLine (e : ReportEntry) : ShowsEntry e (terminalLine e) := by
  rw [terminalLine]
  by_cases unlabelled : e.label = ""
  · rw [if_pos (String.isEmpty_iff.mpr unlabelled)]
    exact .bare unlabelled
  · have filled : ¬ e.label.isEmpty = true := by rwa [String.isEmpty_iff]
    rw [if_neg filled]
    have line := ShowsEntry.labelled _ unlabelled (Eq.refl (16 - e.resource.fileName.length + 1))
    rw [List.replicate_succ', String.ofList_append, ← String.append_assoc] at line
    rw [padded, ← String.append_assoc]
    exact line

theorem isHeadline_summary (r : Report) : r.IsHeadline r.summary := by
  rw [summary]
  by_cases empty : r.entries = []
  · rw [if_pos (List.isEmpty_iff.mpr empty)]
    exact .none empty
  · rw [if_neg (mt List.isEmpty_iff.mp empty)]
    exact .some empty

theorem statsLine_eq (r : Report) : r.statsLine = r.counters := by
  rw [statsLine, statsParts, counters, ← String.toList_inj]
  by_cases loads : r.stats.loadFailures = 0 <;> by_cases scripts : r.stats.scriptFailures = 0 <;>
    simp [loads, scripts, Nat.pos_iff_ne_zero]

/-- What is printed on the terminal shows the report. -/
theorem isDisplay_terminalText (r : Report) : r.IsDisplay r.terminalText := by
  refine ⟨r.summary, r.entries.map terminalLine, r.isHeadline_summary, ?_, ?_⟩
  · rw [List.forall₂_map_right_iff, List.forall₂_same]
    exact fun e _ => showsEntry_terminalLine e
  · rw [terminalText_eq, heading, statsLine_eq]
    simp only [Nat.pos_iff_ne_zero, ite_not]
    rfl

/-! ## Files and JSON -/

/-- The text is the saved form of the report: a header, the number of entries, and a line for
each. -/
def IsSavedAs (r : Report) (text : String) : Prop :=
  text = ended (["Result of " ++ r.target.text ++ " usage check",
    "Number of hits: " ++ toString r.entries.length] ++
      r.entries.map fun e => "File: " ++ e.resource.fileName ++ "  Name: " ++ e.label)

theorem isSavedAs_text (r : Report) : r.IsSavedAs r.text := rfl

/-- The text shows the report in the form asked for.  As JSON, it is read back as the report
itself if the counters and the seconds have 64 bits. -/
inductive Shows (r : Report) : OutputFormat → String → Prop
  | display {text : String} (display : r.IsDisplay text) : Shows r .text text
  | json {json : String} (readBack : r.stats.Fits → r.duration.secs < Reader.countBound →
      ofText json = .ok r) : Shows r .json (json ++ "\n")

/-- What is printed shows the report, if its target is stable and its resources are proper. -/
theorem shows_printed {r : Report} (target : r.target.IsStable)
    (entries : ∀ e ∈ r.entries, e.resource.Proper) (format : OutputFormat) :
    r.Shows format (printed format r) := by
  cases format with
  | text => exact .display r.isDisplay_terminalText
  | json =>
    exact .json fun stats duration => Sound.ofText_jsonText ⟨target, entries, stats, duration⟩

end Report
end Unreferenced
