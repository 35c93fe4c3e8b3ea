import Unreferenced.Scan.Outcome
import Unreferenced.Store

/-!
# Reports

A report presents the unused resources of a completed scan in ascending order,
each with the label that the store has for it: as a text to save, as JSON, or
as lines for the terminal.
-/

namespace Unreferenced

/-- An unused resource with its label, which is empty if it has none. -/
structure ReportEntry where
  resource : Identity
  label : String
deriving Repr

/-- The presentation of the result of a scan. -/
structure Report where
  target : Kind
  entries : List ReportEntry
  stats : ScanStats
  duration : Duration
deriving Repr

namespace ReportEntry

/-- The line of a saved report. -/
def line (e : ReportEntry) : String :=
  "File: " ++ e.resource.fileName ++ "  Name: " ++ e.label

end ReportEntry

namespace Report

/-- The report of a result, with labels from a store. -/
def ofUnused (label? : Identity → Option String) (unused : UnusedResources) : Report :=
  ⟨unused.target,
    (Identity.sorted unused.resources).map fun i => ⟨i, (label? i).getD ""⟩,
    unused.stats, unused.duration⟩

/-- The report of a scan that took this time. -/
def lasting (r : Report) (duration : Duration) : Report := { r with duration := duration }

/-- The number of entries. -/
def size (r : Report) : Nat := r.entries.length

/-! ## Lines -/

/-- The headline. -/
def summary (r : Report) : String :=
  if r.entries.isEmpty then "No unused " ++ r.target.text ++ "s found"
  else toString r.size ++ " unused " ++ r.target.text ++ "s found"

/-- The counters that are worth a mention. -/
def statsParts (s : ScanStats) : List String :=
  [toString s.scanned ++ " resources scanned", toString s.initialCandidates ++ " candidates",
    toString s.removed ++ " referenced"] ++
  (if 0 < s.loadFailures then [toString s.loadFailures ++ " failed to load"] else []) ++
  (if 0 < s.scriptFailures then [toString s.scriptFailures ++ " script errors"] else [])

/-- The counters in one line. -/
def statsLine (r : Report) : String :=
  ", ".intercalate (statsParts r.stats) ++ " in " ++ r.duration.text

/-- The lines of the saved report. -/
def textLines (r : Report) : List String :=
  ["Result of " ++ r.target.text ++ " usage check", "Number of hits: " ++ toString r.size] ++
    r.entries.map ReportEntry.line

/-- Lines as a text, each ended by a line feed. -/
def ended (lines : List String) : String :=
  String.join (lines.map (· ++ "\n"))

/-- The saved report: a header, the number of entries, and a line for each. -/
def text (r : Report) : String := ended r.textLines

/-! ## Terminal -/

/-- A text filled up with blanks on the right to a width in characters. -/
def padded (width : Nat) (s : String) : String :=
  s ++ String.ofList (List.replicate (width - s.length) ' ')

/-- The rule above and below the headline. -/
def rule : String := String.ofList (List.replicate 60 '─')

/-- The line of an entry on the terminal. -/
def terminalLine (e : ReportEntry) : String :=
  if e.label.isEmpty then "  " ++ e.resource.fileName
  else "  " ++ padded 16 e.resource.fileName ++ " " ++ e.label

/-- The warning that entries may be in use, if there were failures. -/
def warningLines (s : ScanStats) : List String :=
  if s.hasFailures then
    ["", " " ++ toString (s.loadFailures + s.scriptFailures) ++
      " resource(s) could not be fully inspected; some entries may be in use"]
  else []

/-- The report on the terminal. -/
def terminalText (r : Report) : String :=
  ended (["", rule, " " ++ r.summary, " " ++ r.statsLine, rule, ""] ++
    r.entries.map terminalLine ++ warningLines r.stats)

/-! ## Written form -/

open Json (Reader Record Member)

/-- The written form of an entry. -/
def entryJson (e : ReportEntry) : Json :=
  .obj [("resource", .str e.resource.fileName), ("search_string", .str e.label)]

/-- The written form of a report. -/
def toJson (r : Report) : Json :=
  .obj [("target_kind", .str r.target.text), ("entries", .arr (r.entries.map entryJson)),
    ("stats", r.stats.toJson), ("scan_duration", r.duration.toJson)]

/-- The report as an indented JSON text. -/
def jsonText (r : Report) : String := r.toJson.pretty

/-- What is written of an entry. -/
def entryForm : Record ReportEntry :=
  ⟨⟨⟨"", ⟨""⟩⟩, ""⟩,
    [.must "resource" Reader.identity fun i v => { v with resource := i },
      .must "search_string" Reader.text fun l v => { v with label := l }], true⟩

/-- What is written of a report. -/
def form : Record Report :=
  ⟨⟨⟨""⟩, [], ScanStats.zero, Duration.zero⟩,
    [.must "target_kind" Reader.kind fun k v => { v with target := k },
      .must "entries" (Reader.listOf entryForm.read) fun e v => { v with entries := e },
      .must "stats" ScanStats.form.read fun s v => { v with stats := s },
      .must "scan_duration" Duration.read fun d v => { v with duration := d }], true⟩

/-- The report that a text describes. -/
def ofText (text : String) : Except Json.ReadError Report :=
  Reader.run form.read text

end Report

/-! ## Status -/

/-- What is shown at the end of a scan: a report, that it was cancelled, or why
it failed. -/
inductive ScanStatus
  | completed (report : Report)
  | cancelled
  | failed (reason : String)
deriving Repr

namespace ScanStatus

/-- The status of a finished scan. -/
def ofResult (label? : Identity → Option String) : Except ScanError ScanOutcome → ScanStatus
  | .ok (.completed unused) => .completed (Report.ofUnused label? unused)
  | .ok .cancelled => .cancelled
  | .error e => .failed e.message

/-- The headline. -/
def message : ScanStatus → String
  | completed report => report.summary
  | cancelled => "Operation cancelled"
  | failed reason => "Scan failed: " ++ reason

/-- Whether the scan failed. -/
def isFailed : ScanStatus → Bool
  | failed _ => true
  | _ => false

/-- The report of a completed scan. -/
def report? : ScanStatus → Option Report
  | completed report => some report
  | _ => none

end ScanStatus
end Unreferenced
