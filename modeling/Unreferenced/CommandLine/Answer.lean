import Unreferenced.CommandLine.Help
import Unreferenced.Corpus
import Unreferenced.Report
import Unreferenced.Scan.Run

/-!
# Answers of the command line

What the program prints, what it saves and with which status it ends.  An answer
is carried out by doing one thing after the other, in any monad that can do
them; the decisions and their order are all made here.
-/

namespace Unreferenced
namespace CommandLine

/-- Something that the program does to its surroundings. -/
inductive Effect
  | print (text : String)
  | save (path text : String)
deriving DecidableEq, Repr

/-- Does one thing after the other up to the first that fails, and tells whether none did. -/
def Effect.performAll {m : Type → Type} [Monad m] (perform : Effect → m Bool) :
    List Effect → m Bool
  | [] => pure true
  | effect :: rest => do
    if ← perform effect then performAll perform rest else return false

/-- What the program does in the end. -/
structure Answer where
  /-- The text on standard output. -/
  stdout : String
  /-- A file to write, and its text. -/
  save? : Option (String × String)
  /-- The exit status if the file, if any, could be written. -/
  status : UInt32
deriving DecidableEq, Repr

namespace Answer

/-- The answer that only prints. -/
def print (text : String) : Answer := ⟨text, none, 0⟩

/-- The answer to a failed check: nothing is printed or saved. -/
def failure : Answer := ⟨"", none, 1⟩

/-- The answer to arguments that make no sense. -/
def misuse : Answer := ⟨"", none, 2⟩

/-- What is done for an answer, in this order: the text is printed before a file is written. -/
def effects (a : Answer) : List Effect :=
  .print a.stdout :: (a.save?.map fun (path, text) => .save path text).toList

/-- Carries an answer out and tells the exit status.  A report that cannot be saved is a
failure. -/
def carryOut {m : Type → Type} [Monad m] (perform : Effect → m Bool) (a : Answer) : m UInt32 := do
  return if ← Effect.performAll perform a.effects then a.status else 1

/-- The exit status, given which files can be written. -/
def exitStatus (canWrite : String → Bool) (a : Answer) : UInt32 :=
  match a.save? with
  | some (path, _) => if canWrite path then a.status else 1
  | none => a.status

end Answer

/-- The configuration of a check. -/
def Check.config (c : Check) : Except ConfigFault Config :=
  ConfigChoice.build { ConfigChoice.none with
    target? := some (Kind.ofText c.kind)
    concurrencyLimit? := some c.jobs }

/-- The report of a scan of a corpus, if the scan completes. -/
def scanReport (processors : Nat) (config : Config) (corpus : Corpus) : Option Report :=
  let store := corpus.store
  let run := Scan.run store.source corpus.stringTable.audio? processors config .never
  (ScanStatus.ofResult store.label? run.result).report?

/-- The report of a check, given the bytes of the corpus file if it can be read.
There is none if the kind or the corpus is rejected. -/
def Check.report? (processors : Nat) (file? : Option ByteArray) (c : Check) : Option Report :=
  match c.config, Corpus.ofFile file? with
  | .ok config, .ok corpus => scanReport processors config corpus
  | _, _ => none

/-- A report in the form that was asked for. -/
def printed (format : OutputFormat) (report : Report) : String :=
  match format with
  | .text => report.terminalText
  | .json => report.jsonText ++ "\n"

/-- The answer to a check with this report. -/
def Check.answer (report? : Option Report) (c : Check) : Answer :=
  match report? with
  | some report => ⟨printed c.format report, c.output?.map fun path => (path, report.text), 0⟩
  | none => .failure

namespace Request

/-- The corpus file that a request needs. -/
def corpus? : Request → Option String
  | .unused check => some check.corpus
  | _ => none

/-- The report that a request asks for. -/
def report? (processors : Nat) (file? : Option ByteArray) : Request → Option Report
  | .unused check => check.report? processors file?
  | _ => none

/-- The answer to a request, given the report that it asks for. -/
def answer (report? : Option Report) : Request → Answer
  | .unused check => check.answer report?
  | .kinds => .print (Report.ended (Kind.checkable.map Kind.text))
  | .help topic => .print (Report.ended (helpLines topic))
  | .version => .print versionLine
  | .misuse => .misuse

end Request
end CommandLine
end Unreferenced
