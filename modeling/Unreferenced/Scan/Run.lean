import Unreferenced.Config
import Unreferenced.Scan.Outcome
import Unreferenced.Scan.Remaining

/-!
# Running a scan

A scan starts if its configuration makes sense and all its listings succeed.
From then on nothing makes it fail: it completes, or it is cancelled.

The machine is run under one fixed schedule, in which a task that has been
submitted goes on until it ends and the dispatcher moves while there is none.
-/

namespace Unreferenced
namespace Scan

/-! ## Starting -/

/-- The setup of a scan on a machine with this many processors.  The
configuration is checked before anything is listed, and the kinds to inspect are
listed before the target kind. -/
def Setup.ofConfig (source : Source) (audio : Int32 → Option String) (processors : Nat)
    (config : Config) (compiler : Script.Compiler := Script.literal) :
    Except ScanError Setup := do
  config.validate
  let listings ← config.scannable.mapM source.list
  let targets ← source.list config.target
  return {
    load := fun _ => source.load
    audio := audio
    target := config.target
    resources := listings.flatten
    targets := targets
    limit := config.effectiveConcurrency processors
    interval := max config.progressInterval 1
    compiler := compiler }

/-! ## The schedule -/

/-- When the token of a scan is cancelled. -/
inductive Cancellation
  | never
  /-- Before the scan. -/
  | before
  /-- While the load of this number goes on, counted from one. -/
  | duringLoad (number : Nat)
deriving DecidableEq, Repr

namespace Cancellation

/-- Whether the token is cancelled when the scan starts. -/
def isBefore : Cancellation → Bool
  | before => true
  | _ => false

/-- Whether the token is to be cancelled in this state. -/
def isNow (s : State) : Cancellation → Bool
  | duringLoad number => !s.cancelled && 0 < number && s.loads.length == number
  | _ => false

end Cancellation

/-- The next action of the schedule. -/
def choose (cancellation : Cancellation) (s : State) : Action :=
  if cancellation.isNow s then .cancel
  else if s.tasks.isEmpty then .dispatch
  else .work 0 0

/-- The state in which the schedule ends. -/
def drive (su : Setup) (cancellation : Cancellation) (s : State) : State :=
  match _taken : step su s (choose cancellation s) with
  | some after => drive su cancellation after
  | none => s
termination_by remaining su s
decreasing_by exact remaining_step _taken

/-! ## Ending -/

/-- The counters of a scan in this state. -/
def State.stats (su : Setup) (s : State) : ScanStats :=
  ⟨su.total, s.counters.completed, s.counters.loadFailures, s.counters.scriptFailures,
    s.counters.referencesFound, s.counters.removed,
    (CandidateSet.seed su.target su.targets).size⟩

/-- What a scan in this state has found, leaving aside how long it took. -/
def State.unused (su : Setup) (s : State) : UnusedResources :=
  ⟨su.target, s.candidates.snapshot, s.stats su, Duration.zero⟩

/-- How a scan in this state has ended.  It has a result only if the last look
at the token did not find it cancelled. -/
def State.outcome (su : Setup) (s : State) : ScanOutcome :=
  match s.dispatcher with
  | .closed false => .completed (s.unused su)
  | _ => .cancelled

/-- All that can be seen of a scan. -/
structure Run where
  result : Except ScanError ScanOutcome
  loads : List Identity
  events : List Progress
  /-- Whether the token was cancelled in the end. -/
  cancelled : Bool

/-- Scans a source. -/
def run (source : Source) (audio : Int32 → Option String) (processors : Nat) (config : Config)
    (cancellation : Cancellation) (compiler : Script.Compiler := Script.literal) : Run :=
  match Setup.ofConfig source audio processors config compiler with
  | .error e => ⟨.error e, [], [], cancellation.isBefore⟩
  | .ok su =>
    let s := drive su cancellation (State.initial su cancellation.isBefore)
    ⟨.ok (s.outcome su), s.loads, s.events, s.cancelled⟩

end Scan
end Unreferenced
