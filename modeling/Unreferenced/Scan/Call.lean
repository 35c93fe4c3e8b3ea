import Unreferenced.Scan.Run

/-!
# Calls of a scanner

A scanner keeps nothing from one scan to the next but what it has sent to its
receivers.  A call of it checks the configuration, lists the kinds to inspect in
turn and the target kind last, and then lets the scan machine run.

The check and each listing are steps of the call.  The token may be cancelled
between any two of them, but nobody looks at it before the machine runs.
-/

namespace Unreferenced
namespace Scan

/-- A scanner on a machine with a number of processors. -/
structure Scanner where
  source : Source
  audio : Int32 → Option String
  processors : Nat
  /-- The events sent to the receivers so far. -/
  sent : List Progress
  compiler : Script.Compiler := Script.literal

namespace Scanner

/-- A scanner that has not been called. -/
def fresh (source : Source) (audio : Int32 → Option String) (processors : Nat)
    (compiler : Script.Compiler := Script.literal) : Scanner :=
  ⟨source, audio, processors, [], compiler⟩

/-- The setup of a scan with these listings. -/
def setup (sc : Scanner) (config : Config) (resources targets : List Identity) : Setup where
  load := fun _ => sc.source.load
  audio := sc.audio
  target := config.target
  resources := resources
  targets := targets
  limit := config.effectiveConcurrency sc.processors
  interval := max config.progressInterval 1
  compiler := sc.compiler

end Scanner

/-! ## States of a call -/

/-- How far a call has come. -/
inductive Stage
  /-- The next step checks the configuration. -/
  | called
  /-- These kinds are still to be listed before the target kind is, and these
  resources are listed. -/
  | listing (rest : List Kind) (resources : List Identity)
  /-- The scan machine runs. -/
  | started (su : Setup) (s : State)
  /-- There is no scan. -/
  | refused (error : ScanError)

/-- The state of a call. -/
structure Call where
  stage : Stage
  /-- Whether the token was cancelled before the machine ran. -/
  cancelled : Bool
  /-- The kinds that the source was asked to list so far. -/
  asked : List Kind

namespace Call

/-- The state before the first step; the token may be cancelled already. -/
def initial (cancelled : Bool) : Call := ⟨.called, cancelled, []⟩

/-- What the call returns, if it has come to its end. -/
def result? (c : Call) : Option (Except ScanError ScanOutcome) :=
  match c.stage with
  | .refused e => some (.error e)
  | .started su s =>
    match s.dispatcher with
    | .closed _ => some (.ok (s.outcome su))
    | _ => none
  | _ => none

/-- The loads started so far. -/
def loads (c : Call) : List Identity :=
  match c.stage with
  | .started _ s => s.loads
  | _ => []

/-- The events sent so far. -/
def events (c : Call) : List Progress :=
  match c.stage with
  | .started _ s => s.events
  | _ => []

/-! ## Steps -/

/-- A listing: the stage after it if it succeeds. -/
def list (sc : Scanner) (c : Call) (kind : Kind) (next : List Identity → Stage) : Call :=
  { c with
    stage :=
      match sc.source.list kind with
      | .ok listing => next listing
      | .error e => .refused e
    asked := c.asked ++ [kind] }

/-- The next step of a call before the machine runs. -/
def begin? (sc : Scanner) (config : Config) (c : Call) : Option Call :=
  match c.stage with
  | .called =>
    match config.validate with
    | .ok () => some { c with stage := .listing config.scannable [] }
    | .error e => some { c with stage := .refused e }
  | .listing (kind :: rest) resources =>
    some (c.list sc kind fun listing => .listing rest (resources ++ listing))
  | .listing [] resources =>
    some (c.list sc config.target fun targets =>
      .started (sc.setup config resources targets)
        (State.initial (sc.setup config resources targets) c.cancelled))
  | .started _ _ => none
  | .refused _ => none

/-- The state of a call after an action, if the action is possible. -/
def step (sc : Scanner) (config : Config) (c : Call) (a : Action) : Option Call :=
  match c.stage, a with
  | .started su s, a => (Scan.step su s a).map fun s => { c with stage := .started su s }
  | _, .dispatch => c.begin? sc config
  | _, .cancel => if c.cancelled then none else some { c with cancelled := true }
  | _, .work _ _ => none

/-- The state of a call after some actions, if all of them are possible. -/
def follow (sc : Scanner) (config : Config) : Call → List Action → Option Call
  | c, [] => some c
  | c, a :: rest => (c.step sc config a).bind fun c => follow sc config c rest

end Call

/-- The scanner after a call. -/
def Scanner.after (sc : Scanner) (c : Call) : Scanner :=
  { sc with sent := sc.sent ++ c.events }

end Scan
end Unreferenced
