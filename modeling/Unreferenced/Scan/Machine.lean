import Unreferenced.CandidateSet
import Unreferenced.Extraction
import Unreferenced.Progress
import Unreferenced.Store

/-!
# The scan as a machine

A scan is a dispatcher and a number of tasks that share a few counters, the
candidate set and a cancellation token.  For each resource in turn the
dispatcher waits for a free slot and submits a task.  A task loads its
resource, extracts the references to the target kind, strikes them off the
candidates, counts itself as completed and gives its slot back.

The machine takes one indivisible step at a time, and any task or the
dispatcher may be the one to take it, so its runs are all interleavings that
concurrent workers can show.  The token may be cancelled between any two steps;
whoever looks at it afterwards gives up.

Two looks at the token share a step with what they guard.  Submitting a task and
extracting references commute with every step of the others, so a step or a
cancellation in between can as well come after both.
-/

namespace Unreferenced
namespace Scan

/-! ## What is fixed during a scan -/

/-- The task set of a scan and the services that it uses. -/
structure Setup where
  /-- What the job of a number is given when it loads its resource.  Another job
  that asks for the same resource may be given something else. -/
  load : Nat → Identity → Except LoadError Content
  audio : Int32 → Option String
  target : Kind
  /-- The resources to inspect, in order. -/
  resources : List Identity
  /-- The listing of the target kind. -/
  targets : List Identity
  /-- How many slots there are. -/
  limit : Nat
  /-- After how many completions an event is sent. -/
  interval : Nat
  compiler : Script.Compiler := Script.literal

namespace Setup

/-- The number of resources to inspect. -/
def total (su : Setup) : Nat := su.resources.length

/-- What a job finds in the content of its resource. -/
def extract (su : Setup) (job : Job) (content : Content) : Extraction :=
  Extraction.ofContent su.audio job.target content su.compiler

/-- The job to inspect a resource. -/
def job (su : Setup) (resource : Identity) : Job := ⟨resource, su.target⟩

/-- Whether the completion of this number is reported. -/
def isDue (su : Setup) (completed : Nat) : Bool :=
  completed % su.interval == 0 || completed == su.total

end Setup

/-! ## States -/

/-- How far a task has come. -/
inductive Phase
  /-- Submitted; the next step looks at the token. -/
  | submitted
  /-- The token was not cancelled; the next step starts to load. -/
  | cleared
  /-- The resource is being loaded. -/
  | loading
  /-- It could not be loaded; the next step counts the failure. -/
  | failed
  /-- It is loaded; the next step looks at the token and extracts. -/
  | loaded (content : Content)
  /-- References are extracted; the next step looks at the token. -/
  | extracted (found : Extraction)
  /-- The token was not cancelled; the next step counts the script failures. -/
  | passed (found : Extraction)
  /-- The next step counts the references. -/
  | counted (found : Extraction)
  /-- These references are still to be struck off. -/
  | striking (rest : List Identity)
  /-- A candidate was struck off; the next step counts it. -/
  | struck (rest : List Identity)
  /-- The next step counts the completion. -/
  | finishing
  /-- This was the completion of this number, and it is due; the next step reads
  the number of candidates struck off. -/
  | due (number : Nat)
  /-- The next step sends this event. -/
  | reporting (event : Progress)
  /-- The next step gives the slot back. -/
  | leaving

/-- A submitted task that has not ended. -/
structure Task where
  /-- The place of the resource among those to inspect. -/
  number : Nat
  job : Job
  phase : Phase

/-- What the dispatcher does next. -/
inductive Dispatcher
  /-- Look at the token before the next resource, if there is one. -/
  | checking (rest : List Identity)
  /-- Take a slot for a resource. -/
  | acquiring (resource : Identity) (rest : List Identity)
  /-- Look at the token again and submit the task. -/
  | admitted (resource : Identity) (rest : List Identity)
  /-- Wait until all tasks have ended. -/
  | joining
  /-- Look at the token a last time. -/
  | joined
  /-- Nothing; the last look found the token cancelled or not. -/
  | closed (cancelled : Bool)

/-- The counters that the tasks share. -/
structure Counters where
  completed : Nat
  loadFailures : Nat
  scriptFailures : Nat
  referencesFound : Nat
  removed : Nat
deriving DecidableEq, Repr

namespace Counters

/-- All counters at zero. -/
def zero : Counters := ⟨0, 0, 0, 0, 0⟩

end Counters

/-- The state of a scan. -/
structure State where
  dispatcher : Dispatcher
  /-- The tasks that have not ended, in the order of their submission. -/
  tasks : List Task
  /-- The number of tasks submitted so far. -/
  submitted : Nat
  /-- The tokens queued for slots that are taken. -/
  slotsTaken : Nat
  cancelled : Bool
  candidates : CandidateSet
  counters : Counters
  /-- The loads started so far. -/
  loads : List Identity
  /-- The events sent so far. -/
  events : List Progress

namespace State

/-- The state before the first step; the token may be cancelled already. -/
def initial (su : Setup) (cancelled : Bool) : State where
  dispatcher := .checking su.resources
  tasks := []
  submitted := 0
  slotsTaken := 0
  cancelled := cancelled
  candidates := CandidateSet.seed su.target su.targets
  counters := Counters.zero
  loads := []
  events := []

end State

/-! ## Steps of a task -/

/-- One step of a task: the state as it leaves it, and the next phase, unless
the task ends.  The references of an extraction come in no particular order, so
`pick` says which of those that are left is struck off next. -/
def Task.step (su : Setup) (s : State) (pick : Nat) (t : Task) : State × Option Phase :=
  match t.phase with
  | .submitted => (s, some (if s.cancelled then .leaving else .cleared))
  | .cleared => ({ s with loads := s.loads ++ [t.job.resource] }, some .loading)
  | .loading =>
    match su.load t.number t.job.resource with
    | .ok content => (s, some (.loaded content))
    | .error _ => (s, some .failed)
  | .failed =>
    ({ s with counters.loadFailures := s.counters.loadFailures + 1 }, some .finishing)
  | .loaded content =>
    (s, some (if s.cancelled then .leaving else .extracted (su.extract t.job content)))
  | .extracted found => (s, some (if s.cancelled then .leaving else .passed found))
  | .passed found =>
    ({ s with counters.scriptFailures := s.counters.scriptFailures + found.scriptFailures },
      some (.counted found))
  | .counted found =>
    ({ s with counters.referencesFound := s.counters.referencesFound + found.size },
      some (.striking found.references.toList))
  | .striking rest =>
    match rest[pick % rest.length]? with
    | none => (s, some .finishing)
    | some i =>
      let others := rest.eraseIdx (pick % rest.length)
      ({ s with candidates := (s.candidates.remove i).1 },
        some (if (s.candidates.remove i).2 then .struck others else .striking others))
  | .struck rest =>
    ({ s with counters.removed := s.counters.removed + 1 }, some (.striking rest))
  | .finishing =>
    let number := s.counters.completed + 1
    ({ s with counters.completed := number },
      some (if su.isDue number then .due number else .leaving))
  | .due number =>
    (s, some (.reporting ⟨number, su.total, s.counters.removed, some t.job.resource⟩))
  | .reporting event => ({ s with events := s.events ++ [event] }, some .leaving)
  | .leaving => ({ s with slotsTaken := s.slotsTaken - 1 }, none)

/-- The state in which the task at a place has gone on to a phase, or has
ended. -/
def State.moveOn (s : State) (place : Nat) (t : Task) : Option Phase → State
  | some phase => { s with tasks := s.tasks.set place { t with phase := phase } }
  | none => { s with tasks := s.tasks.eraseIdx place }

/-- The step of the task at this place in the list of tasks. -/
def stepTask (su : Setup) (s : State) (place pick : Nat) : Option State :=
  match s.tasks[place]? with
  | none => none
  | some t => some ((t.step su s pick).1.moveOn place t (t.step su s pick).2)

/-! ## Steps of the dispatcher -/

/-- The step of the dispatcher.  It has none while all slots are taken and it
needs one, while it waits for tasks, and at the end. -/
def stepDispatcher (su : Setup) (s : State) : Option State :=
  match s.dispatcher with
  | .checking [] => some { s with dispatcher := .joining }
  | .checking (r :: rest) =>
    some { s with dispatcher := if s.cancelled then .joining else .acquiring r rest }
  | .acquiring r rest =>
    if s.slotsTaken < su.limit then
      some { s with slotsTaken := s.slotsTaken + 1, dispatcher := .admitted r rest }
    else none
  | .admitted r rest =>
    if s.cancelled then
      some { s with slotsTaken := s.slotsTaken - 1, dispatcher := .joining }
    else
      some { s with
        tasks := s.tasks ++ [⟨s.submitted, su.job r, .submitted⟩]
        submitted := s.submitted + 1
        dispatcher := .checking rest }
  | .joining => if s.tasks.isEmpty then some { s with dispatcher := .joined } else none
  | .joined => some { s with dispatcher := .closed s.cancelled }
  | .closed _ => none

/-! ## Runs -/

/-- Who takes a step. -/
inductive Action
  | dispatch
  | work (place pick : Nat)
  | cancel
deriving DecidableEq, Repr

/-- The state after an action, if the action is possible. -/
def step (su : Setup) (s : State) : Action → Option State
  | .dispatch => stepDispatcher su s
  | .work place pick => stepTask su s place pick
  | .cancel => if s.cancelled then none else some { s with cancelled := true }

/-- The state after some actions, if all of them are possible. -/
def follow (su : Setup) : State → List Action → Option State
  | s, [] => some s
  | s, a :: rest =>
    match step su s a with
    | some s => follow su s rest
    | none => none

end Scan
end Unreferenced
