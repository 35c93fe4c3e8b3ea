import Unreferenced.Proofs.Scan.Events

/-!
# Scans with one slot

With one slot there is never more than one task, because the next resource is admitted
only when the task before has ended.  So the jobs start and are completed in the order
of the resources, and what the scan has done so far is a function of how many jobs that
is: the loads are a prefix of the resources, the candidates struck off are those that
the first jobs find references to, and the events are `Setup.eventsUpTo`.

`OneSlot` has this for every state of a run, cancelled or not, also in the middle of a
job.
-/

namespace Unreferenced
namespace Scan

variable {su : Setup} {s mid after : State} {done : List Nat} {number : Nat} {job : Job}
  {phase : Phase} {next? : Option Phase}

/-! ## The scan as a sequence of jobs -/

namespace Setup

/-- The number of candidates to which one of the first jobs finds a reference. -/
def struckBy (su : Setup) (count : Nat) : Nat :=
  ((CandidateSet.seed su.target su.targets).members.members.filter fun c =>
    (List.range count).any (su.names c)).length

/-- The event of the job of this number, when the jobs are completed in order. -/
def eventAt (su : Setup) (number : Nat) : Progress :=
  ⟨number + 1, su.total, su.struckBy (number + 1), su.resources[number]?⟩

/-- The events that are due when so many jobs are completed in order. -/
def eventsUpTo (su : Setup) (count : Nat) : List Progress :=
  ((List.range count).filter fun number => su.isDue (number + 1)).map su.eventAt

theorem eventsUpTo_succ (su : Setup) (count : Nat) :
    su.eventsUpTo (count + 1) =
      su.eventsUpTo count ++ if su.isDue (count + 1) then [su.eventAt count] else [] := by
  rw [eventsUpTo, List.range_succ, List.filter_append, List.map_append, eventsUpTo]
  cases due : su.isDue (count + 1) <;> simp [due]

end Setup

/-! ## What the first jobs have struck off -/

/-- If the first jobs are completed and no other task has booked anything, the count of
candidates struck off is theirs. -/
theorem Ledger.removed_eq_struckBy (h : Ledger su done s)
    (order : done = List.range done.length)
    (quiet : ∀ t ∈ s.tasks, t.phase.isReporting = true) :
    s.counters.removed = su.struckBy done.length := by
  have nothing (a : Account) (silent : ∀ number phase, Phase.isReporting phase = true →
      a.booked number phase = 0) :
      tally (fun t => a.booked t.number t.phase) s.tasks = 0 :=
    (tally_eq_zero_iff _ _).mpr fun t member => silent t.number t.phase (quiet t member)
  -- The candidates left are those of the start that no completed job names.
  have left : s.candidates.members.members.Perm
      ((CandidateSet.seed su.target su.targets).members.members.filter fun c =>
        !(List.range done.length).any (su.names c)) := by
    refine (List.perm_ext_iff_of_nodup ?_ ?_).mpr ?_
    · exact s.candidates.members.nodup
    · exact List.Nodup.filter _ (CandidateSet.seed su.target su.targets).members.nodup
    · intro c
      rw [h.candidates c, Account.total, nothing, Nat.add_zero, tally_eq_zero_iff,
        List.mem_filter, ← order]
      · simp [Account.struckOff, Bool.toNat_eq_zero]
      · intro number phase reporting
        cases phase <;> first | rfl | cases reporting
  have counted := h.removed
  have none_left : Account.uncounted.total done s.tasks = 0 := by
    rw [Account.total, nothing, Nat.add_zero]
    · exact (tally_eq_zero_iff _ _).mpr fun _ _ => rfl
    · intro number phase reporting
      cases phase <;> first | rfl | cases reporting
  have size : s.candidates.size = _ := left.length_eq
  have parts := List.length_eq_length_filter_add
    (l := (CandidateSet.seed su.target su.targets).members.members)
    fun c => (List.range done.length).any (su.names c)
  rw [CandidateSet.size, IdentitySet.size] at size
  rw [none_left, CandidateSet.size, IdentitySet.size, CandidateSet.size, IdentitySet.size] at counted
  rw [Setup.struckBy]
  omega

/-! ## Where a job is -/

/-- Whether a task at this phase has not started its load yet. -/
def Phase.isUnstarted : Phase → Bool
  | .submitted | .cleared => true
  | _ => false

/-- What a task at this phase says of the loads and completions so far, when it is the
only one. -/
def Phase.Placed (su : Setup) (s : State) (number : Nat) : Phase → Prop
  | .submitted | .cleared => s.loads.length = number ∧ s.counters.completed = number
  | .due k => k = number + 1 ∧ s.counters.completed = number + 1
  | .reporting event => event = su.eventAt number ∧ s.counters.completed = number + 1
  | .leaving => True
  | _ => s.counters.completed = number

/-- Nothing but the loads and the counters matters for this. -/
theorem Phase.Placed.congr (h : phase.Placed su s number) (loads : after.loads = s.loads)
    (counters : after.counters = s.counters) : phase.Placed su after number := by
  cases phase with
  | leaving => trivial
  | _ => simpa only [Phase.Placed, loads, counters] using h

/-- The events that a task has taken a number for and not sent yet. -/
def Task.unsent (su : Setup) (t : Task) : List Progress :=
  if t.phase.isReporting then [su.eventAt t.number] else []

/-- The only task comes from one place to the next.  When it makes its event, the
candidates struck off are those of the jobs completed. -/
theorem Moves.placed {next : Phase} (moves : Moves su s number job phase mid (some next))
    (resource : su.resources[number]? = some job.resource)
    (struck : phase.isReporting = true → s.counters.removed = su.struckBy s.counters.completed)
    (placed : phase.Placed su s number) : next.Placed su mid number := by
  cases moves with
  | turnAway | dropContent | dropFound | finish | send => trivial
  | clear => exact placed
  | start => exact placed.2
  | finishDue =>
    have completed : s.counters.completed = number := placed
    exact ⟨congrArg Nat.succ completed, congrArg Nat.succ completed⟩
  | read =>
    obtain ⟨rfl, completed⟩ := placed
    refine ⟨?_, completed⟩
    rw [Setup.eventAt, ← resource, struck rfl, completed]
  | _ => exact placed

/-- Jobs are completed in order. -/
theorem Moves.closes_eq (moves : Moves su s number job phase mid next?)
    (placed : phase.Placed su s number) :
    List.range s.counters.completed ++ phase.closes number =
      List.range mid.counters.completed := by
  cases moves with
  | finishDue | finish =>
    have completed : s.counters.completed = number := placed
    simp only [Phase.closes, completed, List.range_succ]
  | _ => exact List.append_nil _

/-- Loads are started in order. -/
theorem Moves.loads_extend (moves : Moves su s number job phase mid next?)
    (resource : su.resources[number]? = some job.resource) (placed : phase.Placed su s number)
    (ordered : s.loads <+: su.resources) : mid.loads <+: su.resources := by
  cases moves with
  | start =>
    have length : s.loads.length = number := placed.1
    have loads := List.prefix_iff_eq_take.mp ordered
    rw [length] at loads
    show s.loads ++ [job.resource] <+: su.resources
    rw [loads, ← Option.toList_some, ← resource, ← List.take_add_one]
    exact List.take_prefix _ _
  | _ => exact ordered

/-- Unless the token is cancelled, a task that has not started its load starts it. -/
theorem Moves.unstarted (moves : Moves su s number job phase mid next?)
    (active : s.cancelled = false) :
    mid.loads.length + next?.elim 0 (fun next => next.isUnstarted.toNat) =
      s.loads.length + phase.isUnstarted.toNat := by
  cases moves with
  | turnAway cancelled =>
    rw [active] at cancelled
    cases cancelled
  | start => exact List.length_append
  | _ => rfl

/-- Events are sent in order. -/
theorem Moves.reported (moves : Moves su s number job phase mid next?)
    (placed : phase.Placed su s number)
    (reported : s.events ++ Task.unsent su ⟨number, job, phase⟩ =
      su.eventsUpTo s.counters.completed) :
    mid.events ++ next?.elim [] (fun next => Task.unsent su ⟨number, job, next⟩) =
      su.eventsUpTo mid.counters.completed := by
  cases moves with
  | finishDue due =>
    have completed : s.counters.completed = number := placed
    rw [Setup.eventsUpTo_succ, if_pos due, ← reported]
    simp [Task.unsent, Phase.isReporting, completed]
  | finish notDue =>
    rw [Setup.eventsUpTo_succ, notDue, ← reported]
    simp [Task.unsent, Phase.isReporting]
  | send =>
    obtain ⟨rfl, -⟩ := placed
    rw [← reported]
    simp [Task.unsent, Phase.isReporting]
  | _ => exact reported

/-! ## Runs with one slot -/

/-- What a scan with one slot has done so far.  There is at most one task, that of the
job submitted last. -/
structure OneSlot (su : Setup) (done : List Nat) (s : State) : Prop where
  order : done = List.range s.counters.completed
  latest : ∀ t ∈ s.tasks, t.number + 1 = s.submitted
  placed : ∀ t ∈ s.tasks, t.phase.Placed su s t.number
  loads : s.loads <+: su.resources
  started : s.cancelled = false →
    s.loads.length + tally (fun t => t.phase.isUnstarted.toNat) s.tasks = s.submitted
  reported : s.events ++ s.tasks.flatMap (Task.unsent su) = su.eventsUpTo s.counters.completed

theorem OneSlot.initial (su : Setup) (cancelled : Bool) :
    OneSlot su [] (State.initial su cancelled) where
  order := rfl
  latest := by rintro t ⟨⟩
  placed := by rintro t ⟨⟩
  loads := List.nil_prefix
  started _ := rfl
  reported := rfl

/-- A task that holds the only slot is the only task. -/
theorem Admission.tasks_eq (h : Admission su s) (single : su.limit = 1) {place : Nat} {t : Task}
    (found : s.tasks[place]? = some t) : s.tasks = [t] ∧ place = 0 := by
  have few := h.length_tasks_le
  rw [single] at few
  cases tasks : s.tasks with
  | nil =>
    rw [tasks] at found
    cases found
  | cons u rest =>
    rw [tasks, List.length_cons] at few
    obtain rfl : rest = [] := List.eq_nil_of_length_eq_zero (by omega)
    rw [tasks] at found
    cases place with
    | zero =>
      cases found
      exact ⟨rfl, rfl⟩
    | succ place => cases found

/-- Unless the token is cancelled, every job submitted is completed when no task is
left. -/
theorem Ledger.completed_eq (h : Ledger su done s) (ended : s.tasks = [])
    (active : s.cancelled = false) : s.counters.completed = s.submitted := by
  have same : done.toFinset = Finset.range s.submitted := by
    ext n
    rw [List.mem_toFinset, Finset.mem_range]
    exact ⟨h.lt_of_mem, h.mem_of_lt ended active⟩
  have card := congrArg Finset.card same
  rwa [List.toFinset_card_of_nodup h.nodup, Finset.card_range, h.length_eq] at card

/-- The state of things is seen in the effects, the loads and the tasks, and cancelling
the token does not change it. -/
theorem OneSlot.congr (h : OneSlot su done s) (effects : after.effects = s.effects)
    (loads : after.loads = s.loads) (tasks : after.tasks = s.tasks)
    (submitted : after.submitted = s.submitted)
    (cancelled : after.cancelled = false → s.cancelled = false) : OneSlot su done after := by
  have counters : after.counters = s.counters := congrArg Effects.counters effects
  have events : after.events = s.events := congrArg Effects.events effects
  constructor
  case order => rw [counters]; exact h.order
  case latest => rw [tasks, submitted]; exact h.latest
  case placed =>
    rw [tasks]
    exact fun t member => (h.placed t member).congr loads counters
  case loads => rw [loads]; exact h.loads
  case started => rw [loads, tasks, submitted]; exact fun active => h.started (cancelled active)
  case reported => rw [events, tasks, counters]; exact h.reported

/-- The next job is submitted when all jobs before are completed. -/
theorem OneSlot.submit {job : Job} (h : OneSlot su done s) (books : Ledger su done s)
    (ended : s.tasks = []) (active : s.cancelled = false) (effects : after.effects = s.effects)
    (loads : after.loads = s.loads)
    (tasks : after.tasks = s.tasks ++ [⟨s.submitted, job, .submitted⟩])
    (submitted : after.submitted = s.submitted + 1) : OneSlot su done after := by
  have counters : after.counters = s.counters := congrArg Effects.counters effects
  have events : after.events = s.events := congrArg Effects.events effects
  have started : s.loads.length = s.submitted := by
    have started := h.started active
    rw [ended] at started
    exact started
  rw [ended, List.nil_append] at tasks
  have eq_new {t : Task} (member : t ∈ after.tasks) : t = ⟨s.submitted, job, .submitted⟩ := by
    rw [tasks] at member
    exact List.mem_singleton.mp member
  constructor
  case order => rw [counters]; exact h.order
  case latest =>
    intro t member
    rw [eq_new member, submitted]
  case placed =>
    intro t member
    rw [eq_new member]
    show after.loads.length = s.submitted ∧ after.counters.completed = s.submitted
    rw [loads, counters]
    exact ⟨started, books.completed_eq ended active⟩
  case loads => rw [loads]; exact h.loads
  case started =>
    intro _
    rw [loads, tasks, submitted, started]
    rfl
  case reported =>
    have reported := h.reported
    rw [ended] at reported
    rw [events, tasks, counters]
    exact reported

theorem OneSlot.stepDispatcher (h : OneSlot su done s) (single : su.limit = 1)
    (books : Ledger su done s) (admission : Admission su s)
    (taken : stepDispatcher su s = some after) : OneSlot su done after := by
  have loads := loads_stepDispatcher taken
  obtain ⟨effects, cancelled, ⟨tasks, submitted⟩ | ⟨r, rest, admitted, active, tasks, submitted⟩⟩ :=
    stepDispatcher_cases taken
  · exact h.congr effects loads tasks submitted fun active => cancelled.symm.trans active
  · -- The dispatcher holds the only slot itself.
    have ended : s.tasks = [] := by
      have slots := admission.slots
      have bounded := admission.bounded
      rw [admitted] at slots
      refine List.eq_nil_of_length_eq_zero ?_
      simp only [Dispatcher.held] at slots
      omega
    exact h.submit books ended active effects loads tasks submitted

/-- The only task moves on. -/
theorem OneSlot.moveOn {place : Nat} {t : Task} (h : OneSlot su done s) (single : su.limit = 1)
    (books : Ledger su done s) (admission : Admission su s) (found : s.tasks[place]? = some t)
    (moves : Moves su s t.number t.job t.phase mid next?) :
    OneSlot su (done ++ t.phase.closes t.number) (mid.moveOn place t next?) := by
  obtain ⟨only, rfl⟩ := admission.tasks_eq single found
  have member : t ∈ s.tasks := List.mem_of_getElem? found
  have resource := (books.known t member).resource
  have placed := h.placed t member
  obtain ⟨-, cancelled, submitted, tasks⟩ := moves.frame
  obtain ⟨effects, -, cancelled', submitted', -⟩ := mid.moveOn_frame 0 t next?
  have counters : (mid.moveOn 0 t next?).counters = mid.counters :=
    congrArg Effects.counters effects
  have events : (mid.moveOn 0 t next?).events = mid.events := congrArg Effects.events effects
  have loads := mid.loads_moveOn 0 t next?
  have moved : (mid.moveOn 0 t next?).tasks =
      next?.elim [] fun next => [{ t with phase := next }] := by
    rw [only] at tasks
    cases next? <;> simp [State.moveOn, tasks]
  constructor
  case order =>
    rw [counters, ← moves.closes_eq placed, ← h.order]
  case latest =>
    intro u hu
    rw [moved] at hu
    rw [submitted', submitted, ← h.latest t member]
    cases next? with
    | none => cases hu
    | some next => rw [List.mem_singleton.mp hu]
  case placed =>
    intro u hu
    rw [moved] at hu
    cases next? with
    | none => cases hu
    | some next =>
      rw [List.mem_singleton.mp hu]
      -- A task that makes its event has struck off all that it is going to.
      have struck : t.phase.isReporting = true →
          s.counters.removed = su.struckBy s.counters.completed := by
        intro reporting
        rw [← books.length_eq]
        refine books.removed_eq_struckBy ?_ ?_
        · rw [books.length_eq]
          exact h.order
        · intro u hu
          rw [only] at hu
          rw [List.mem_singleton.mp hu]
          exact reporting
      exact (moves.placed resource struck placed).congr loads counters
  case loads =>
    rw [loads]
    exact moves.loads_extend resource placed h.loads
  case started =>
    intro active
    have stillActive : s.cancelled = false := by rw [← cancelled, ← cancelled', active]
    have started := h.started stillActive
    have own := moves.unstarted stillActive
    rw [only, tally, tally, Nat.add_zero] at started
    rw [moved, loads, submitted', submitted, ← started, ← own]
    cases next? <;> rfl
  case reported =>
    have reported := h.reported
    rw [only, List.flatMap_singleton] at reported
    rw [moved, events, counters, ← moves.reported placed reported]
    cases next? <;> simp

theorem OneSlot.step {a : Action} (h : OneSlot su done s) (single : su.limit = 1)
    (books : Ledger su done s) (admission : Admission su s) (taken : step su s a = some after) :
    OneSlot su (done ++ s.closes a) after := by
  cases a with
  | dispatch =>
    show OneSlot su (done ++ []) after
    rw [List.append_nil]
    exact h.stepDispatcher single books admission taken
  | work place pick =>
    obtain ⟨t, mid, next?, found, moves, rfl⟩ := stepTask_cases taken
    rw [State.closes, found]
    exact h.moveOn single books admission found moves
  | cancel =>
    obtain ⟨active, rfl⟩ := step_cancel_iff.mp taken
    show OneSlot su (done ++ []) _
    rw [List.append_nil]
    exact h.congr rfl rfl rfl rfl fun _ => active

theorem OneSlot.follow {actions : List Action} (h : OneSlot su done s) (single : su.limit = 1)
    (books : Ledger su done s) (admission : Admission su s)
    (run : follow su s actions = some after) :
    OneSlot su (done ++ completions su s actions) after :=
  (follow_keeps_completions
    (P := fun done s => OneSlot su done s ∧ Ledger su done s ∧ Admission su s)
    (fun ⟨h, books, admission⟩ taken => ⟨h.step single books admission taken,
      books.step admission taken, admission.step taken⟩) ⟨h, books, admission⟩ run).1

/-- What a scan with one slot has done after a run. -/
theorem OneSlot.of_follow {cancelled : Bool} {actions : List Action} (single : su.limit = 1)
    (run : Scan.follow su (State.initial su cancelled) actions = some s) :
    OneSlot su (completions su (State.initial su cancelled) actions) s :=
  (OneSlot.initial su cancelled).follow single (Ledger.initial su cancelled)
    (Admission.initial su cancelled) run

/-! ## When no task is left -/

/-- The events sent are those of the jobs completed. -/
theorem OneSlot.events_eq (h : OneSlot su done s) (ended : s.tasks = []) :
    s.events = su.eventsUpTo s.counters.completed := by
  have reported := h.reported
  rwa [ended, List.flatMap_nil, List.append_nil] at reported

/-- The candidates left are those to which no job completed finds a reference. -/
theorem OneSlot.mem_candidates_iff (h : OneSlot su done s) (books : Ledger su done s)
    (ended : s.tasks = []) (c : Identity) :
    c ∈ s.candidates.members.members ↔
      c ∈ (CandidateSet.seed su.target su.targets).members.members ∧
        ∀ number < s.counters.completed, ∀ found, su.found? number = some found →
          found.references.contains c = false := by
  rw [books.candidates c, Ledger.total_of_ended _ ended, tally_eq_zero_iff, h.order]
  simp only [Account.struckOff, Setup.names_eq_zero_iff, List.mem_range]

end Scan
end Unreferenced
