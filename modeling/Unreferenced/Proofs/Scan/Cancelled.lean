import Unreferenced.Proofs.Scan.Account
import Unreferenced.Proofs.Scan.Gate

/-!
# Scans that are cancelled

Once the token is cancelled no task passes a check any more.  A task that starts its
load afterwards had passed its entry check before, and a task that strikes a candidate
off had passed its last one; so what can still happen is settled by the tasks of that
moment (`inherited_follow`), and each of them starts at most one load
(`loads_follow`).

The dispatcher submits nothing once it has noticed, waits for the tasks, and its last
look finds the token cancelled; `cancelled_scan_winds_down` has all of this for a token
that is cancelled at any moment before that look.
-/

namespace Unreferenced
namespace Scan

variable {su : Setup} {s mid after : State} {number : Nat} {job : Job} {phase : Phase}
  {next? : Option Phase}

/-! ## Checks that are passed -/

/-- Whether a task at this phase has passed its entry check and starts its load next. -/
def Phase.isCleared : Phase → Bool
  | .cleared => true
  | _ => false

/-- Whether a task at this phase has passed its last check and may strike off. -/
def Phase.hasPassed : Phase → Bool
  | .passed _ | .counted _ | .striking _ | .struck _ => true
  | _ => false

/-- No task passes its entry check while the token is cancelled. -/
theorem Moves.isCleared {next : Phase} (moves : Moves su s number job phase mid (some next))
    (cancelled : s.cancelled = true) (cleared : next.isCleared = true) :
    phase.isCleared = true := by
  cases moves with
  | clear active =>
    rw [cancelled] at active
    cases active
  | _ => cases cleared

/-- No task passes its last check while the token is cancelled. -/
theorem Moves.hasPassed {next : Phase} (moves : Moves su s number job phase mid (some next))
    (cancelled : s.cancelled = true) (passed : next.hasPassed = true) :
    phase.hasPassed = true := by
  cases moves with
  | pass active =>
    rw [cancelled] at active
    cases active
  | _ => first | rfl | cases passed

/-! ## The token stays cancelled -/

theorem cancelled_of_step {a : Action} (taken : step su s a = some after)
    (cancelled : s.cancelled = true) : after.cancelled = true := by
  by_cases again : a = .cancel
  · subst again
    obtain ⟨-, rfl⟩ := step_cancel_iff.mp taken
    rfl
  · rw [cancelled_step taken again, cancelled]

theorem cancelled_of_follow {actions : List Action} (cancelled : s.cancelled = true)
    (run : follow su s actions = some after) : after.cancelled = true :=
  follow_keeps (fun h taken => cancelled_of_step taken h) cancelled run

/-- What the dispatcher and the tasks keep while the token is cancelled, every run keeps
after the cancellation. -/
theorem follow_keeps_of_cancelled {P : State → Prop}
    (dispatch : ∀ {s after}, s.cancelled = true → P s → stepDispatcher su s = some after →
      P after)
    (work : ∀ {s after place pick}, s.cancelled = true → P s →
      stepTask su s place pick = some after → P after)
    {actions : List Action} (cancelled : s.cancelled = true) (start : P s)
    (run : follow su s actions = some after) : P after := by
  refine (follow_keeps (P := fun s => s.cancelled = true ∧ P s) ?_ ⟨cancelled, start⟩ run).2
  rintro x y a ⟨stopped, holds⟩ taken
  refine ⟨cancelled_of_step taken stopped, ?_⟩
  cases a with
  | dispatch => exact dispatch stopped holds taken
  | work place pick => exact work stopped holds taken
  | cancel =>
    rw [(step_cancel_iff.mp taken).1] at stopped
    cases stopped

/-- While the token is cancelled the dispatcher submits nothing. -/
theorem tasks_stepDispatcher (taken : stepDispatcher su s = some after)
    (cancelled : s.cancelled = true) : after.tasks = s.tasks ∧ after.submitted = s.submitted := by
  obtain ⟨-, -, unchanged | ⟨r, rest, -, active, -⟩⟩ := stepDispatcher_cases taken
  · exact unchanged
  · rw [cancelled] at active
    cases active

/-- If tasks come to a phase of some sort only from phases of that sort, then those that
are at one after the cancellation were at one before. -/
theorem inherited_follow {P : Phase → Bool}
    (backward : ∀ {s mid : State} {number : Nat} {job : Job} {phase next : Phase},
      Moves su s number job phase mid (some next) → s.cancelled = true → P next = true →
        P phase = true)
    {actions : List Action} (cancelled : s.cancelled = true)
    (run : follow su s actions = some after) :
    ∀ t ∈ after.tasks, P t.phase = true →
      ∃ u ∈ s.tasks, u.number = t.number ∧ P u.phase = true := by
  refine follow_keeps_of_cancelled (P := fun x => ∀ t ∈ x.tasks, P t.phase = true →
    ∃ u ∈ s.tasks, u.number = t.number ∧ P u.phase = true) ?_ ?_ cancelled
    (fun t member at_sort => ⟨t, member, rfl, at_sort⟩) run
  · intro x y stopped earlier taken
    rw [(tasks_stepDispatcher taken stopped).1]
    exact earlier
  · intro x y place pick stopped earlier taken
    obtain ⟨t, mid, next?, found, moves, rfl⟩ := stepTask_cases taken
    intro u member at_sort
    rcases mem_tasks_moveOn member with ⟨phase, rfl, rfl⟩ | before
    · exact earlier t (List.mem_of_getElem? found) (backward moves stopped at_sort)
    · rw [moves.frame.2.2.2] at before
      exact earlier u before at_sort

/-! ## Loads -/

/-- A load is started by a task that has passed its entry check, and by no other step. -/
theorem Moves.loads (moves : Moves su s number job phase mid next?) :
    mid.loads = s.loads ∨
      phase = .cleared ∧ next? = some .loading ∧ mid.loads = s.loads ++ [job.resource] := by
  cases moves with
  | start => exact .inr ⟨rfl, rfl, rfl⟩
  | _ => exact .inl rfl

theorem loads_step {a : Action} (taken : step su s a = some after) :
    after.loads = s.loads ∨ ∃ t ∈ s.tasks, t.phase.isCleared = true ∧
      s.worker? a = some t.number ∧ after.loads = s.loads ++ [t.job.resource] ∧
      ∃ u ∈ after.tasks, u.phase.isLoading = true := by
  cases a with
  | dispatch => exact .inl (loads_stepDispatcher taken)
  | work place pick =>
    obtain ⟨t, mid, next?, found, moves, rfl⟩ := stepTask_cases taken
    rw [mid.loads_moveOn]
    rcases moves.loads with same | ⟨cleared, rfl, started⟩
    · exact .inl same
    · refine .inr ⟨t, List.mem_of_getElem? found, ?_, ?_, started, { t with phase := .loading },
        ?_, rfl⟩
      · rw [cleared]
        rfl
      · rw [State.worker?, found]
        rfl
      · rw [← moves.frame.2.2.2] at found
        exact List.mem_set (List.getElem?_eq_some_iff.mp found).1 _
  | cancel =>
    obtain ⟨-, rfl⟩ := step_cancel_iff.mp taken
    exact .inl rfl

/-- No load that was started is forgotten. -/
theorem loads_extend {actions : List Action} (run : follow su s actions = some after) :
    s.loads <+: after.loads := by
  refine follow_keeps (P := fun x => s.loads <+: x.loads) ?_ (List.prefix_refl _) run
  intro x y a earlier taken
  rcases loads_step taken with same | ⟨t, -, -, -, started, -⟩
  · rw [same]
    exact earlier
  · rw [started]
    exact earlier.trans (List.prefix_append _ _)

/-- The number of tasks that start their load next. -/
def State.starting (s : State) : Nat := tally (fun t => t.phase.isCleared.toNat) s.tasks

theorem State.starting_le (s : State) : s.starting ≤ s.tasks.length := by
  rw [starting]
  induction s.tasks with
  | nil => exact Nat.le_refl _
  | cons t rest ih =>
    have one := Bool.toNat_le t.phase.isCleared
    rw [tally, List.length_cons]
    omega

/-- While the token is cancelled, a load is started by a task that was going to, and no
other task is going to. -/
theorem Moves.starting (moves : Moves su s number job phase mid next?)
    (cancelled : s.cancelled = true) :
    mid.loads.length + next?.elim 0 (fun next => next.isCleared.toNat) =
      s.loads.length + phase.isCleared.toNat := by
  cases moves with
  | clear active =>
    rw [cancelled] at active
    cases active
  | start => exact List.length_append
  | _ => rfl

/-- After the cancellation, just the tasks that were going to start their load do. -/
theorem loads_follow {actions : List Action} (cancelled : s.cancelled = true)
    (run : follow su s actions = some after) :
    after.loads.length + after.starting = s.loads.length + s.starting := by
  refine follow_keeps_of_cancelled (P := fun x =>
    x.loads.length + x.starting = s.loads.length + s.starting) ?_ ?_ cancelled rfl run
  · intro x y stopped earlier taken
    rw [State.starting, loads_stepDispatcher taken, (tasks_stepDispatcher taken stopped).1]
    exact earlier
  · intro x y place pick stopped earlier taken
    obtain ⟨t, mid, next?, found, moves, rfl⟩ := stepTask_cases taken
    have own := moves.starting stopped
    have tasks := moves.frame.2.2.2
    rw [← tasks] at found
    have exchanged := tally_moveOn (fun t => t.phase.isCleared.toNat) found next?
    simp only [tasks] at exchanged
    rw [State.starting] at earlier
    rw [State.starting, mid.loads_moveOn]
    omega

/-! ## Strikes -/

/-- A candidate is struck off by a task that has passed its last check, and by no other
step. -/
theorem candidates_step {a : Action} (taken : step su s a = some after) :
    after.candidates = s.candidates ∨ ∃ t ∈ s.tasks, t.phase.hasPassed = true ∧
      s.worker? a = some t.number := by
  cases a with
  | dispatch => exact .inl (congrArg Effects.candidates (stepDispatcher_cases taken).1)
  | work place pick =>
    obtain ⟨t, mid, next?, found, moves, rfl⟩ := stepTask_cases taken
    have candidates : (mid.moveOn place t next?).candidates = mid.candidates :=
      congrArg Effects.candidates (mid.moveOn_frame place t next?).1
    have worker : s.worker? (.work place pick) = some t.number := by
      rw [State.worker?, found]
      rfl
    rw [candidates]
    cases passed : t.phase.hasPassed with
    | true => exact .inr ⟨t, List.mem_of_getElem? found, passed, worker⟩
    | false =>
      refine .inl ?_
      obtain ⟨_, _, phase⟩ := t
      cases moves <;> first | rfl | cases passed
  | cancel =>
    obtain ⟨-, rfl⟩ := step_cancel_iff.mp taken
    exact .inl rfl

/-! ## The end of a cancelled scan -/

/-- Only the last look of the dispatcher closes a scan, and it closes it as it finds the
token. -/
theorem stepDispatcher_closed {b : Bool} (taken : stepDispatcher su s = some after)
    (closed : after.dispatcher = .closed b) : b = s.cancelled := by
  cases dispatches_of_stepDispatcher taken with
  | close place =>
    cases closed
    rfl
  | _ => cases closed

/-- A scan that is cancelled before the last look does not complete. -/
theorem not_completed_of_cancelled {actions : List Action} (cancelled : s.cancelled = true)
    (early : s.dispatcher.isClosed = false) (run : follow su s actions = some after) :
    after.dispatcher ≠ .closed false := by
  refine follow_keeps_of_cancelled (P := fun x => x.dispatcher ≠ .closed false) ?_ ?_ cancelled
    ?_ run
  · intro x y stopped _ taken closed
    rw [← stepDispatcher_closed taken closed] at stopped
    cases stopped
  · intro x y place pick _ earlier taken
    obtain ⟨t, mid, next?, -, moves, rfl⟩ := stepTask_cases taken
    rw [(mid.moveOn_frame place t next?).2.1, moves.frame.1]
    exact earlier
  · intro closed
    rw [closed] at early
    cases early

/-- A scan that has not completed has no result. -/
theorem outcome_of_not_completed (h : s.dispatcher ≠ .closed false) :
    s.outcome su = .cancelled := by
  rw [State.outcome]
  split
  · rename_i completed
    exact absurd completed h
  · rfl

/-! ## Winding down -/

/-- The run takes this action in one state and comes to the other one. -/
def StepOf (su : Setup) (start : State) (actions : List Action) (x : State) (a : Action)
    (y : State) : Prop :=
  ∃ earlier later, actions = earlier ++ a :: later ∧ follow su start earlier = some x ∧
    step su x a = some y

/-- What comes after a step of a run. -/
theorem StepOf.rest {start x y : State} {actions : List Action} {a : Action}
    (h : StepOf su start actions x a y) (run : follow su start actions = some s) :
    ∃ later, follow su y later = some s := by
  obtain ⟨earlier, later, rfl, first, taken⟩ := h
  rw [follow_append, first, Option.bind_some, follow_cons, taken] at run
  exact ⟨later, run⟩

/-- Whether the dispatcher looks at the token by its next step. -/
def Dispatcher.looks : Dispatcher → Bool
  | .checking (_ :: _) | .admitted _ _ | .joined => true
  | _ => false

/-- Whether the dispatcher finds the token cancelled by this action. -/
def State.notices (s : State) : Action → Bool
  | .dispatch => s.cancelled && s.dispatcher.looks
  | _ => false

/-- What happens in a run from a state in which the token is cancelled. -/
structure WindingDown (su : Setup) (limit : Nat) (start : State) (actions : List Action)
    (s : State) : Prop where
  /-- No more further loads start than there are slots. -/
  loads : start.loads <+: s.loads ∧ s.loads.length ≤ start.loads.length + limit
  /-- A load is started only by a job that had passed its entry check. -/
  starts : ∀ x a y, StepOf su start actions x a y → y.loads ≠ x.loads →
    ∃ t ∈ start.tasks, t.phase.isCleared = true ∧ x.worker? a = some t.number
  /-- A candidate is struck off only by a job that had passed its last check. -/
  strikes : ∀ x a y, StepOf su start actions x a y → y.candidates ≠ x.candidates →
    ∃ t ∈ start.tasks, t.phase.hasPassed = true ∧ x.worker? a = some t.number
  /-- No job is submitted after the dispatcher has noticed. -/
  submissions : ∀ x a y, StepOf su start actions x a y → x.notices a = true →
    s.submitted = x.submitted

/-- Every run from a state in which the token is cancelled winds down. -/
theorem windingDown_of_follow (admission : Admission su s) (cancelled : s.cancelled = true)
    {actions : List Action} (run : follow su s actions = some after) :
    WindingDown su su.limit s actions after where
  loads := by
    refine ⟨loads_extend run, ?_⟩
    have kept := loads_follow cancelled run
    have few := Nat.le_trans s.starting_le admission.length_tasks_le
    omega
  starts := by
    rintro x a y ⟨earlier, later, rfl, first, taken⟩ started
    obtain same | ⟨t, member, cleared, worker, -⟩ := loads_step taken
    · exact absurd same started
    · obtain ⟨u, member, number, cleared⟩ :=
        inherited_follow Moves.isCleared cancelled first t member cleared
      exact ⟨u, member, cleared, by rw [worker, number]⟩
  strikes := by
    rintro x a y ⟨earlier, later, rfl, first, taken⟩ struck
    obtain same | ⟨t, member, passed, worker⟩ := candidates_step taken
    · exact absurd same struck
    · obtain ⟨u, member, number, passed⟩ :=
        inherited_follow Moves.hasPassed cancelled first t member passed
      exact ⟨u, member, passed, by rw [worker, number]⟩
  submissions := by
    intro x a y h noticed
    cases a with
    | dispatch =>
      obtain ⟨later, rest⟩ := h.rest run
      obtain ⟨-, -, -, -, taken⟩ := h
      rw [State.notices, Bool.and_eq_true] at noticed
      have stopped := cancelled_of_step taken noticed.1
      refine follow_keeps_of_cancelled (P := fun z => z.submitted = x.submitted) ?_ ?_ stopped
        (tasks_stepDispatcher taken noticed.1).2 rest
      · intro z z' cancelled earlier taken
        rw [(tasks_stepDispatcher taken cancelled).2, earlier]
      · intro z z' place pick _ earlier taken
        obtain ⟨t, mid, next?, -, moves, rfl⟩ := stepTask_cases taken
        rw [(mid.moveOn_frame place t next?).2.2.2.1, moves.frame.2.2.1, earlier]
    | _ => cases noticed

/-- **A cancelled scan winds down.**  Let the token be cancelled at any moment before the
last look of the dispatcher, under any order of the steps.  From then on at most as many
loads start as there are slots, only by jobs that had passed their entry check;
candidates are struck off only by jobs that had passed their last check; and nothing is
submitted after the dispatcher has noticed.  The scan comes to its end, and then it is
cancelled and has no result, no job is live and all permits are dropped. -/
theorem cancelled_scan_winds_down {config : Config} {processors : Nat} {su : Setup}
    (conforms : su.Conforms config processors) {before : Bool} {earlier later : List Action}
    {mid s : State} (first : follow su (State.initial su before) earlier = some mid)
    (cancelled : mid.cancelled = true) (early : mid.dispatcher.isClosed = false)
    (run : follow su mid later = some s) :
    WindingDown su (config.effectiveConcurrency processors) mid later s ∧
      later.length ≤ remaining su mid ∧
      (s.dispatcher.isClosed = false → ∃ a, a ≠ .cancel ∧ (step su s a).isSome = true) ∧
      (s.dispatcher.isClosed = true →
        s.outcome su = .cancelled ∧ s.tasks = [] ∧ s.slotsTaken = 0 ∧ s.permits = 0) := by
  have admission := Admission.follow first
  have whole : follow su (State.initial su before) (earlier ++ later) = some s := by
    rw [follow_append, first]
    exact run
  have ended := Admission.follow whole
  refine ⟨?_, ?_, ?_, ?_⟩
  · rw [← conforms.limit]
    exact windingDown_of_follow admission cancelled run
  · have finite := length_add_remaining_le run
    omega
  · intro running
    exact ⟨choose .never s, choose_never_ne_cancel s,
      step_choose_isSome ended conforms.one_le_limit running⟩
  · intro closed
    obtain ⟨slots, permits, tasks⟩ :=
      (ended.gated conforms.one_le_limit).released (Dispatcher.isJoined_of_isClosed closed)
    exact ⟨outcome_of_not_completed (not_completed_of_cancelled cancelled early run), tasks,
      slots, permits⟩

/-- Three resources for two slots, all of which refer to one candidate. -/
def Setup.crowd : Setup where
  load _ _ := .ok (.structured ⟨[.resourceRef ⟨"WAV"⟩ "one"]⟩)
  audio _ := none
  target := ⟨"WAV"⟩
  resources := [⟨"first", ⟨"CRE"⟩⟩, ⟨"second", ⟨"CRE"⟩⟩, ⟨"third", ⟨"CRE"⟩⟩]
  targets := [⟨"One", ⟨"WAV"⟩⟩]
  limit := 2
  interval := 1

/-- The first job has passed its last check and the second one its entry check when the
token is cancelled; the dispatcher waits for a slot. -/
def crowdRun : List Action :=
  List.replicate 7 .dispatch ++ List.replicate 5 (.work 0 0) ++ [.work 1 0, .cancel]

/-- The second job still starts its load, but gives up; the first one strikes the
candidate off; the dispatcher takes a slot and breaks off. -/
def crowdRest : List Action :=
  List.replicate 4 (.work 1 0) ++ List.replicate 2 .dispatch ++ List.replicate 9 (.work 0 0) ++
    List.replicate 2 .dispatch

/-- One more load starts and the candidate is struck off after the cancellation. -/
theorem cancelled_scan_winds_down_crowd : ∃ mid s,
    Setup.crowd.Conforms ⟨⟨"WAV"⟩, [⟨"CRE"⟩], 2, 1, false⟩ 4 ∧
      follow Setup.crowd (State.initial Setup.crowd false) crowdRun = some mid ∧
      mid.cancelled = true ∧ mid.dispatcher.isClosed = false ∧
      follow Setup.crowd mid crowdRest = some s ∧ s.dispatcher.isClosed = true ∧
      [mid.loads.length, s.loads.length, mid.candidates.size, s.candidates.size] = [1, 2, 1, 0] ∧
      WindingDown Setup.crowd 2 mid crowdRest s ∧ s.outcome Setup.crowd = .cancelled := by
  have conforms : Setup.crowd.Conforms ⟨⟨"WAV"⟩, [⟨"CRE"⟩], 2, 1, false⟩ 4 := ⟨rfl, rfl, rfl⟩
  have evaluated : ((follow Setup.crowd (State.initial Setup.crowd false) crowdRun).bind fun mid =>
      (follow Setup.crowd mid crowdRest).map fun s =>
        (mid.cancelled, mid.dispatcher.isClosed, s.dispatcher.isClosed,
          [mid.loads.length, s.loads.length, mid.candidates.size, s.candidates.size])) =
        some (true, false, true, [1, 2, 1, 0]) := by
    decide +kernel
  obtain ⟨mid, first, seen⟩ := Option.bind_eq_some_iff.mp evaluated
  obtain ⟨s, run, seen⟩ := Option.map_eq_some_iff.mp seen
  obtain ⟨cancelled, seen⟩ := Prod.mk.inj seen
  obtain ⟨early, seen⟩ := Prod.mk.inj seen
  obtain ⟨closed, counts⟩ := Prod.mk.inj seen
  obtain ⟨winding, -, -, ended⟩ := cancelled_scan_winds_down conforms first cancelled early run
  exact ⟨mid, s, conforms, first, cancelled, early, run, closed, counts, winding, (ended closed).1⟩

end Scan
end Unreferenced
