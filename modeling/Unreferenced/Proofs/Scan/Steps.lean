import Unreferenced.Scan.Run

/-!
# Steps and runs of the scan machine

A step of a task moves that one task on and exchanges what it amounts to
(`tally_moveOn`).  A step of the dispatcher submits a task or leaves the tasks
alone (`stepDispatcher_cases`), and it touches neither counters nor candidates nor
events.  What every step keeps a run keeps (`follow_keeps`), and a run is never
longer than the work that remains (`length_add_remaining_le`).

Before all that, what a configuration settles of a scan (`Setup.Conforms`): the store
may list what it likes, and it may answer every load in its own way.
-/

namespace Unreferenced
namespace Scan

variable {su : Setup} {s after : State}

/-! ## What a configuration settles -/

/-- There is always a slot. -/
theorem one_le_effectiveConcurrency (processors : Nat) (config : Config) :
    1 ≤ config.effectiveConcurrency processors := by
  rw [Config.effectiveConcurrency]
  by_cases unlimited : config.concurrencyLimit = 0
  · rw [if_pos unlimited]
    exact Nat.le_max_right _ _
  · rw [if_neg unlimited]
    exact Nat.pos_of_ne_zero unlimited

/-- The setup of a scan with this configuration on a machine with this many
processors, whatever the store lists and whatever its loads answer. -/
structure Setup.Conforms (config : Config) (processors : Nat) (su : Setup) : Prop where
  target : su.target = config.target
  limit : su.limit = config.effectiveConcurrency processors
  interval : su.interval = max config.progressInterval 1

theorem Setup.Conforms.one_le_limit {config : Config} {processors : Nat}
    (h : su.Conforms config processors) : 1 ≤ su.limit := by
  rw [h.limit]
  exact one_le_effectiveConcurrency processors config

/-- A scan that starts conforms to its configuration. -/
theorem Setup.conforms_of_ofConfig {source : Source} {audio : Int32 → Option String}
    {processors : Nat} {config : Config} {compiler : Script.Compiler}
    (h : Setup.ofConfig source audio processors config compiler = .ok su) :
    su.Conforms config processors := by
  rw [Setup.ofConfig] at h
  cases valid : config.validate with
  | error e =>
    rw [valid] at h
    cases h
  | ok =>
    cases listings : config.scannable.mapM source.list with
    | error e =>
      rw [valid, listings] at h
      cases h
    | ok listings' =>
      cases targets : source.list config.target with
      | error e =>
        rw [valid, listings, targets] at h
        cases h
      | ok targets' =>
        rw [valid, listings, targets] at h
        cases h
        exact ⟨rfl, rfl, rfl⟩

/-! ## What a scan brings about -/

/-- What the tasks of a scan have brought about so far: the counters, the
candidates that are left and the events sent. -/
structure Effects where
  counters : Counters
  candidates : CandidateSet
  events : List Progress

/-- What the tasks have brought about in this state. -/
def State.effects (s : State) : Effects := ⟨s.counters, s.candidates, s.events⟩

/-- The number of the job whose task takes this action. -/
def State.worker? (s : State) : Action → Option Nat
  | .work place _ => s.tasks[place]?.map Task.number
  | _ => none

/-! ## Steps of a task -/

/-- Moving a task on changes the list of tasks only. -/
theorem State.moveOn_frame (s : State) (place : Nat) (t : Task) (phase? : Option Phase) :
    (s.moveOn place t phase?).effects = s.effects ∧
      (s.moveOn place t phase?).dispatcher = s.dispatcher ∧
      (s.moveOn place t phase?).cancelled = s.cancelled ∧
      (s.moveOn place t phase?).submitted = s.submitted ∧
      (s.moveOn place t phase?).slotsTaken = s.slotsTaken := by
  cases phase? <;> exact ⟨rfl, rfl, rfl, rfl, rfl⟩

theorem State.loads_moveOn (s : State) (place : Nat) (t : Task) (phase? : Option Phase) :
    (s.moveOn place t phase?).loads = s.loads := by
  cases phase? <;> rfl

/-- Moving a task on exchanges what it amounts to for what it amounts to
afterwards. -/
theorem tally_moveOn (f : Task → Nat) {place : Nat} {t : Task} (found : s.tasks[place]? = some t)
    (next? : Option Phase) :
    tally f (s.moveOn place t next?).tasks + f t =
      tally f s.tasks + next?.elim 0 fun phase => f { t with phase := phase } := by
  cases next? with
  | some phase => exact tally_set f found _
  | none => exact tally_eraseIdx f found

/-- The tasks afterwards are the task that moved, if it has not ended, and tasks
that were there before. -/
theorem mem_tasks_moveOn {place : Nat} {t u : Task} {next? : Option Phase}
    (h : u ∈ (s.moveOn place t next?).tasks) :
    (∃ phase, next? = some phase ∧ u = { t with phase := phase }) ∨ u ∈ s.tasks := by
  cases next? with
  | some phase =>
    rcases List.mem_or_eq_of_mem_set h with h | rfl
    · exact .inr h
    · exact .inl ⟨phase, rfl, rfl⟩
  | none => exact .inr (List.mem_of_mem_eraseIdx h)

/-- A task is still there afterwards, unless it is the one that moved. -/
theorem mem_tasks_moveOn_of_mem {place : Nat} {t u : Task} (found : s.tasks[place]? = some t)
    (h : u ∈ s.tasks) (next? : Option Phase) :
    u = t ∨ u ∈ (s.moveOn place t next?).tasks := by
  obtain ⟨other, at_other⟩ := List.mem_iff_getElem?.mp h
  by_cases same : place = other
  · rw [same, at_other] at found
    exact .inl (Option.some.inj found)
  · refine .inr ?_
    cases next? with
    | some phase =>
      refine List.mem_iff_getElem?.mpr ⟨other, ?_⟩
      show (s.tasks.set place _)[other]? = some u
      rw [List.getElem?_set_ne same]
      exact at_other
    | none => exact List.mem_eraseIdx_iff_getElem?.mpr ⟨other, Ne.symm same, at_other⟩

/-! ## Steps of the dispatcher -/

/-- The dispatcher brings nothing about itself.  It submits the task of the
resource it has admitted, when the token is not cancelled, or leaves the tasks
alone. -/
theorem stepDispatcher_cases (h : stepDispatcher su s = some after) :
    after.effects = s.effects ∧ after.cancelled = s.cancelled ∧
      (after.tasks = s.tasks ∧ after.submitted = s.submitted ∨
        ∃ r rest, s.dispatcher = .admitted r rest ∧ s.cancelled = false ∧
          after.tasks = s.tasks ++ [⟨s.submitted, su.job r, .submitted⟩] ∧
          after.submitted = s.submitted + 1) := by
  cases dispatches_of_stepDispatcher h with
  | submit place active => exact ⟨rfl, rfl, .inr ⟨_, _, place, active, rfl, rfl⟩⟩
  | _ => exact ⟨rfl, rfl, .inl ⟨rfl, rfl⟩⟩

/-- The dispatcher loads nothing itself. -/
theorem loads_stepDispatcher (h : stepDispatcher su s = some after) : after.loads = s.loads := by
  cases dispatches_of_stepDispatcher h <;> rfl

/-! ## Cancelling -/

theorem step_cancel_iff : step su s .cancel = some after ↔
    s.cancelled = false ∧ after = { s with cancelled := true } := by
  rw [step]
  cases s.cancelled <;> simp [eq_comm]

/-- Only the token itself becomes cancelled. -/
theorem cancelled_step {a : Action} (h : step su s a = some after) (other : a ≠ .cancel) :
    after.cancelled = s.cancelled := by
  cases a with
  | dispatch => exact (stepDispatcher_cases h).2.1
  | work place pick =>
    obtain ⟨t, mid, next?, -, moves, rfl⟩ := stepTask_cases h
    rw [(mid.moveOn_frame place t next?).2.2.1]
    exact moves.frame.2.1
  | cancel => exact absurd rfl other

/-! ## Runs -/

theorem follow_cons (a : Action) (rest : List Action) :
    follow su s (a :: rest) = (step su s a).bind fun after => follow su after rest := by
  rw [follow]
  cases step su s a <;> rfl

theorem follow_append (earlier later : List Action) :
    follow su s (earlier ++ later) = (follow su s earlier).bind fun mid => follow su mid later := by
  induction earlier generalizing s with
  | nil => rfl
  | cons a earlier ih =>
    rw [List.cons_append, follow_cons, follow_cons]
    cases step su s a with
    | none => rfl
    | some after => exact ih

/-- What every step keeps, every run keeps. -/
theorem follow_keeps {P : State → Prop}
    (keeps : ∀ {s after a}, P s → step su s a = some after → P after) {actions : List Action}
    (start : P s) (h : follow su s actions = some after) : P after := by
  induction actions generalizing s with
  | nil =>
    cases h
    exact start
  | cons a rest ih =>
    rw [follow_cons] at h
    obtain ⟨mid, first, h⟩ := Option.bind_eq_some_iff.mp h
    exact ih (keeps start first) h

/-- A run is not longer than the work that it takes up. -/
theorem length_add_remaining_le {actions : List Action} (h : follow su s actions = some after) :
    actions.length + remaining su after ≤ remaining su s := by
  induction actions generalizing s with
  | nil =>
    cases h
    simp
  | cons a rest ih =>
    rw [follow_cons] at h
    obtain ⟨mid, first, h⟩ := Option.bind_eq_some_iff.mp h
    have less := remaining_step first
    have others := ih h
    rw [List.length_cons]
    omega

/-- A run in which nobody cancels leaves the token as it was. -/
theorem cancelled_follow {actions : List Action} (h : follow su s actions = some after)
    (never : .cancel ∉ actions) : after.cancelled = s.cancelled := by
  induction actions generalizing s with
  | nil =>
    cases h
    rfl
  | cons a rest ih =>
    simp only [List.mem_cons, not_or] at never
    rw [follow_cons] at h
    obtain ⟨mid, first, h⟩ := Option.bind_eq_some_iff.mp h
    rw [ih h never.2, cancelled_step first (Ne.symm never.1)]

end Scan
end Unreferenced
