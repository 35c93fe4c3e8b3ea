import Unreferenced.Proofs.Scan.Account
import Unreferenced.Proofs.Scan.Admission

/-!
# The books of a scan

The `Ledger` of a state ties its counters and candidates to the jobs completed
so far and to what the tasks have booked beyond that.  A task books for its own
job only, so a step that balances one task balances the whole (`Ledger.step`),
and the books are balanced after every run (`Ledger.follow`).  A task that has
begun to count is bound to complete its job (`mem_completions_of_bound`).
-/

namespace Unreferenced
namespace Scan

variable {su : Setup} {s after : State} {done : List Nat}

/-! ## Completions of a run -/

/-- The number of the job that an action completes. -/
def State.closes (s : State) : Action → List Nat
  | .work place _ => s.tasks[place]?.elim [] fun t => t.phase.closes t.number
  | _ => []

/-- The numbers of the jobs that a run completes, in order. -/
def completions (su : Setup) : State → List Action → List Nat
  | _, [] => []
  | s, a :: rest => s.closes a ++ (step su s a).elim [] fun after => completions su after rest

theorem completions_cons {a : Action} (first : step su s a = some after) (rest : List Action) :
    completions su s (a :: rest) = s.closes a ++ completions su after rest := by
  rw [completions, first]
  rfl

theorem completions_append {earlier : List Action} (first : follow su s earlier = some after)
    (later : List Action) :
    completions su s (earlier ++ later) = completions su s earlier ++ completions su after later := by
  induction earlier generalizing s with
  | nil =>
    cases first
    rfl
  | cons a earlier ih =>
    rw [follow_cons] at first
    obtain ⟨mid, taken, first⟩ := Option.bind_eq_some_iff.mp first
    rw [List.cons_append, completions_cons taken, completions_cons taken, ih first,
      List.append_assoc]

/-- What every step keeps, given the jobs completed so far, every run keeps. -/
theorem follow_keeps_completions {P : List Nat → State → Prop}
    (keeps : ∀ {done s after a}, P done s → step su s a = some after →
      P (done ++ s.closes a) after)
    {actions : List Action} (start : P done s) (run : follow su s actions = some after) :
    P (done ++ completions su s actions) after := by
  induction actions generalizing s done with
  | nil =>
    cases run
    rw [completions, List.append_nil]
    exact start
  | cons a rest ih =>
    rw [follow_cons] at run
    obtain ⟨mid, taken, run⟩ := Option.bind_eq_some_iff.mp run
    rw [completions_cons taken, ← List.append_assoc]
    exact ih (keeps start taken) run

/-! ## Totals -/

namespace Account

/-- Moving a task on exchanges what it has booked for what it books afterwards. -/
theorem total_moveOn (a : Account) {place : Nat} {t : Task} (found : s.tasks[place]? = some t)
    (done : List Nat) (next? : Option Phase) :
    a.total (done ++ t.phase.closes t.number) (s.moveOn place t next?).tasks +
        a.booked t.number t.phase =
      a.total done s.tasks + a.after t.number t.phase next? := by
  have exchanged := tally_moveOn (fun t => a.booked t.number t.phase) found next?
  have same : (next?.elim 0 fun phase => a.booked t.number phase) =
      next?.elim 0 (a.booked t.number) := rfl
  simp only [same] at exchanged
  rw [total, total, Account.after, tally_append]
  omega

/-- A task that has just been submitted adds what it has booked. -/
theorem total_submit (a : Account) (done : List Nat) (tasks : List Task) (number : Nat)
    (job : Job) : a.total done (tasks ++ [⟨number, job, .submitted⟩]) =
      a.total done tasks + a.booked number .submitted := by
  rw [total, total, tally_append, tally, tally, Nat.add_zero, Nat.add_assoc]

end Account

/-! ## The ledger -/

/-- What the counters and the candidates are, in terms of the jobs completed and of
what the tasks have booked. -/
structure Ledger (su : Setup) (done : List Nat) (s : State) : Prop where
  known : ∀ t ∈ s.tasks, Known su t.number t.job t.phase
  reporting : ∀ t ∈ s.tasks, t.phase.isReporting = true → t.number ∈ done
  takenUp_le : ∀ n, (Account.takenUp n).total done s.tasks ≤ (decide (n < s.submitted)).toNat
  takenUp_eq : s.cancelled = false →
    ∀ n, (Account.takenUp n).total done s.tasks = (decide (n < s.submitted)).toNat
  completed : Account.completions.total done s.tasks = s.counters.completed
  loadFailures : (Account.loadFailures su).total done s.tasks = s.counters.loadFailures
  scriptFailures : (Account.scriptFailures su).total done s.tasks = s.counters.scriptFailures
  referencesFound : (Account.referencesFound su).total done s.tasks = s.counters.referencesFound
  candidates : ∀ c, c ∈ s.candidates.members.members ↔
    c ∈ (CandidateSet.seed su.target su.targets).members.members ∧
      (Account.struckOff su c).total done s.tasks = 0
  removed : Account.uncounted.total done s.tasks + s.counters.removed + s.candidates.size =
    (CandidateSet.seed su.target su.targets).size
  outstanding : Account.outstanding.total done s.tasks + s.counters.removed ≤
    s.counters.referencesFound

theorem Ledger.initial (su : Setup) (cancelled : Bool) :
    Ledger su [] (State.initial su cancelled) where
  known := by rintro t ⟨⟩
  reporting := by rintro t ⟨⟩
  takenUp_le _ := Nat.zero_le _
  takenUp_eq _ _ := rfl
  completed := rfl
  loadFailures := rfl
  scriptFailures := rfl
  referencesFound := rfl
  candidates _ := ⟨fun member => ⟨member, rfl⟩, And.left⟩
  removed := Nat.zero_add _
  outstanding := Nat.le_refl _

/-- The ledger speaks of the effects, the tasks and the number of jobs submitted
only, and does not mind if the token is cancelled. -/
theorem Ledger.congr (h : Ledger su done s) (effects : after.effects = s.effects)
    (tasks : after.tasks = s.tasks) (submitted : after.submitted = s.submitted)
    (cancelled : after.cancelled = false → s.cancelled = false) : Ledger su done after := by
  have counters : after.counters = s.counters := congrArg Effects.counters effects
  have candidates : after.candidates = s.candidates := congrArg Effects.candidates effects
  constructor
  case known => rw [tasks]; exact h.known
  case reporting => rw [tasks]; exact h.reporting
  case takenUp_le => rw [tasks, submitted]; exact h.takenUp_le
  case takenUp_eq => rw [tasks, submitted]; exact fun active => h.takenUp_eq (cancelled active)
  case completed => rw [tasks, counters]; exact h.completed
  case loadFailures => rw [tasks, counters]; exact h.loadFailures
  case scriptFailures => rw [tasks, counters]; exact h.scriptFailures
  case referencesFound => rw [tasks, counters]; exact h.referencesFound
  case candidates => rw [tasks, candidates]; exact h.candidates
  case removed => rw [tasks, counters, candidates]; exact h.removed
  case outstanding => rw [tasks, counters]; exact h.outstanding

/-- Submitting the next job adds a task that has booked nothing, but stands for
its number. -/
theorem Ledger.submit {job : Job} (h : Ledger su done s) (known : Known su s.submitted job .submitted)
    (effects : after.effects = s.effects)
    (tasks : after.tasks = s.tasks ++ [⟨s.submitted, job, .submitted⟩])
    (submitted : after.submitted = s.submitted + 1) (cancelled : after.cancelled = s.cancelled) :
    Ledger su done after := by
  have counters : after.counters = s.counters := congrArg Effects.counters effects
  have candidates : after.candidates = s.candidates := congrArg Effects.candidates effects
  have one_more (n : Nat) : (decide (n < s.submitted)).toNat + (s.submitted == n).toNat =
      (decide (n < s.submitted + 1)).toNat := by
    rcases Nat.lt_trichotomy n s.submitted with less | same | more
    · simp [less, Nat.ne_of_gt less, Nat.lt_succ_of_lt less]
    · simp [same]
    · simp [Nat.ne_of_lt more, Nat.not_lt_of_gt more, Nat.not_lt.mpr more]
  have stands (n : Nat) : (Account.takenUp n).booked s.submitted .submitted =
      (s.submitted == n).toNat := rfl
  have mem_cases {t : Task} (ht : t ∈ after.tasks) :
      t ∈ s.tasks ∨ t = ⟨s.submitted, job, .submitted⟩ := by
    rw [tasks] at ht
    simpa using ht
  constructor
  case known =>
    intro t ht
    rcases mem_cases ht with ht | rfl
    · exact h.known t ht
    · exact known
  case reporting =>
    intro t ht reporting
    rcases mem_cases ht with ht | rfl
    · exact h.reporting t ht reporting
    · cases reporting
  case takenUp_le =>
    intro n
    have le := h.takenUp_le n
    rw [tasks, submitted, Account.total_submit, stands, ← one_more]
    omega
  case takenUp_eq =>
    intro active n
    rw [tasks, submitted, Account.total_submit, stands, ← one_more,
      h.takenUp_eq (cancelled.symm.trans active)]
  case completed => rw [tasks, Account.total_submit, counters]; exact h.completed
  case loadFailures => rw [tasks, Account.total_submit, counters]; exact h.loadFailures
  case scriptFailures => rw [tasks, Account.total_submit, counters]; exact h.scriptFailures
  case referencesFound => rw [tasks, Account.total_submit, counters]; exact h.referencesFound
  case candidates =>
    intro c
    rw [tasks, Account.total_submit, candidates]
    exact h.candidates c
  case removed => rw [tasks, Account.total_submit, counters, candidates]; exact h.removed
  case outstanding => rw [tasks, Account.total_submit, counters]; exact h.outstanding

theorem Ledger.stepDispatcher (h : Ledger su done s) (admission : Admission su s)
    (taken : stepDispatcher su s = some after) : Ledger su done after := by
  obtain ⟨effects, cancelled, ⟨tasks, submitted⟩ | ⟨r, rest, admitted, -, tasks, submitted⟩⟩ :=
    stepDispatcher_cases taken
  · exact h.congr effects tasks submitted fun active => cancelled.symm.trans active
  · have next := admission.pending (r :: rest) (by rw [admitted]; rfl)
    exact h.submit ⟨(drop_succ_of_drop next).1, rfl, trivial⟩ effects tasks submitted cancelled

/-- A task that moves on balances its own account, and with it the whole. -/
theorem Ledger.moveOn {place : Nat} {t : Task} {mid : State} {next? : Option Phase}
    (h : Ledger su done s) (found : s.tasks[place]? = some t)
    (moves : Moves su s t.number t.job t.phase mid next?) :
    Ledger su (done ++ t.phase.closes t.number) (mid.moveOn place t next?) := by
  have known := h.known t (List.mem_of_getElem? found)
  obtain ⟨-, cancelled, submitted, tasks⟩ := moves.frame
  obtain ⟨effects, -, cancelled', submitted', -⟩ := mid.moveOn_frame place t next?
  have counters : (mid.moveOn place t next?).counters = mid.counters :=
    congrArg Effects.counters effects
  have candidates : (mid.moveOn place t next?).candidates = mid.candidates :=
    congrArg Effects.candidates effects
  rw [← tasks] at found
  have totals (a : Account) := a.total_moveOn found done next?
  simp only [tasks] at totals
  constructor
  case known =>
    intro u hu
    rcases mem_tasks_moveOn hu with ⟨phase, rfl, rfl⟩ | hu
    · exact moves.known known
    · rw [tasks] at hu
      exact h.known u hu
  case reporting =>
    intro u hu reporting
    rcases mem_tasks_moveOn hu with ⟨phase, rfl, rfl⟩ | hu
    · rcases moves.reporting reporting with closed | before
      · exact List.mem_append_right _ closed
      · exact List.mem_append_left _ (h.reporting t (tasks ▸ List.mem_of_getElem? found) before)
    · rw [tasks] at hu
      exact List.mem_append_left _ (h.reporting u hu reporting)
  case takenUp_le =>
    intro n
    have total := totals (Account.takenUp n)
    have own := moves.takenUp_le n
    have before := h.takenUp_le n
    rw [submitted', submitted]
    omega
  case takenUp_eq =>
    intro active n
    have stillActive : s.cancelled = false := by rw [← cancelled, ← cancelled', active]
    have total := totals (Account.takenUp n)
    have own := moves.takenUp_eq stillActive n
    have before := h.takenUp_eq stillActive n
    rw [submitted', submitted]
    omega
  case completed =>
    have total := totals Account.completions
    have own := moves.completed
    have before := h.completed
    rw [counters]
    omega
  case loadFailures =>
    have total := totals (Account.loadFailures su)
    have own := moves.loadFailures known
    have before := h.loadFailures
    rw [counters]
    omega
  case scriptFailures =>
    have total := totals (Account.scriptFailures su)
    have own := moves.scriptFailures known
    have before := h.scriptFailures
    rw [counters]
    omega
  case referencesFound =>
    have total := totals (Account.referencesFound su)
    have own := moves.referencesFound known
    have before := h.referencesFound
    rw [counters]
    omega
  case candidates =>
    intro c
    have total := totals (Account.struckOff su c)
    obtain ⟨marks, own, members⟩ := moves.struckOff known c
    have sum : (Account.struckOff su c).total (done ++ t.phase.closes t.number)
        (mid.moveOn place t next?).tasks = (Account.struckOff su c).total done s.tasks + marks := by
      omega
    rw [candidates, members, h.candidates, sum, and_assoc, Nat.add_eq_zero_iff]
  case removed =>
    have total := totals Account.uncounted
    have own := moves.removed
    have before := h.removed
    rw [counters, candidates]
    omega
  case outstanding =>
    have total := totals Account.outstanding
    have own := moves.outstanding
    have before := h.outstanding
    rw [counters]
    omega

/-- Every step keeps the books, whoever takes the step. -/
theorem Ledger.step {a : Action} (h : Ledger su done s) (admission : Admission su s)
    (taken : step su s a = some after) : Ledger su (done ++ s.closes a) after := by
  cases a with
  | dispatch =>
    show Ledger su (done ++ []) after
    rw [List.append_nil]
    exact h.stepDispatcher admission taken
  | work place pick =>
    obtain ⟨t, mid, next?, found, moves, rfl⟩ := stepTask_cases taken
    rw [State.closes, found]
    exact h.moveOn found moves
  | cancel =>
    obtain ⟨active, rfl⟩ := step_cancel_iff.mp taken
    show Ledger su (done ++ []) _
    rw [List.append_nil]
    exact h.congr rfl rfl rfl fun _ => active

/-- Every run keeps the books. -/
theorem Ledger.follow {actions : List Action} (h : Ledger su done s) (admission : Admission su s)
    (run : follow su s actions = some after) :
    Ledger su (done ++ completions su s actions) after :=
  (follow_keeps_completions (P := fun done s => Ledger su done s ∧ Admission su s)
    (fun ⟨h, admission⟩ taken => ⟨h.step admission taken, admission.step taken⟩)
    ⟨h, admission⟩ run).1

/-- The books of a scan after a run. -/
theorem Ledger.of_follow {cancelled : Bool} {actions : List Action}
    (run : Scan.follow su (State.initial su cancelled) actions = some s) :
    Ledger su (completions su (State.initial su cancelled) actions) s :=
  (Ledger.initial su cancelled).follow (Admission.initial su cancelled) run

/-! ## Jobs that are bound to complete -/

/-- A task that is bound to complete its job does so, or is still bound after the
step. -/
theorem bound_step {a : Action} {t : Task} (member : t ∈ s.tasks) (bound : t.phase.isBound = true)
    (taken : step su s a = some after) :
    t.number ∈ s.closes a ∨
      ∃ u ∈ after.tasks, u.number = t.number ∧ u.phase.isBound = true := by
  cases a with
  | dispatch =>
    obtain ⟨-, -, ⟨tasks, -⟩ | ⟨r, rest, -, -, tasks, -⟩⟩ := stepDispatcher_cases taken
    · exact .inr ⟨t, by rw [tasks]; exact member, rfl, bound⟩
    · exact .inr ⟨t, by rw [tasks]; exact List.mem_append_left _ member, rfl, bound⟩
  | work place pick =>
    obtain ⟨u, mid, next?, found, moves, rfl⟩ := stepTask_cases taken
    have tasks := moves.frame.2.2.2
    rw [State.closes, found]
    rw [← tasks] at found member
    rcases mem_tasks_moveOn_of_mem found member next? with rfl | still
    · rcases moves.bound bound with closed | ⟨next, rfl, bound⟩
      · exact .inl closed
      · refine .inr ⟨{ t with phase := next }, ?_, rfl, bound⟩
        exact List.mem_set (List.getElem?_eq_some_iff.mp found).1 _
    · exact .inr ⟨t, still, rfl, bound⟩
  | cancel =>
    obtain ⟨-, rfl⟩ := step_cancel_iff.mp taken
    exact .inr ⟨t, member, rfl, bound⟩

/-- Once no task is left, the jobs of tasks that were bound to complete them are
completed. -/
theorem mem_completions_of_bound {actions : List Action} {t : Task} (member : t ∈ s.tasks)
    (bound : t.phase.isBound = true) (run : follow su s actions = some after)
    (ended : after.tasks = []) : t.number ∈ completions su s actions := by
  induction actions generalizing s t with
  | nil =>
    cases run
    rw [ended] at member
    cases member
  | cons a rest ih =>
    rw [follow_cons] at run
    obtain ⟨mid, taken, run⟩ := Option.bind_eq_some_iff.mp run
    rw [completions_cons taken, List.mem_append]
    rcases bound_step member bound taken with closed | ⟨u, hu, number, bound⟩
    · exact .inl closed
    · rw [← number]
      exact .inr (ih hu bound run)

/-- Once no task is left, only the steps of tasks of which the jobs were completed
have brought anything about. -/
theorem effects_eq_of_not_completed {cancelled : Bool} {earlier later : List Action} {a : Action}
    {mid next : State} (first : follow su (State.initial su cancelled) earlier = some mid)
    (taken : step su mid a = some next) (run : follow su next later = some after)
    (ended : after.tasks = [])
    (outside : ∀ n, mid.worker? a = some n →
      n ∉ completions su (State.initial su cancelled) (earlier ++ a :: later)) :
    next.effects = mid.effects := by
  cases a with
  | dispatch => exact (stepDispatcher_cases taken).1
  | cancel =>
    obtain ⟨-, rfl⟩ := step_cancel_iff.mp taken
    rfl
  | work place pick =>
    obtain ⟨t, moved, next?, found, moves, rfl⟩ := stepTask_cases taken
    have member := List.mem_of_getElem? found
    have worker : mid.worker? (.work place pick) = some t.number := by
      rw [State.worker?, found]
      rfl
    have notCompleted := outside t.number worker
    rw [completions_append first, List.mem_append, not_or] at notCompleted
    rw [(moved.moveOn_frame place t next?).1]
    refine moves.effects_eq ?_ ?_
    · cases bound : t.phase.isBound with
      | false => rfl
      | true =>
        have whole : follow su mid (.work place pick :: later) = some after := by
          rw [follow_cons, taken]
          exact run
        exact absurd (mem_completions_of_bound member bound whole ended) notCompleted.2
    · cases reporting : t.phase.isReporting with
      | false => rfl
      | true => exact absurd ((Ledger.of_follow first).reporting t member reporting) notCompleted.1

end Scan
end Unreferenced
