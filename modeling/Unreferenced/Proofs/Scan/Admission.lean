import Unreferenced.Proofs.Scan.Steps

/-!
# Slots, submissions and the end of a scan

The dispatcher holds a slot from the moment it takes one until it submits the
task, and a task holds it until it ends, so the slots taken are always those
held (`Admission`).  A run therefore never has more tasks than slots, it submits
the resources in order, and it is joined only when no task is left.

If there is a slot at all, a scan that is not closed can go on, whatever its
tasks are at (`step_choose_isSome`).  The fixed schedule `drive` is one of its
runs, and it ends with the scan closed (`drive_closed`).
-/

namespace Unreferenced
namespace Scan

variable {su : Setup} {s after : State}

/-! ## The dispatcher -/

namespace Dispatcher

/-- The slots that the dispatcher holds itself. -/
def held : Dispatcher → Nat
  | .admitted _ _ => 1
  | _ => 0

/-- The resources that have no task yet, while the dispatcher goes through them. -/
def pending? : Dispatcher → Option (List Identity)
  | .checking rest => some rest
  | .acquiring r rest => some (r :: rest)
  | .admitted r rest => some (r :: rest)
  | _ => none

/-- Whether all tasks have been waited for. -/
def isJoined : Dispatcher → Bool
  | .joined => true
  | .closed _ => true
  | _ => false

/-- Whether the scan is over. -/
def isClosed : Dispatcher → Bool
  | .closed _ => true
  | _ => false

theorem isJoined_of_isClosed {d : Dispatcher} (closed : d.isClosed = true) :
    d.isJoined = true := by
  cases d with
  | closed b => rfl
  | _ => cases closed

end Dispatcher

/-! ## What the dispatcher keeps to -/

/-- The slots taken are those held, and there are no more than that; the
resources without a task are those that follow the ones submitted; once the
dispatcher gives up on submitting, the token was cancelled or nothing was left;
and a joined scan has no tasks. -/
structure Admission (su : Setup) (s : State) : Prop where
  slots : s.slotsTaken = s.tasks.length + s.dispatcher.held
  bounded : s.slotsTaken ≤ su.limit
  inside : s.submitted ≤ su.total
  pending : ∀ rest, s.dispatcher.pending? = some rest → su.resources.drop s.submitted = rest
  ended : s.dispatcher.pending? = none → s.cancelled = false → s.submitted = su.total
  joined : s.dispatcher.isJoined = true → s.tasks = []
  noticed : s.dispatcher = .closed true → s.cancelled = true

theorem Admission.initial (su : Setup) (cancelled : Bool) :
    Admission su (State.initial su cancelled) where
  slots := rfl
  bounded := Nat.zero_le _
  inside := Nat.zero_le _
  pending := by
    rintro rest ⟨⟩
    rfl
  ended := by rintro ⟨⟩
  joined := by rintro ⟨⟩
  noticed := by rintro ⟨⟩

/-- What is left after the first of the resources without a task. -/
theorem drop_succ_of_drop {l rest : List Identity} {n : Nat} {r : Identity}
    (h : l.drop n = r :: rest) : l[n]? = some r ∧ l.drop (n + 1) = rest := by
  constructor
  · rw [← List.head?_drop, h]
    rfl
  · rw [← List.drop_drop, h]
    rfl

theorem Admission.stepDispatcher (h : Admission su s)
    (taken : stepDispatcher su s = some after) : Admission su after := by
  obtain ⟨slots, bounded, inside, pending, ended, joined, noticed⟩ := h
  cases dispatches_of_stepDispatcher taken with
  | runOut place =>
    rw [place] at slots pending
    have nothing := pending [] rfl
    rw [List.drop_eq_nil_iff] at nothing
    exact ⟨slots, bounded, inside, by rintro rest ⟨⟩, fun _ _ => Nat.le_antisymm inside nothing,
      by rintro ⟨⟩, by rintro ⟨⟩⟩
  | giveUp place cancelled =>
    rw [place] at slots
    refine ⟨slots, bounded, inside, by rintro rest ⟨⟩, ?_, by rintro ⟨⟩, by rintro ⟨⟩⟩
    intro _ active
    rw [show s.cancelled = false from active] at cancelled
    cases cancelled
  | goOn place active =>
    rw [place] at slots pending
    exact ⟨slots, bounded, inside, by rintro _ ⟨⟩; exact pending _ rfl, by rintro ⟨⟩,
      by rintro ⟨⟩, by rintro ⟨⟩⟩
  | acquire place free =>
    rw [place] at slots pending
    exact ⟨congrArg Nat.succ slots, free, inside, by rintro _ ⟨⟩; exact pending _ rfl,
      by rintro ⟨⟩, by rintro ⟨⟩, by rintro ⟨⟩⟩
  | giveBack place cancelled =>
    rw [place] at slots
    refine ⟨?_, Nat.le_trans (Nat.sub_le _ 1) bounded, inside, by rintro rest ⟨⟩, ?_,
      by rintro ⟨⟩, by rintro ⟨⟩⟩
    · show s.slotsTaken - 1 = s.tasks.length + 0
      rw [slots]
      rfl
    · intro _ active
      rw [show s.cancelled = false from active] at cancelled
      cases cancelled
  | submit place active =>
    rw [place] at slots pending
    have following := pending _ rfl
    refine ⟨?_, bounded, ?_, ?_, by rintro ⟨⟩, by rintro ⟨⟩, by rintro ⟨⟩⟩
    · show s.slotsTaken = (s.tasks ++ [_]).length + 0
      rw [List.length_append, slots]
      rfl
    · have found := (drop_succ_of_drop following).1
      exact (List.getElem?_eq_some_iff.mp found).1
    · rintro _ ⟨⟩
      exact (drop_succ_of_drop following).2
  | join place empty =>
    rw [place] at slots ended
    exact ⟨slots, bounded, inside, by rintro rest ⟨⟩, ended, fun _ => empty, by rintro ⟨⟩⟩
  | close place =>
    rw [place] at slots ended joined
    refine ⟨slots, bounded, inside, by rintro rest ⟨⟩, ended, joined, ?_⟩
    intro closed
    exact Dispatcher.closed.inj closed

/-- A task gives its slot back when it ends, and not before. -/
theorem Moves.slotsTaken {number : Nat} {job : Job} {phase : Phase} {mid : State}
    {next? : Option Phase} (h : Moves su s number job phase mid next?) :
    mid.slotsTaken = s.slotsTaken - if next?.isSome then 0 else 1 := by
  cases h <;> rfl

theorem Admission.stepTask {place pick : Nat} (h : Admission su s)
    (taken : stepTask su s place pick = some after) : Admission su after := by
  obtain ⟨t, mid, next?, found, moves, rfl⟩ := stepTask_cases taken
  obtain ⟨slots, bounded, inside, pending, ended, joined, noticed⟩ := h
  have place_lt := (List.getElem?_eq_some_iff.mp found).1
  have slots_mid := moves.slotsTaken
  obtain ⟨dispatcher, cancelled, submitted, tasks⟩ := moves.frame
  obtain ⟨-, dispatcher', cancelled', submitted', slots'⟩ := mid.moveOn_frame place t next?
  rw [dispatcher] at dispatcher'
  rw [cancelled] at cancelled'
  rw [submitted] at submitted'
  rw [slots_mid] at slots'
  refine ⟨?_, ?_, ?_, ?_, ?_, ?_, ?_⟩
  · rw [slots', dispatcher', slots]
    cases next? with
    | some phase =>
      simp only [State.moveOn, tasks, List.length_set, Option.isSome_some, if_true]
      omega
    | none =>
      simp only [State.moveOn, tasks, List.length_eraseIdx_of_lt place_lt, Option.isSome_none,
        Bool.false_eq_true, if_false]
      omega
  · rw [slots']
    exact Nat.le_trans (Nat.sub_le _ _) bounded
  · rw [submitted']
    exact inside
  · rw [dispatcher', submitted']
    exact pending
  · rw [dispatcher', cancelled', submitted']
    exact ended
  · rw [dispatcher']
    intro isJoined
    rw [joined isJoined] at place_lt
    cases place_lt
  · rw [dispatcher', cancelled']
    exact noticed

/-- Every step keeps to it, whoever takes the step. -/
theorem Admission.step {a : Action} (h : Admission su s) (taken : step su s a = some after) :
    Admission su after := by
  cases a with
  | dispatch => exact h.stepDispatcher taken
  | work place pick => exact h.stepTask taken
  | cancel =>
    obtain ⟨-, rfl⟩ := step_cancel_iff.mp taken
    obtain ⟨slots, bounded, inside, pending, -, joined, -⟩ := h
    exact ⟨slots, bounded, inside, pending, by rintro _ ⟨⟩, joined, fun _ => rfl⟩

/-- Every run of a scan keeps to it. -/
theorem Admission.follow {cancelled : Bool} {actions : List Action}
    (run : follow su (State.initial su cancelled) actions = some s) : Admission su s :=
  follow_keeps Admission.step (Admission.initial su cancelled) run

/-- When a scan that is not cancelled has joined, all resources were submitted. -/
theorem Admission.submitted_eq (h : Admission su s) (joined : s.dispatcher.isJoined = true)
    (active : s.cancelled = false) : s.submitted = su.total := by
  refine h.ended ?_ active
  cases place : s.dispatcher <;> rw [place] at joined <;> first | rfl | cases joined

/-- There are never more tasks than slots. -/
theorem Admission.length_tasks_le (h : Admission su s) : s.tasks.length ≤ su.limit := by
  have slots := h.slots
  have bounded := h.bounded
  omega

/-! ## Going on -/

/-- A scan that is not closed can go on, by its dispatcher when it has no tasks and
by its first task otherwise. -/
theorem step_choose_isSome (h : Admission su s) (slot : 1 ≤ su.limit)
    (running : s.dispatcher.isClosed = false) :
    (step su s (choose .never s)).isSome = true := by
  obtain ⟨slots, -, -, -, -, -, -⟩ := h
  show (step su s (if s.tasks.isEmpty then .dispatch else .work 0 0)).isSome = true
  cases tasks : s.tasks with
  | cons t rest =>
    show (stepTask su s 0 0).isSome = true
    rw [stepTask, tasks]
    rfl
  | nil =>
    show (stepDispatcher su s).isSome = true
    unfold stepDispatcher
    cases place : s.dispatcher with
    | checking rest => cases rest <;> rfl
    | acquiring r rest =>
      have free : s.slotsTaken < su.limit := by
        rw [slots, tasks, place]
        exact slot
      simp [free]
    | admitted r rest => cases s.cancelled <;> rfl
    | joining => simp [tasks]
    | joined => rfl
    | closed b =>
      rw [place] at running
      cases running

/-- Nobody cancels under the fixed schedule without cancellation. -/
theorem choose_never_ne_cancel (s : State) : choose .never s ≠ .cancel := by
  show (if s.tasks.isEmpty then Action.dispatch else .work 0 0) ≠ .cancel
  split <;> exact Action.noConfusion

/-- The fixed schedule is one of the runs of the machine, and it goes on as long as it
can. -/
theorem exists_follow_drive (su : Setup) (cancellation : Cancellation) (s : State) :
    ∃ actions, follow su s actions = some (drive su cancellation s) ∧
      step su (drive su cancellation s) (choose cancellation (drive su cancellation s)) = none ∧
      (cancellation = .never → .cancel ∉ actions) := by
  fun_induction drive su cancellation s with
  | case1 s after taken ih =>
    obtain ⟨actions, run, ended, never⟩ := ih
    refine ⟨choose cancellation s :: actions, ?_, ended, ?_⟩
    · rw [follow_cons, taken]
      exact run
    · rintro rfl
      rw [List.mem_cons, not_or]
      exact ⟨(choose_never_ne_cancel s).symm, never rfl⟩
  | case2 s stuck => exact ⟨[], rfl, stuck, fun _ => List.not_mem_nil⟩

/-- Nobody cancels under the fixed schedule without cancellation. -/
theorem follow_drive (su : Setup) (s : State) :
    ∃ actions, follow su s actions = some (drive su .never s) ∧ .cancel ∉ actions ∧
      step su (drive su .never s) (choose .never (drive su .never s)) = none := by
  obtain ⟨actions, run, ended, never⟩ := exists_follow_drive su .never s
  exact ⟨actions, run, never rfl, ended⟩

/-- It is time to cancel only while the token is not cancelled. -/
theorem not_cancelled_of_isNow {cancellation : Cancellation}
    (now : cancellation.isNow s = true) : s.cancelled = false := by
  cases cancellation with
  | duringLoad number =>
    rw [Cancellation.isNow, Bool.and_eq_true, Bool.and_eq_true, Bool.not_eq_true'] at now
    exact now.1.1
  | _ => cases now

/-- If there is a slot, the fixed schedule is stuck only when the scan is closed. -/
theorem closed_of_stuck {cancellation : Cancellation} (h : Admission su s) (slot : 1 ≤ su.limit)
    (stuck : step su s (choose cancellation s) = none) : s.dispatcher.isClosed = true := by
  cases now : cancellation.isNow s with
  | true =>
    rw [choose, if_pos now, step, not_cancelled_of_isNow now] at stuck
    cases stuck
  | false =>
    have as_never : choose cancellation s = choose .never s := by
      rw [choose, choose, now]
      rfl
    cases running : s.dispatcher.isClosed with
    | true => rfl
    | false =>
      have goesOn := step_choose_isSome h slot running
      rw [← as_never, stuck] at goesOn
      cases goesOn

/-- If there is a slot, the fixed schedule ends with the scan closed, whenever the token
is to be cancelled. -/
theorem isClosed_drive (cancellation : Cancellation) (h : Admission su s) (slot : 1 ≤ su.limit) :
    (drive su cancellation s).dispatcher.isClosed = true := by
  obtain ⟨actions, run, stuck, -⟩ := exists_follow_drive su cancellation s
  exact closed_of_stuck (follow_keeps Admission.step h run) slot stuck

theorem drive_closed (h : Admission su s) (slot : 1 ≤ su.limit) :
    (drive su .never s).dispatcher.isClosed = true := isClosed_drive .never h slot

end Scan
end Unreferenced
