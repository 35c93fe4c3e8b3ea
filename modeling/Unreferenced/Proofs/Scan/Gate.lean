import Unreferenced.Proofs.Scan.Admission

/-!
# The admission gate

A permit is the right to one slot.  The dispatcher takes it, hands it to the task
it submits, and whoever has it last drops it: a task by its last step, on whatever
way it came there, or the dispatcher when it breaks off between taking and
submitting.  For every live permit one token is queued, and the queue has as many
places as there are slots.

The queue and the permits never part (`Gated.tokens`), so a drop always finds a
token (`Gated.found`), no more tasks are live than there are slots, and a
dispatcher that waits for a slot waits for tasks that can go on
(`Gated.blocked`).  `admission_gate` has all of this for every state that a scan
comes to.
-/

namespace Unreferenced
namespace Scan

variable {su : Setup} {s after : State}

/-! ## Permits -/

/-- The permits that are live: one for each task, and one in the hands of the
dispatcher after it has taken a slot. -/
def State.permits (s : State) : Nat := s.tasks.length + s.dispatcher.held

/-- Whether a task at this phase drops its permit by its next step. -/
def Phase.isLeaving : Phase → Bool
  | .leaving => true
  | _ => false

/-- Whether a task at this phase is loading its resource. -/
def Phase.isLoading : Phase → Bool
  | .loading => true
  | _ => false

/-- Whether an action drops a permit. -/
def State.drops (s : State) : Action → Bool
  | .dispatch => s.cancelled && s.dispatcher.held == 1
  | .work place _ => s.tasks[place]?.any fun t => t.phase.isLeaving
  | .cancel => false

/-- What the admission gate ensures in a state. -/
structure Gated (su : Setup) (s : State) : Prop where
  /-- For every live permit one token is queued. -/
  tokens : s.slotsTaken = s.permits
  /-- The queue has room for as many tokens as there are slots. -/
  bounded : s.slotsTaken ≤ su.limit
  /-- No more jobs are live than there are slots. -/
  live : s.tasks.length ≤ su.limit
  /-- No more loads are in progress than there are slots. -/
  loading : (s.tasks.filter fun t => t.phase.isLoading).length ≤ su.limit
  /-- Whoever drops a permit finds a token and takes it. -/
  found : ∀ a after, step su s a = some after → s.drops a = true →
    0 < s.slotsTaken ∧ after.slotsTaken + 1 = s.slotsTaken ∧ after.permits + 1 = s.permits
  /-- While the dispatcher is blocked some task is live, and all that are can take a
  step. -/
  blocked : ∀ r rest, s.dispatcher = .acquiring r rest → step su s .dispatch = none →
    s.tasks ≠ [] ∧ ∀ place < s.tasks.length, ∀ pick, (step su s (.work place pick)).isSome = true
  /-- Nothing is stuck before the dispatcher has joined. -/
  unstuck : s.dispatcher.isJoined = false → ∃ a, a ≠ .cancel ∧ (step su s a).isSome = true
  /-- When it has, no token, no permit and no task is left. -/
  released : s.dispatcher.isJoined = true → s.slotsTaken = 0 ∧ s.permits = 0 ∧ s.tasks = []

/-! ## Dropping -/

/-- The dispatcher drops its permit when it finds the token cancelled after all. -/
theorem stepDispatcher_of_drops (h : stepDispatcher su s = some after)
    (drops : s.drops .dispatch = true) :
    after = { s with slotsTaken := s.slotsTaken - 1, dispatcher := .joining } ∧
      s.dispatcher.held = 1 := by
  rw [State.drops, Bool.and_eq_true, beq_iff_eq] at drops
  obtain ⟨cancelled, held⟩ := drops
  refine ⟨?_, held⟩
  cases place : s.dispatcher with
  | admitted r rest =>
    rw [stepDispatcher, place] at h
    simpa [cancelled, eq_comm] using h
  | _ =>
    rw [place] at held
    cases held

/-- A task drops its permit by its last step. -/
theorem stepTask_of_drops {place pick : Nat} (h : stepTask su s place pick = some after)
    (drops : s.drops (.work place pick) = true) :
    after = { s with slotsTaken := s.slotsTaken - 1, tasks := s.tasks.eraseIdx place } ∧
      place < s.tasks.length := by
  obtain ⟨t, mid, next?, found, moves, rfl⟩ := stepTask_cases h
  rw [State.drops, found] at drops
  obtain ⟨number, job, phase⟩ := t
  cases phase with
  | leaving =>
    cases moves
    exact ⟨rfl, (List.getElem?_eq_some_iff.mp found).1⟩
  | _ => cases drops

/-- A step that drops a permit takes one token from the queue if the queue holds a
token for every permit. -/
theorem step_of_drops {a : Action} (tokens : s.slotsTaken = s.permits)
    (h : step su s a = some after) (drops : s.drops a = true) :
    0 < s.slotsTaken ∧ after.slotsTaken + 1 = s.slotsTaken ∧ after.permits + 1 = s.permits := by
  rw [tokens]
  cases a with
  | dispatch =>
    obtain ⟨rfl, held⟩ := stepDispatcher_of_drops h drops
    simp only [tokens, State.permits, held]
    exact ⟨Nat.succ_pos _, rfl, rfl⟩
  | work place pick =>
    obtain ⟨rfl, inside⟩ := stepTask_of_drops h drops
    simp only [tokens, State.permits, List.length_eraseIdx_of_lt inside]
    omega
  | cancel => cases drops

/-! ## Waiting -/

/-- Every task can take a step, whatever it is at. -/
theorem stepTask_isSome {place : Nat} (inside : place < s.tasks.length) (pick : Nat) :
    (stepTask su s place pick).isSome = true := by
  rw [stepTask, List.getElem?_eq_getElem inside]
  rfl

/-- All slots are taken while the dispatcher waits for one. -/
theorem limit_le_of_blocked {r : Identity} {rest : List Identity}
    (place : s.dispatcher = .acquiring r rest) (blocked : stepDispatcher su s = none) :
    su.limit ≤ s.slotsTaken := by
  simp only [stepDispatcher, place] at blocked
  refine Nat.le_of_not_lt ?_
  intro free
  rw [if_pos free] at blocked
  cases blocked

/-! ## The gate -/

/-- Whatever keeps to the rules of admission is gated, if there is a slot at all. -/
theorem Admission.gated (h : Admission su s) (slot : 1 ≤ su.limit) : Gated su s where
  tokens := h.slots
  bounded := h.bounded
  live := h.length_tasks_le
  loading := Nat.le_trans (List.length_filter_le _ _) h.length_tasks_le
  found _ _ := step_of_drops h.slots
  blocked := by
    intro r rest place blocked
    refine ⟨?_, fun _ inside pick => stepTask_isSome inside pick⟩
    -- The dispatcher holds no slot itself, so the slots it waits for are those of tasks.
    intro none_left
    have taken := limit_le_of_blocked place blocked
    have slots := h.slots
    rw [place, none_left] at slots
    rw [slots] at taken
    exact absurd (Nat.le_trans slot taken) (Nat.not_succ_le_zero 0)
  unstuck := by
    intro running
    refine ⟨choose .never s, choose_never_ne_cancel s, step_choose_isSome h slot ?_⟩
    cases place : s.dispatcher with
    | closed b =>
      rw [place] at running
      cases running
    | _ => rfl
  released := by
    intro joined
    have ended := h.joined joined
    have slots := h.slots
    have held : s.dispatcher.held = 0 := by
      cases place : s.dispatcher with
      | admitted r rest =>
        rw [place] at joined
        cases joined
      | _ => rfl
    rw [ended, held] at slots
    exact ⟨slots, by rw [State.permits, ended, held]; rfl, ended⟩

/-- **The admission gate.**  In every state that a scan with at least one slot comes
to, whatever the resources, the order of the steps and the time of cancellation, the
tokens queued are as many as the live permits and no more than the slots, a dropped
permit finds its token, a blocked dispatcher waits for a task that can go on, nothing
is stuck before the dispatcher has joined, and then no token and no permit is left.
No run is longer than the work it starts with, so the dispatcher does join. -/
theorem admission_gate (su : Setup) (slot : 1 ≤ su.limit) {cancelled : Bool}
    {actions : List Action} {s : State}
    (run : follow su (State.initial su cancelled) actions = some s) :
    Gated su s ∧ actions.length ≤ remaining su (State.initial su cancelled) := by
  have admission := Admission.follow run
  have finite := length_add_remaining_le run
  exact ⟨admission.gated slot, by omega⟩

/-- Two resources for one slot; the first of them does not load. -/
def Setup.queue : Setup where
  load number r := if number = 0 then .error (.notFound r) else .ok (.plainText "nothing")
  audio _ := none
  target := ⟨"WAV"⟩
  resources := [⟨"first", ⟨"CRE"⟩⟩, ⟨"second", ⟨"CRE"⟩⟩]
  targets := [⟨"One", ⟨"WAV"⟩⟩]
  limit := 1
  interval := 1

/-- The dispatcher waits with the second resource while the first one is loaded. -/
theorem admission_gate_queue : ∃ s,
    follow Setup.queue (State.initial Setup.queue false)
        (List.replicate 4 .dispatch ++ [.work 0 0, .work 0 0]) = some s ∧
      1 ≤ Setup.queue.limit ∧ step Setup.queue s .dispatch = none ∧ s.slotsTaken = 1 ∧
      Gated Setup.queue s := by
  have evaluated : (follow Setup.queue (State.initial Setup.queue false)
      (List.replicate 4 .dispatch ++ [.work 0 0, .work 0 0])).map (fun s =>
        ((step Setup.queue s .dispatch).isNone, s.slotsTaken)) = some (true, 1) := by
    decide +kernel
  obtain ⟨s, run, seen⟩ := Option.map_eq_some_iff.mp evaluated
  obtain ⟨blocked, taken⟩ := Prod.mk.inj seen
  have slot : 1 ≤ Setup.queue.limit := Nat.le_refl 1
  exact ⟨s, run, slot, Option.isNone_iff_eq_none.mp blocked, taken,
    (admission_gate Setup.queue slot run).1⟩

end Scan
end Unreferenced
