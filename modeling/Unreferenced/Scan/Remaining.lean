import Unreferenced.Scan.Moves

/-!
# Work that remains

Every step of the machine takes up some of the work that remains, and so every
run of it is finite (`remaining_step`).
-/

namespace Unreferenced
namespace Scan

/-! ## Sums over a list -/

/-- The sum of what each member of a list amounts to. -/
def tally {α : Type} (f : α → Nat) : List α → Nat
  | [] => 0
  | x :: rest => f x + tally f rest

theorem tally_append {α : Type} (f : α → Nat) (xs ys : List α) :
    tally f (xs ++ ys) = tally f xs + tally f ys := by
  induction xs with
  | nil => simp [tally]
  | cons x xs ih =>
    rw [List.cons_append, tally, tally, ih]
    omega

/-- Putting a member in the place of another one exchanges their amounts. -/
theorem tally_set {α : Type} (f : α → Nat) {xs : List α} {place : Nat} {x : α}
    (h : xs[place]? = some x) (y : α) :
    tally f (xs.set place y) + f x = tally f xs + f y := by
  induction xs generalizing place with
  | nil => simp at h
  | cons z rest ih =>
    cases place with
    | zero =>
      simp only [List.getElem?_cons_zero, Option.some.injEq] at h
      subst h
      simp only [tally, List.set_cons_zero]
      omega
    | succ place =>
      have := ih (by simpa using h)
      simp only [tally, List.set_cons_succ]
      omega

/-- Taking a member out takes its amount out. -/
theorem tally_eraseIdx {α : Type} (f : α → Nat) {xs : List α} {place : Nat} {x : α}
    (h : xs[place]? = some x) : tally f (xs.eraseIdx place) + f x = tally f xs := by
  induction xs generalizing place with
  | nil => simp at h
  | cons z rest ih =>
    cases place with
    | zero =>
      simp only [List.getElem?_cons_zero, Option.some.injEq] at h
      subst h
      simp only [tally, List.eraseIdx_cons_zero]
      omega
    | succ place =>
      have := ih (by simpa using h)
      simp only [tally, List.eraseIdx_cons_succ]
      omega

/-! ## The measure -/

/-- The number of references that the job of a number finds, if its resource
loads. -/
def Setup.weight (su : Setup) (number : Nat) (job : Job) : Nat :=
  match su.load number job.resource with
  | .ok content => (su.extract job content).size
  | .error _ => 0

/-- A bound on the steps that a task still takes. -/
def Task.remaining (su : Setup) (t : Task) : Nat :=
  match t.phase with
  | .submitted => 13 + 2 * su.weight t.number t.job
  | .cleared => 12 + 2 * su.weight t.number t.job
  | .loading => 11 + 2 * su.weight t.number t.job
  | .failed => 6
  | .loaded content => 10 + 2 * (su.extract t.job content).size
  | .extracted found => 9 + 2 * found.size
  | .passed found => 8 + 2 * found.size
  | .counted found => 7 + 2 * found.size
  | .striking rest => 5 + 2 * rest.length
  | .struck rest => 6 + 2 * rest.length
  | .finishing => 4
  | .due _ => 3
  | .reporting _ => 2
  | .leaving => 1

/-- A bound on the steps that resources without a task still take, when the
first of them has this number. -/
def restRemaining (su : Setup) : Nat → List Identity → Nat
  | _, [] => 0
  | number, r :: rest =>
    16 + 2 * su.weight number (su.job r) + restRemaining su (number + 1) rest

/-- A bound on the steps of the dispatcher, and of the tasks it still submits,
when the next of them has this number. -/
def Dispatcher.remaining (su : Setup) (number : Nat) : Dispatcher → Nat
  | .checking rest => 3 + restRemaining su number rest
  | .acquiring r rest =>
    18 + 2 * su.weight number (su.job r) + restRemaining su (number + 1) rest
  | .admitted r rest =>
    17 + 2 * su.weight number (su.job r) + restRemaining su (number + 1) rest
  | .joining => 2
  | .joined => 1
  | .closed _ => 0

/-- A bound on the steps that can still be taken. -/
def remaining (su : Setup) (s : State) : Nat :=
  s.dispatcher.remaining su s.submitted + tally (Task.remaining su) s.tasks +
    if s.cancelled then 0 else 1

/-! ## Every step takes some of it -/

/-- A step brings a task closer to its end. -/
theorem Moves.remaining_lt {su : Setup} {s mid : State} {number : Nat} {job : Job}
    {phase next : Phase} (h : Moves su s number job phase mid (some next)) :
    Task.remaining su ⟨number, job, next⟩ < Task.remaining su ⟨number, job, phase⟩ := by
  cases h with
  | load given =>
    simp only [Task.remaining, Setup.weight, given]
    omega
  | strikeOff chosen candidate =>
    have inside := (List.getElem?_eq_some_iff.mp chosen).1
    have shorter := List.length_eraseIdx_of_lt inside
    simp only [Task.remaining]
    omega
  | strikeNone chosen other =>
    have inside := (List.getElem?_eq_some_iff.mp chosen).1
    have shorter := List.length_eraseIdx_of_lt inside
    simp only [Task.remaining]
    omega
  | countReferences =>
    simp only [Task.remaining, Extraction.size, IdentitySet.size, IdentitySet.toList]
    omega
  | _ =>
    simp only [Task.remaining]
    omega

theorem Task.remaining_pos (su : Setup) (t : Task) : 0 < t.remaining su := by
  obtain ⟨number, job, phase⟩ := t
  cases phase <;> simp only [Task.remaining] <;> omega

theorem remaining_stepTask {su : Setup} {s after : State} {place pick : Nat}
    (h : stepTask su s place pick = some after) : remaining su after < remaining su s := by
  obtain ⟨t, mid, next?, found, moves, rfl⟩ := stepTask_cases h
  obtain ⟨dispatcher, cancelled, submitted, tasks⟩ := moves.frame
  cases next? with
  | some phase =>
    have closer : Task.remaining su { t with phase := phase } < Task.remaining su t :=
      moves.remaining_lt
    have exchanged := tally_set (Task.remaining su) found { t with phase := phase }
    simp only [State.moveOn, remaining, dispatcher, cancelled, submitted, tasks]
    omega
  | none =>
    have positive := t.remaining_pos su
    have taken := tally_eraseIdx (Task.remaining su) found
    simp only [State.moveOn, remaining, dispatcher, cancelled, submitted, tasks]
    omega

theorem remaining_stepDispatcher {su : Setup} {s after : State}
    (h : stepDispatcher su s = some after) : remaining su after < remaining su s := by
  cases dispatches_of_stepDispatcher h with
  | submit place active =>
    simp only [remaining, place, Dispatcher.remaining, tally_append, tally, Task.remaining]
    omega
  | _ place =>
    simp only [remaining, place, Dispatcher.remaining, restRemaining]
    omega

/-- Every step takes up some of the work that remains. -/
theorem remaining_step {su : Setup} {s after : State} {a : Action}
    (h : step su s a = some after) : remaining su after < remaining su s := by
  cases a with
  | dispatch => exact remaining_stepDispatcher h
  | work place pick => exact remaining_stepTask h
  | cancel =>
    simp only [step] at h
    split at h
    · cases h
    · cases h
      simp_all [remaining]

end Scan
end Unreferenced
