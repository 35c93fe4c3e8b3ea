import Unreferenced.Scan.Machine

/-!
# The steps of the tasks and of the dispatcher, case by case

What a step of a task can do, said once: it is one of the cases of `Moves`, and
then that one task moves on (`stepTask_cases`).  A step of the dispatcher is one of
the cases of `Dispatches` (`dispatches_of_stepDispatcher`).
-/

namespace Unreferenced
namespace Scan

variable {su : Setup} {s after : State}

/-! ## Tasks -/

/-- What the task of a job does in one step, case by case: its phase before, the
state as the step leaves it, and its phase afterwards, unless it ends. -/
inductive Moves (su : Setup) (s : State) (number : Nat) (job : Job) :
    Phase → State → Option Phase → Prop
  | turnAway (cancelled : s.cancelled = true) :
      Moves su s number job .submitted s (some .leaving)
  | clear (active : s.cancelled = false) : Moves su s number job .submitted s (some .cleared)
  | start :
      Moves su s number job .cleared { s with loads := s.loads ++ [job.resource] } (some .loading)
  | load {content : Content} (given : su.load number job.resource = .ok content) :
      Moves su s number job .loading s (some (.loaded content))
  | fail {e : LoadError} (given : su.load number job.resource = .error e) :
      Moves su s number job .loading s (some .failed)
  | countFailure : Moves su s number job .failed
      { s with counters.loadFailures := s.counters.loadFailures + 1 } (some .finishing)
  | dropContent {content : Content} (cancelled : s.cancelled = true) :
      Moves su s number job (.loaded content) s (some .leaving)
  | extract {content : Content} (active : s.cancelled = false) :
      Moves su s number job (.loaded content) s (some (.extracted (su.extract job content)))
  | dropFound {found : Extraction} (cancelled : s.cancelled = true) :
      Moves su s number job (.extracted found) s (some .leaving)
  | pass {found : Extraction} (active : s.cancelled = false) :
      Moves su s number job (.extracted found) s (some (.passed found))
  | countScripts {found : Extraction} : Moves su s number job (.passed found)
      { s with counters.scriptFailures := s.counters.scriptFailures + found.scriptFailures }
      (some (.counted found))
  | countReferences {found : Extraction} : Moves su s number job (.counted found)
      { s with counters.referencesFound := s.counters.referencesFound + found.size }
      (some (.striking found.references.toList))
  | strikeOff {rest : List Identity} {place : Nat} {i : Identity} (chosen : rest[place]? = some i)
      (candidate : (s.candidates.remove i).2 = true) : Moves su s number job (.striking rest)
      { s with candidates := (s.candidates.remove i).1 } (some (.struck (rest.eraseIdx place)))
  | strikeNone {rest : List Identity} {place : Nat} {i : Identity} (chosen : rest[place]? = some i)
      (other : (s.candidates.remove i).2 = false) : Moves su s number job (.striking rest)
      { s with candidates := (s.candidates.remove i).1 } (some (.striking (rest.eraseIdx place)))
  | strikeLast : Moves su s number job (.striking []) s (some .finishing)
  | countRemoved {rest : List Identity} : Moves su s number job (.struck rest)
      { s with counters.removed := s.counters.removed + 1 } (some (.striking rest))
  | finishDue (due : su.isDue (s.counters.completed + 1) = true) :
      Moves su s number job .finishing
        { s with counters.completed := s.counters.completed + 1 }
        (some (.due (s.counters.completed + 1)))
  | finish (notDue : su.isDue (s.counters.completed + 1) = false) :
      Moves su s number job .finishing
        { s with counters.completed := s.counters.completed + 1 } (some .leaving)
  | read {completed : Nat} : Moves su s number job (.due completed) s
      (some (.reporting ⟨completed, su.total, s.counters.removed, some job.resource⟩))
  | send {event : Progress} : Moves su s number job (.reporting event)
      { s with events := s.events ++ [event] } (some .leaving)
  | leave : Moves su s number job .leaving { s with slotsTaken := s.slotsTaken - 1 } none

/-- The cases are all there are. -/
theorem Task.step_moves (su : Setup) (s : State) (pick : Nat) (t : Task) :
    Moves su s t.number t.job t.phase (t.step su s pick).1 (t.step su s pick).2 := by
  obtain ⟨number, job, phase⟩ := t
  cases phase with
  | submitted =>
    cases cancelled : s.cancelled with
    | true => simpa [Task.step, cancelled] using Moves.turnAway cancelled
    | false => simpa [Task.step, cancelled] using Moves.clear cancelled
  | cleared => exact .start
  | loading =>
    cases given : su.load number job.resource with
    | ok content => simpa [Task.step, given] using Moves.load given
    | error e => simpa [Task.step, given] using Moves.fail given
  | failed => exact .countFailure
  | loaded content =>
    cases cancelled : s.cancelled with
    | true => simpa [Task.step, cancelled] using Moves.dropContent cancelled
    | false => simpa [Task.step, cancelled] using Moves.extract cancelled
  | extracted found =>
    cases cancelled : s.cancelled with
    | true => simpa [Task.step, cancelled] using Moves.dropFound cancelled
    | false => simpa [Task.step, cancelled] using Moves.pass cancelled
  | passed found => exact .countScripts
  | counted found => exact .countReferences
  | striking rest =>
    cases chosen : rest[pick % rest.length]? with
    | some i =>
      cases candidate : (s.candidates.remove i).2 with
      | true => simpa [Task.step, chosen, candidate] using Moves.strikeOff chosen candidate
      | false => simpa [Task.step, chosen, candidate] using Moves.strikeNone chosen candidate
    | none =>
      cases rest with
      | nil => exact .strikeLast
      | cons i rest =>
        have inside : pick % (i :: rest).length < (i :: rest).length :=
          Nat.mod_lt _ (Nat.succ_pos _)
        rw [List.getElem?_eq_none_iff] at chosen
        omega
  | struck rest => exact .countRemoved
  | finishing =>
    cases due : su.isDue (s.counters.completed + 1) with
    | true => simpa [Task.step, due] using Moves.finishDue due
    | false => simpa [Task.step, due] using Moves.finish due
  | due completed => exact .read
  | reporting event => exact .send
  | leaving => exact .leave

/-- A step of a task touches neither the dispatcher nor the token nor the list of
tasks, which is brought up to date afterwards. -/
theorem Moves.frame {number : Nat} {job : Job} {phase : Phase} {mid : State}
    {next? : Option Phase} (h : Moves su s number job phase mid next?) :
    mid.dispatcher = s.dispatcher ∧ mid.cancelled = s.cancelled ∧
      mid.submitted = s.submitted ∧ mid.tasks = s.tasks := by
  cases h <;> exact ⟨rfl, rfl, rfl, rfl⟩

/-- A step of a task is one of the cases, and then the task moves on. -/
theorem stepTask_cases {place pick : Nat} (h : stepTask su s place pick = some after) :
    ∃ t mid next?, s.tasks[place]? = some t ∧ Moves su s t.number t.job t.phase mid next? ∧
      after = mid.moveOn place t next? := by
  rw [stepTask] at h
  cases found : s.tasks[place]? with
  | none =>
    rw [found] at h
    cases h
  | some t =>
    rw [found] at h
    cases h
    exact ⟨t, _, _, rfl, t.step_moves su s pick, rfl⟩

/-! ## The dispatcher -/

/-- What the dispatcher does in one step, case by case: where it stands, and the state as
the step leaves it. -/
inductive Dispatches (su : Setup) (s : State) : State → Prop
  | runOut (place : s.dispatcher = .checking []) :
      Dispatches su s { s with dispatcher := .joining }
  | giveUp {r : Identity} {rest : List Identity} (place : s.dispatcher = .checking (r :: rest))
      (cancelled : s.cancelled = true) : Dispatches su s { s with dispatcher := .joining }
  | goOn {r : Identity} {rest : List Identity} (place : s.dispatcher = .checking (r :: rest))
      (active : s.cancelled = false) : Dispatches su s { s with dispatcher := .acquiring r rest }
  | acquire {r : Identity} {rest : List Identity} (place : s.dispatcher = .acquiring r rest)
      (free : s.slotsTaken < su.limit) : Dispatches su s
      { s with slotsTaken := s.slotsTaken + 1, dispatcher := .admitted r rest }
  | giveBack {r : Identity} {rest : List Identity} (place : s.dispatcher = .admitted r rest)
      (cancelled : s.cancelled = true) : Dispatches su s
      { s with slotsTaken := s.slotsTaken - 1, dispatcher := .joining }
  | submit {r : Identity} {rest : List Identity} (place : s.dispatcher = .admitted r rest)
      (active : s.cancelled = false) : Dispatches su s
      { s with
        tasks := s.tasks ++ [⟨s.submitted, su.job r, .submitted⟩]
        submitted := s.submitted + 1
        dispatcher := .checking rest }
  | join (place : s.dispatcher = .joining) (empty : s.tasks = []) :
      Dispatches su s { s with dispatcher := .joined }
  | close (place : s.dispatcher = .joined) :
      Dispatches su s { s with dispatcher := .closed s.cancelled }

/-- The cases are all there are. -/
theorem dispatches_of_stepDispatcher (h : stepDispatcher su s = some after) :
    Dispatches su s after := by
  cases place : s.dispatcher with
  | checking pending =>
    cases pending with
    | nil =>
      simp only [stepDispatcher, place, Option.some.injEq] at h
      exact h ▸ .runOut place
    | cons r rest =>
      by_cases cancelled : s.cancelled = true
      · simp only [stepDispatcher, place, if_pos cancelled, Option.some.injEq] at h
        exact h ▸ .giveUp place cancelled
      · simp only [stepDispatcher, place, if_neg cancelled, Option.some.injEq] at h
        exact h ▸ .goOn place (Bool.not_eq_true _ ▸ cancelled)
  | acquiring r rest =>
    by_cases free : s.slotsTaken < su.limit
    · simp only [stepDispatcher, place, if_pos free, Option.some.injEq] at h
      exact h ▸ .acquire place free
    · simp only [stepDispatcher, place, if_neg free] at h
      cases h
  | admitted r rest =>
    by_cases cancelled : s.cancelled = true
    · simp only [stepDispatcher, place, if_pos cancelled, Option.some.injEq] at h
      exact h ▸ .giveBack place cancelled
    · simp only [stepDispatcher, place, if_neg cancelled, Option.some.injEq] at h
      exact h ▸ .submit place (Bool.not_eq_true _ ▸ cancelled)
  | joining =>
    by_cases empty : s.tasks.isEmpty = true
    · simp only [stepDispatcher, place, if_pos empty, Option.some.injEq] at h
      exact h ▸ .join place (List.isEmpty_iff.mp empty)
    · simp only [stepDispatcher, place, if_neg empty] at h
      cases h
  | joined =>
    simp only [stepDispatcher, place, Option.some.injEq] at h
    exact h ▸ .close place
  | closed b =>
    simp only [stepDispatcher, place] at h
    cases h

end Scan
end Unreferenced
