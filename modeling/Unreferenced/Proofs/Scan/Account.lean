import Mathlib.Data.List.Perm.Basic
import Unreferenced.Proofs.Extraction
import Unreferenced.Proofs.Scan.Steps

/-!
# What a job amounts to

What the job of a number is to add to a scan is settled by its setup: what it
finds, if its resource loads at all (`Setup.found?`).  An `Account` says for one
quantity how much of this a task has booked already when it has come to a phase,
and how much a completed job amounts to.  For each quantity one lemma goes through
the cases of `Moves` and compares a step of a task with what the task books by it.
-/

namespace Unreferenced
namespace Scan

variable {su : Setup} {s mid : State} {number : Nat} {job : Job} {phase : Phase}
  {next? : Option Phase}

/-! ## What a job is given and finds -/

namespace Setup

/-- What the job of a number is given, if its resource loads. -/
def content? (su : Setup) (number : Nat) : Option Content :=
  su.resources[number]?.bind fun r => (su.load number r).toOption

/-- What the job of a number finds, if its resource loads. -/
def found? (su : Setup) (number : Nat) : Option Extraction :=
  (su.content? number).map fun content =>
    Extraction.ofContent su.audio su.target content su.compiler

/-- One for a job of which the resource does not load. -/
def lost (su : Setup) (number : Nat) : Nat := if (su.content? number).isSome then 0 else 1

/-- The number of scripts that fail in what a job is given. -/
def broken (su : Setup) (number : Nat) : Nat := (su.found? number).elim 0 Extraction.scriptFailures

/-- The number of references that a job finds. -/
def given (su : Setup) (number : Nat) : Nat := (su.found? number).elim 0 Extraction.size

/-- Whether a job finds a reference to an identity. -/
def names (su : Setup) (c : Identity) (number : Nat) : Bool :=
  (su.found? number).any fun found => found.references.contains c

end Setup

/-! ## What is known of a task -/

/-- What a phase says of the job of a number is so. -/
def Phase.Fits (su : Setup) (number : Nat) : Phase → Prop
  | .failed => su.content? number = none
  | .loaded content => su.content? number = some content
  | .extracted found => su.found? number = some found
  | .passed found => su.found? number = some found
  | .counted found => su.found? number = some found
  | .striking rest =>
    ∃ found, su.found? number = some found ∧ rest.Sublist found.references.members
  | .struck rest =>
    ∃ found, su.found? number = some found ∧ rest.Sublist found.references.members
  | _ => True

/-- The task has the job of its number, and has come to a phase that fits it. -/
structure Known (su : Setup) (number : Nat) (job : Job) (phase : Phase) : Prop where
  resource : su.resources[number]? = some job.resource
  target : job.target = su.target
  fits : phase.Fits su number

theorem Known.content?_eq (h : Known su number job phase) :
    su.content? number = (su.load number job.resource).toOption := by
  rw [Setup.content?, h.resource]
  rfl

/-- A task comes to a phase that fits its job. -/
theorem Moves.known {next : Phase} (h : Known su number job phase)
    (moves : Moves su s number job phase mid (some next)) : Known su number job next := by
  refine ⟨h.resource, h.target, ?_⟩
  have fits := h.fits
  cases moves with
  | load given =>
    show su.content? number = _
    rw [h.content?_eq, given]
    rfl
  | fail given =>
    show su.content? number = _
    rw [h.content?_eq, given]
    rfl
  | @extract content active =>
    have loaded : su.content? number = some content := fits
    show su.found? number = some (su.extract job content)
    rw [Setup.found?, loaded, Setup.extract, h.target]
    rfl
  | pass => exact fits
  | countScripts => exact fits
  | countReferences => exact ⟨_, fits, List.Sublist.refl _⟩
  | strikeOff =>
    obtain ⟨found, known, sublist⟩ := fits
    exact ⟨found, known, (List.eraseIdx_sublist _ _).trans sublist⟩
  | strikeNone =>
    obtain ⟨found, known, sublist⟩ := fits
    exact ⟨found, known, (List.eraseIdx_sublist _ _).trans sublist⟩
  | countRemoved => exact fits
  | _ => trivial

/-! ## Accounts -/

/-- Of one quantity, what a task has booked when its job has come to a phase, and
what a completed job amounts to. -/
structure Account where
  booked : Nat → Phase → Nat
  final : Nat → Nat

namespace Account

/-- What completed jobs and tasks amount to together. -/
def total (a : Account) (done : List Nat) (tasks : List Task) : Nat :=
  tally a.final done + tally (fun t => a.booked t.number t.phase) tasks

/-- The account of something that is booked in one step, and stays booked until
the job is completed. -/
@[simp] def once (final : Nat → Nat) (isBooked : Phase → Bool) : Account :=
  ⟨fun number phase => if isBooked phase then final number else 0, final⟩

/-- The completions themselves. -/
def completions : Account := once (fun _ => 1) fun _ => false

/-- The loads that failed. -/
def loadFailures (su : Setup) : Account :=
  once su.lost fun
    | .finishing => true
    | _ => false

/-- The scripts that failed. -/
def scriptFailures (su : Setup) : Account :=
  once su.broken fun
    | .counted _ | .striking _ | .struck _ | .finishing => true
    | _ => false

/-- The references found. -/
def referencesFound (su : Setup) : Account :=
  once su.given fun
    | .striking _ | .struck _ | .finishing => true
    | _ => false

/-- How often an identity was struck off. -/
def struckOff (su : Setup) (c : Identity) : Account where
  booked number
    | .striking rest | .struck rest => (su.names c number && !rest.any (· == c)).toNat
    | .finishing => (su.names c number).toNat
    | _ => 0
  final number := (su.names c number).toNat

/-- How often the job of a number is taken up: a task stands for it until the job
is completed or given up. -/
def takenUp (number : Nat) : Account :=
  once (fun other => (other == number).toNat) fun
    | .due _ | .reporting _ | .leaving => false
    | _ => true

/-- The candidates struck off and not yet counted. -/
def uncounted : Account where
  booked _
    | .struck _ => 1
    | _ => 0
  final _ := 0

/-- The references counted as found, less the candidates counted as struck off on
their account. -/
def outstanding : Account where
  booked _
    | .striking rest => rest.length
    | .struck rest => rest.length + 1
    | _ => 0
  final _ := 0

end Account

/-- The number of the job that a task at a phase completes by its next step. -/
@[simp] def Phase.closes (number : Nat) : Phase → List Nat
  | .finishing => [number]
  | _ => []

/-! ## What a step books -/

/-- What a task has booked after a step, or leaves behind as a completed job. -/
@[simp] def Account.after (a : Account) (number : Nat) (phase : Phase) (next? : Option Phase) : Nat :=
  tally a.final (phase.closes number) + next?.elim 0 (a.booked number)

theorem Moves.completed (moves : Moves su s number job phase mid next?) :
    Account.completions.after number phase next? + s.counters.completed =
      Account.completions.booked number phase + mid.counters.completed := by
  cases moves <;> simp [Account.completions, tally] <;> omega

theorem Moves.loadFailures (known : Known su number job phase)
    (moves : Moves su s number job phase mid next?) :
    (Account.loadFailures su).after number phase next? + s.counters.loadFailures =
      (Account.loadFailures su).booked number phase + mid.counters.loadFailures := by
  have fits := known.fits
  cases moves with
  | countFailure =>
    have failed : su.content? number = none := fits
    have lost : su.lost number = 1 := by rw [Setup.lost, failed]; rfl
    simp [Account.loadFailures, tally, lost]
    omega
  | strikeLast =>
    obtain ⟨found, known, -⟩ := fits
    have lost : su.lost number = 0 := by
      rw [Setup.found?, Option.map_eq_some_iff] at known
      obtain ⟨content, loaded, -⟩ := known
      rw [Setup.lost, loaded]
      rfl
    simp [Account.loadFailures, tally, lost]
  | _ => simp [Account.loadFailures, tally]

theorem Moves.scriptFailures (known : Known su number job phase)
    (moves : Moves su s number job phase mid next?) :
    (Account.scriptFailures su).after number phase next? + s.counters.scriptFailures =
      (Account.scriptFailures su).booked number phase + mid.counters.scriptFailures := by
  have fits := known.fits
  cases moves with
  | countFailure =>
    have failed : su.content? number = none := fits
    have none_broken : su.broken number = 0 := by rw [Setup.broken, Setup.found?, failed]; rfl
    simp [Account.scriptFailures, tally, none_broken]
  | @countScripts found =>
    have extracted : su.found? number = some found := fits
    have broken : su.broken number = found.scriptFailures := by rw [Setup.broken, extracted]; rfl
    simp [Account.scriptFailures, tally, broken]
    omega
  | _ => simp [Account.scriptFailures, tally]

theorem Moves.referencesFound (known : Known su number job phase)
    (moves : Moves su s number job phase mid next?) :
    (Account.referencesFound su).after number phase next? + s.counters.referencesFound =
      (Account.referencesFound su).booked number phase + mid.counters.referencesFound := by
  have fits := known.fits
  cases moves with
  | countFailure =>
    have failed : su.content? number = none := fits
    have none_given : su.given number = 0 := by rw [Setup.given, Setup.found?, failed]; rfl
    simp [Account.referencesFound, tally, none_given]
  | @countReferences found =>
    have extracted : su.found? number = some found := fits
    have given : su.given number = found.size := by rw [Setup.given, extracted]; rfl
    simp [Account.referencesFound, tally, given]
    omega
  | _ => simp [Account.referencesFound, tally]

/-- A job stays taken up until it is completed, unless it is given up. -/
theorem Moves.takenUp_le (moves : Moves su s number job phase mid next?) (n : Nat) :
    (Account.takenUp n).after number phase next? ≤ (Account.takenUp n).booked number phase := by
  cases moves <;> simp [Account.takenUp, tally]

/-- No job is given up unless the token is cancelled. -/
theorem Moves.takenUp_eq (moves : Moves su s number job phase mid next?)
    (active : s.cancelled = false) (n : Nat) :
    (Account.takenUp n).after number phase next? = (Account.takenUp n).booked number phase := by
  cases moves with
  | turnAway cancelled => rw [active] at cancelled; cases cancelled
  | dropContent cancelled => rw [active] at cancelled; cases cancelled
  | dropFound cancelled => rw [active] at cancelled; cases cancelled
  | _ => simp [Account.takenUp, tally]

/-! ## What a step strikes off -/

/-- The members of a list are the one at a place and the others. -/
theorem perm_cons_eraseIdx {l : List Identity} {place : Nat} {i : Identity}
    (chosen : l[place]? = some i) : l.Perm (i :: l.eraseIdx place) := by
  obtain ⟨inside, rfl⟩ := List.getElem?_eq_some_iff.mp chosen
  exact (List.getElem_cons_eraseIdx_perm inside).symm

/-- Once a reference is taken from those of a job, no equal one is left, and it is
among those that the job finds. -/
theorem Phase.Fits.chosen {rest : List Identity} {place : Nat} {i c : Identity}
    (fits : (Phase.striking rest).Fits su number) (chosen : rest[place]? = some i) :
    rest.any (· == c) = (i == c || (rest.eraseIdx place).any (· == c)) ∧
      ((i == c) = true →
        su.names c number = true ∧ (rest.eraseIdx place).any (· == c) = false) := by
  obtain ⟨found, known, sublist⟩ := fits
  have perm := perm_cons_eraseIdx chosen
  refine ⟨by rw [perm.any_eq, List.any_cons], ?_⟩
  intro same
  constructor
  · rw [Setup.names, known]
    exact IdentitySet.contains_iff.mpr
      ⟨i, sublist.subset (perm.symm.subset List.mem_cons_self), same⟩
  · have distinct : (i :: rest.eraseIdx place).Pairwise fun a b => (a == b) = false := by
      refine perm.pairwise (found.references.distinct.sublist sublist) ?_
      intro a b h
      rw [BEq.comm, h]
    rw [List.any_eq_false]
    intro m hm other
    have apart := (List.pairwise_cons.mp distinct).1 m hm
    rw [BEq.trans same (BEq.symm other)] at apart
    cases apart

/-- One if the step strikes a candidate off, or would if it were one. -/
theorem Moves.struckOff (known : Known su number job phase)
    (moves : Moves su s number job phase mid next?) (c : Identity) :
    ∃ marks, (Account.struckOff su c).after number phase next? =
        (Account.struckOff su c).booked number phase + marks ∧
      (c ∈ mid.candidates.members.members ↔ c ∈ s.candidates.members.members ∧ marks = 0) := by
  have fits := known.fits
  have strike {rest : List Identity} {place : Nat} {i : Identity}
      (fits : (Phase.striking rest).Fits su number) (chosen : rest[place]? = some i) :
      (su.names c number && !(rest.eraseIdx place).any (· == c)).toNat =
          (su.names c number && !rest.any (· == c)).toNat + (i == c).toNat ∧
        (c ∈ (s.candidates.remove i).1.members.members ↔
          c ∈ s.candidates.members.members ∧ (i == c).toNat = 0) := by
    obtain ⟨any_rest, chosen_names⟩ := fits.chosen (c := c) chosen
    constructor
    · rw [any_rest]
      cases same : i == c with
      | false => simp
      | true =>
        obtain ⟨names, others⟩ := chosen_names same
        rw [names, others]
        rfl
    · rw [CandidateSet.members_remove, List.mem_filter, BEq.comm]
      cases i == c <;> simp
  cases moves with
  | strikeOff chosen candidate =>
    obtain ⟨marks, members⟩ := strike fits chosen
    exact ⟨_, by simpa [Account.struckOff, tally] using marks, members⟩
  | strikeNone chosen other =>
    obtain ⟨marks, members⟩ := strike fits chosen
    exact ⟨_, by simpa [Account.struckOff, tally] using marks, members⟩
  | countFailure =>
    have failed : su.content? number = none := fits
    have names_none : su.names c number = false := by rw [Setup.names, Setup.found?, failed]; rfl
    exact ⟨0, by simp [Account.struckOff, tally, names_none], by simp⟩
  | @countReferences found =>
    have extracted : su.found? number = some found := fits
    have all_left : (su.names c number && !found.references.toList.any (· == c)) = false := by
      rw [Setup.names, extracted]
      exact Bool.and_not_self _
    exact ⟨0, by simp [Account.struckOff, tally, all_left], by simp⟩
  | _ => exact ⟨0, by simp [Account.struckOff, tally], by simp⟩

/-- Each candidate struck off is counted, now or by the next step of the task. -/
theorem Moves.removed (moves : Moves su s number job phase mid next?) :
    Account.uncounted.after number phase next? + mid.counters.removed + mid.candidates.size =
      Account.uncounted.booked number phase + s.counters.removed + s.candidates.size := by
  cases moves with
  | @strikeOff rest place i chosen candidate =>
    have less := s.candidates.size_remove i
    rw [candidate, if_pos rfl] at less
    simp [Account.uncounted, tally]
    omega
  | @strikeNone rest place i chosen other =>
    have same := s.candidates.size_remove i
    rw [other] at same
    simpa [Account.uncounted, tally] using same
  | _ => simp [Account.uncounted, tally] <;> omega

/-- Of the references found at most one is counted as struck off by a step. -/
theorem Moves.outstanding (moves : Moves su s number job phase mid next?) :
    Account.outstanding.after number phase next? + mid.counters.removed +
        s.counters.referencesFound ≤
      Account.outstanding.booked number phase + s.counters.removed +
        mid.counters.referencesFound := by
  cases moves with
  | strikeOff chosen candidate =>
    have shorter := List.length_eraseIdx_of_lt (List.getElem?_eq_some_iff.mp chosen).1
    have inside := (List.getElem?_eq_some_iff.mp chosen).1
    simp [Account.outstanding, tally]
    omega
  | strikeNone chosen other =>
    have shorter := List.length_eraseIdx_of_lt (List.getElem?_eq_some_iff.mp chosen).1
    simp [Account.outstanding, tally]
    omega
  | @countReferences found =>
    simp [Account.outstanding, tally, Extraction.size, IdentitySet.size, IdentitySet.toList]
    omega
  | _ => simp [Account.outstanding, tally] <;> omega

/-! ## Jobs that have begun to count -/

/-- Whether a task at this phase goes on to complete its job whatever happens. -/
def Phase.isBound : Phase → Bool
  | .failed | .passed _ | .counted _ | .striking _ | .struck _ | .finishing => true
  | _ => false

/-- Whether the job of a task at this phase is completed and due to be reported. -/
def Phase.isReporting : Phase → Bool
  | .due _ | .reporting _ => true
  | _ => false

/-- Nothing makes a task that is bound to complete its job give it up. -/
theorem Moves.bound (moves : Moves su s number job phase mid next?)
    (bound : phase.isBound = true) :
    number ∈ phase.closes number ∨ ∃ next, next? = some next ∧ next.isBound = true := by
  cases moves <;> first
    | exact .inl (List.mem_singleton_self _)
    | exact .inr ⟨_, rfl, rfl⟩
    | cases bound

/-- A task reports only a job that it has completed. -/
theorem Moves.reporting {next : Phase} (moves : Moves su s number job phase mid (some next))
    (reporting : next.isReporting = true) :
    number ∈ phase.closes number ∨ phase.isReporting = true := by
  cases moves <;> first
    | exact .inl (List.mem_singleton_self _)
    | exact .inr rfl
    | cases reporting

/-- Other steps bring nothing about. -/
theorem Moves.effects_eq (moves : Moves su s number job phase mid next?)
    (free : phase.isBound = false) (silent : phase.isReporting = false) :
    mid.effects = s.effects := by
  cases moves <;> first
    | rfl
    | (cases free; done)
    | cases silent

end Scan
end Unreferenced
