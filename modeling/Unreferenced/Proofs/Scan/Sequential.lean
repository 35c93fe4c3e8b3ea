import Unreferenced.Proofs.Scan.Completed
import Unreferenced.Proofs.Scan.OneSlot

/-!
# A scan with one slot is sequential

With one slot the machine shows nothing of its concurrency.  The loads are those of the
resources in their order, and the events are those that a loop over the resources would
send: one for each number of completed jobs that is due, with the candidates that the jobs
so far have named, each counted once (`one_slot_is_sequential`).  Both are so far along at
any time, and complete when the scan is closed (`Setup.InOrder`).
-/

namespace Unreferenced
namespace Scan

variable {su : Setup} {s : State}

/-! ## The events of a loop over the resources -/

namespace Setup

/-- The events of a scan that completes its jobs in the order of the resources: one for
each number of jobs that is due. -/
def eventsInOrder (su : Setup) : List Progress :=
  ((List.range' 1 su.total).filter fun k => su.interval ∣ k ∨ k = su.total).map fun k =>
    ⟨k, su.total, su.struckBy k, su.resources[k - 1]?⟩

theorem eventsUpTo_total (su : Setup) : su.eventsUpTo su.total = su.eventsInOrder := by
  have due (number : Nat) : su.isDue (number + 1) =
      decide (su.interval ∣ 1 + number ∨ 1 + number = su.total) := by
    rw [isDue, Nat.add_comm, Bool.eq_iff_iff]
    simp [Nat.dvd_iff_mod_eq_zero]
  rw [eventsUpTo, eventsInOrder, List.range'_eq_map_range, List.filter_map, List.map_map]
  simp only [due]
  apply List.map_congr_left
  intro number _
  simp [eventAt, Nat.add_comm]

theorem eventsUpTo_prefix (su : Setup) {count count' : Nat} (le : count ≤ count') :
    su.eventsUpTo count <+: su.eventsUpTo count' := by
  induction le with
  | refl => exact List.prefix_rfl
  | step _ ih =>
    rw [eventsUpTo_succ]
    exact ih.trans (List.prefix_append _ _)

/-- What one of the first jobs names, one of some more jobs names, too. -/
theorem struckBy_le (su : Setup) {count count' : Nat} (le : count ≤ count') :
    su.struckBy count ≤ su.struckBy count' := by
  rw [struckBy, struckBy, ← List.countP_eq_length_filter, ← List.countP_eq_length_filter]
  refine List.countP_mono_left ?_
  intro c _ named
  obtain ⟨number, first, names⟩ := List.any_eq_true.mp named
  exact List.any_eq_true.mpr ⟨number, List.mem_range.mpr
    (Nat.lt_of_lt_of_le (List.mem_range.mp first) le), names⟩

theorem removed_eventsInOrder (su : Setup) :
    (su.eventsInOrder.map Progress.removed).Pairwise (· ≤ ·) := by
  rw [eventsInOrder, List.map_map, List.pairwise_map]
  refine List.Pairwise.filter _ ((List.pairwise_lt_range' 1).imp ?_)
  intro k k' less
  exact su.struckBy_le (Nat.le_of_lt less)

end Setup

/-! ## Runs with one slot -/

/-- How far a scan of the resources in their order has come in this state. -/
structure Setup.InOrder (su : Setup) (s : State) : Prop where
  loads : s.loads <+: su.resources
  events : s.events <+: su.eventsInOrder
  /-- Before the scan is closed there is a step. -/
  goesOn : s.dispatcher.isClosed = false → ∃ a, a ≠ .cancel ∧ (step su s a).isSome = true
  allLoads : s.dispatcher.isClosed = true → s.loads = su.resources
  allEvents : s.dispatcher.isClosed = true → s.events = su.eventsInOrder
  completed : s.dispatcher.isClosed = true → s.outcome su = .completed (s.unused su)

/-- With one slot every run that nobody cancels takes the resources in their order. -/
theorem Setup.inOrder {actions : List Action} (single : su.limit = 1)
    (run : follow su (State.initial su false) actions = some s) (never : .cancel ∉ actions) :
    su.InOrder s := by
  have admission := Admission.follow run
  have active : s.cancelled = false := cancelled_follow run never
  have books := Ledger.of_follow run
  have slot := OneSlot.of_follow single run
  have inside : s.counters.completed ≤ su.total := by
    rw [← books.length_eq]
    exact books.length_le admission
  constructor
  case loads => exact slot.loads
  case events =>
    rw [← su.eventsUpTo_total]
    refine List.IsPrefix.trans ?_ (su.eventsUpTo_prefix inside)
    rw [← slot.reported]
    exact List.prefix_append _ _
  case goesOn =>
    intro running
    exact ⟨choose .never s, choose_never_ne_cancel s,
      step_choose_isSome admission (Nat.le_of_eq single.symm) running⟩
  case allLoads =>
    intro closed
    have joined := Dispatcher.isJoined_of_isClosed closed
    have started := slot.started active
    rw [admission.joined joined, admission.submitted_eq joined active] at started
    exact slot.loads.eq_of_length started
  case allEvents =>
    intro closed
    have joined := Dispatcher.isJoined_of_isClosed closed
    have ended := admission.joined joined
    rw [slot.events_eq ended, books.completed_eq ended active, admission.submitted_eq joined active,
      su.eventsUpTo_total]
  case completed => exact outcome_of_closed admission active

/-! ## Scans of sources -/

variable {source : Source} {audio : Int32 → Option String} {config : Config} {processors : Nat}

/-- The program's own scan is one that takes the resources in their order. -/
theorem run_eq_inOrder (single : su.limit = 1)
    (starts : Setup.ofConfig source audio processors config = .ok su) :
    ∃ unused, run source audio processors config .never =
      ⟨.ok (.completed unused), su.resources, su.eventsInOrder, false⟩ := by
  obtain ⟨actions, follows, never, -⟩ := follow_drive su (State.initial su false)
  have closed := drive_closed (Admission.initial su false) (Nat.le_of_eq single.symm)
  have order := Setup.inOrder single follows never
  have active : (drive su .never (State.initial su false)).cancelled = false :=
    cancelled_follow follows never
  refine ⟨(drive su .never (State.initial su false)).unused su, ?_⟩
  rw [run, starts]
  show Run.mk (.ok (State.outcome su (drive su .never (State.initial su false))))
    (drive su .never (State.initial su false)).loads
    (drive su .never (State.initial su false)).events
    (drive su .never (State.initial su false)).cancelled = _
  rw [order.completed closed, order.allLoads closed, order.allEvents closed, active]

/-- **With one slot a scan is a loop over the resources.**  Whatever a store lists and answers
job by job, every run that nobody cancels is finite, can go on until the scan is closed, and
takes the resources in their order: at any time the loads and the events are the first ones
of the loop, and all of them when the scan is closed.  The events are one for each number of
jobs that is a multiple of the interval or that of all jobs, with the last resource and the
number of candidates that the jobs so far have named, which never decreases.  If a store can
be listed, then the resources are the listings of the kinds in the order of the
configuration, and the program's own scan is one of these. -/
theorem one_slot_is_sequential (one : config.concurrencyLimit = 1) :
    (∀ su : Setup, su.Conforms config processors →
      (∀ actions s, follow su (State.initial su false) actions = some s → .cancel ∉ actions →
        actions.length ≤ remaining su (State.initial su false) ∧ su.InOrder s) ∧
      (su.eventsInOrder.map Progress.removed).Pairwise (· ≤ ·)) ∧
    ∀ (source : Source) (audio : Int32 → Option String) (listing : Kind → List Identity)
      (targets : List Identity), config.validate = .ok () →
      (∀ kind ∈ config.scannable, source.list kind = .ok (listing kind)) →
      source.list config.target = .ok targets →
      ∃ su, Setup.ofConfig source audio processors config = .ok su ∧
        su.Conforms config processors ∧ su.resources = config.scannable.flatMap listing ∧
        su.targets = targets ∧ su.load = (fun _ => source.load) ∧ su.audio = audio ∧
        ∃ unused, run source audio processors config .never =
          ⟨.ok (.completed unused), su.resources, su.eventsInOrder, false⟩ := by
  have single {su : Setup} (conforms : su.Conforms config processors) : su.limit = 1 := by
    rw [conforms.limit, Config.effectiveConcurrency, one]
    rfl
  constructor
  · intro su conforms
    refine ⟨?_, su.removed_eventsInOrder⟩
    intro actions s follows never
    have finite := length_add_remaining_le follows
    exact ⟨by omega, Setup.inOrder (single conforms) follows never⟩
  · intro source audio listing targets valid listed targetListed
    have starts := ofConfig_eq_ok valid listed targetListed audio processors Script.literal
    have conforms := Setup.conforms_of_ofConfig starts
    exact ⟨_, starts, conforms, rfl, rfl, rfl, rfl, run_eq_inOrder (single conforms) starts⟩

/-- A source with two sounds and three creatures, of which the first two refer to one of the
sounds and the third one is lost. -/
def choirSource : Source where
  list kind :=
    if kind = ⟨"WAV"⟩ then .ok [⟨"One", ⟨"WAV"⟩⟩, ⟨"Two", ⟨"WAV"⟩⟩]
    else .ok [⟨"imp", ⟨"CRE"⟩⟩, ⟨"elf", ⟨"CRE"⟩⟩, ⟨"ogre", ⟨"CRE"⟩⟩]
  load r :=
    if r.name = "ogre" then .error (.notFound r)
    else .ok (.structured ⟨[.resourceRef ⟨"WAV"⟩ "two"]⟩)
  label? _ := none

/-- The sound that is named twice is struck off once, and the end is reported though it is no
multiple of two. -/
theorem one_slot_is_sequential_choir :
    (run choirSource (fun _ => none) 4 ⟨⟨"WAV"⟩, [⟨"CRE"⟩], 1, 2, false⟩ .never).loads =
        [⟨"imp", ⟨"CRE"⟩⟩, ⟨"elf", ⟨"CRE"⟩⟩, ⟨"ogre", ⟨"CRE"⟩⟩] ∧
      (run choirSource (fun _ => none) 4 ⟨⟨"WAV"⟩, [⟨"CRE"⟩], 1, 2, false⟩ .never).events =
        [⟨2, 3, 1, some ⟨"elf", ⟨"CRE"⟩⟩⟩, ⟨3, 3, 1, some ⟨"ogre", ⟨"CRE"⟩⟩⟩] := by
  obtain ⟨-, ofSources⟩ := @one_slot_is_sequential ⟨⟨"WAV"⟩, [⟨"CRE"⟩], 1, 2, false⟩ 4 rfl
  obtain ⟨su, starts, -, -, -, -, -, unused, shown⟩ := ofSources choirSource (fun _ => none)
    (fun _ => [⟨"imp", ⟨"CRE"⟩⟩, ⟨"elf", ⟨"CRE"⟩⟩, ⟨"ogre", ⟨"CRE"⟩⟩])
    [⟨"One", ⟨"WAV"⟩⟩, ⟨"Two", ⟨"WAV"⟩⟩] rfl
    (by intro kind scannable; rw [List.mem_singleton.mp scannable]; rfl) rfl
  cases starts
  rw [shown]
  exact ⟨rfl, rfl⟩

end Scan
end Unreferenced
