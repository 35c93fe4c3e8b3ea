import Unreferenced.Proofs.Scan.Cancelled
import Unreferenced.Proofs.Scan.OneSlot

/-!
# Cancelling during a load

A task looks at the token after its load only if the load succeeds.  If the resource
does not load, the failure is counted and the job is completed, cancelled or not.  So
after a cancellation the jobs still to be completed are those that had begun to count,
and those that were to load a resource and do not get it (`surviving_follow`).

With one slot and a token that is cancelled during a load this leaves one job in
question, the one that loads.  Nothing else is loaded, struck off or completed; the job
itself leaves no trace if its resource loads, and is completed and reported as usual if
it does not (`StoppedAt`).
-/

namespace Unreferenced
namespace Scan

variable {su : Setup} {s mid after : State} {done : List Nat} {number : Nat} {job : Job}
  {phase : Phase} {next? : Option Phase}

/-! ## Jobs that survive a cancellation -/

/-- Whether a task at this phase completes its job although the token is cancelled, given
whether its resource cannot be loaded. -/
def Phase.survives (lost : Bool) : Phase → Bool
  | .cleared | .loading => lost
  | phase => phase.isBound

/-- How often the job of a number is completed or survives. -/
def Account.surviving (su : Setup) (n : Nat) : Account where
  booked number phase :=
    if phase.survives (su.content? number).isNone then (number == n).toNat else 0
  final number := (number == n).toNat

/-- While the token is cancelled a job that survives is completed in the end, and no other
one is. -/
theorem Moves.surviving (known : Known su number job phase)
    (moves : Moves su s number job phase mid next?) (cancelled : s.cancelled = true) (n : Nat) :
    (Account.surviving su n).after number phase next? =
      (Account.surviving su n).booked number phase := by
  cases moves with
  | clear active | extract active | pass active =>
    rw [cancelled] at active
    cases active
  | load given =>
    simp [Account.surviving, tally, Phase.survives, Phase.isBound, known.content?_eq, given,
      Except.toOption]
  | fail given =>
    simp [Account.surviving, tally, Phase.survives, Phase.isBound, known.content?_eq, given,
      Except.toOption]
  | _ => simp [Account.surviving, tally, Phase.survives, Phase.isBound]

/-- After a cancellation exactly the jobs that survive it are completed. -/
theorem surviving_follow {actions : List Action} (books : Ledger su done s)
    (admission : Admission su s) (cancelled : s.cancelled = true)
    (run : follow su s actions = some after) (n : Nat) :
    (Account.surviving su n).total (done ++ completions su s actions) after.tasks =
      (Account.surviving su n).total done s.tasks := by
  refine (follow_keeps_completions (P := fun done' x => (Ledger su done' x ∧ Admission su x) ∧
    x.cancelled = true ∧ (Account.surviving su n).total done' x.tasks =
      (Account.surviving su n).total done s.tasks) ?_
    ⟨⟨books, admission⟩, cancelled, rfl⟩ run).2.2
  rintro done' x y a ⟨⟨books, admission⟩, stopped, earlier⟩ taken
  refine ⟨⟨books.step admission taken, admission.step taken⟩, cancelled_of_step taken stopped, ?_⟩
  rw [← earlier]
  cases a with
  | dispatch =>
    rw [(tasks_stepDispatcher taken stopped).1]
    exact congrArg (fun done' => Account.total _ done' _) (List.append_nil done')
  | work place pick =>
    obtain ⟨t, mid, next?, found, moves, rfl⟩ := stepTask_cases taken
    have own := moves.surviving (books.known t (List.mem_of_getElem? found)) stopped n
    have tasks := moves.frame.2.2.2
    rw [State.closes, found]
    rw [← tasks] at found
    have exchanged := (Account.surviving su n).total_moveOn found done' next?
    rw [tasks] at exchanged
    show (Account.surviving su n).total (done' ++ t.phase.closes t.number) _ = _
    omega
  | cancel =>
    obtain ⟨-, rfl⟩ := step_cancel_iff.mp taken
    exact congrArg (fun done' => Account.total _ done' _) (List.append_nil done')

/-- Whether a task completes its job although the token is cancelled. -/
def Task.survives (su : Setup) (t : Task) : Bool :=
  t.phase.survives (su.content? t.number).isNone

theorem tally_surviving (su : Setup) (n : Nat) (tasks : List Task) :
    tally (fun t => (Account.surviving su n).booked t.number t.phase) tasks =
      ((tasks.filter (Task.survives su)).map Task.number).count n := by
  induction tasks with
  | nil => rfl
  | cons t rest ih =>
    have own : (Account.surviving su n).booked t.number t.phase =
        if t.survives su then (t.number == n).toNat else 0 := rfl
    rw [tally, ih, own, List.filter_cons]
    cases t.survives su with
    | false => exact Nat.zero_add _
    | true =>
      rw [if_pos rfl, if_pos rfl, List.map_cons, List.count_cons, Nat.add_comm]
      cases t.number == n <;> rfl

/-- In the end of a scan that is cancelled, the jobs completed are those completed before
and those that survive. -/
theorem completions_perm_of_cancelled {cancelled : Bool} {earlier later : List Action}
    (first : follow su (State.initial su cancelled) earlier = some mid)
    (active : mid.cancelled = false) (run : follow su mid (.cancel :: later) = some s)
    (ended : s.tasks = []) :
    (completions su (State.initial su cancelled) (earlier ++ .cancel :: later)).Perm
      (completions su (State.initial su cancelled) earlier ++
        (mid.tasks.filter (Task.survives su)).map Task.number) := by
  have books := Ledger.of_follow first
  have admission := Admission.follow first
  have taken : step su mid .cancel = some { mid with cancelled := true } :=
    step_cancel_iff.mpr ⟨active, rfl⟩
  rw [completions_append first, completions_cons taken]
  rw [follow_cons, taken, Option.bind_some] at run
  generalize completions su (State.initial su cancelled) earlier = done at books ⊢
  refine List.perm_iff_count.mpr ?_
  intro n
  have kept := surviving_follow (books.step admission taken) (admission.step taken) rfl run n
  rw [Ledger.total_of_ended _ ended, Account.total, tally_surviving, Account.surviving,
    tally_eq_count, tally_eq_count] at kept
  have booked : (done ++ (mid.tasks.filter (Task.survives su)).map Task.number).count n =
      done.count n + ((mid.tasks.filter (Task.survives su)).map Task.number).count n :=
    List.count_append
  rw [booked]
  simpa only [State.closes, List.append_nil, List.nil_append] using kept

/-! ## One slot, cancelled during a load -/

/-- A run whose token is cancelled while the job of this number loads its resource, with
the state `mid` at that moment. -/
structure Interruption (su : Setup) (n : Nat) (earlier later : List Action) (mid s : State) :
    Prop where
  first : follow su (State.initial su false) earlier = some mid
  active : mid.cancelled = false
  nth : mid.loads.length = n + 1
  loading : ∃ t ∈ mid.tasks, t.phase.isLoading = true
  run : follow su mid (.cancel :: later) = some s

/-- How a scan with one slot ends when its token is cancelled during the load of the job
of this number. -/
structure StoppedAt (su : Setup) (n : Nat) (s : State) : Prop where
  outcome : s.outcome su = .cancelled
  /-- The resources up to that one were loaded, in order. -/
  loads : s.loads = su.resources.take (n + 1)
  /-- The candidates struck off are those that the jobs before it refer to. -/
  candidates : ∀ c, c ∈ s.candidates.members.members ↔
    c ∈ (CandidateSet.seed su.target su.targets).members.members ∧
      ∀ m < n, ∀ found, su.found? m = some found → found.references.contains c = false
  /-- If its resource loads, the job is not completed and its event is not sent. -/
  loaded : (su.content? n).isSome = true →
    s.counters.completed = n ∧ s.events = su.eventsUpTo n
  /-- If its resource does not load, the job is completed as if nothing had happened. -/
  lost : su.content? n = none →
    s.counters.completed = n + 1 ∧ s.events = su.eventsUpTo (n + 1)

/-- During a load of a scan with one slot, all jobs before are completed. -/
theorem OneSlot.during_load (h : OneSlot su done s) (single : su.limit = 1)
    (admission : Admission su s) (active : s.cancelled = false) {n : Nat}
    (nth : s.loads.length = n + 1) {t : Task} (member : t ∈ s.tasks)
    (loading : t.phase.isLoading = true) :
    s.tasks = [t] ∧ t.number = n ∧ t.phase = .loading ∧ s.counters.completed = n := by
  obtain ⟨place, found⟩ := List.mem_iff_getElem?.mp member
  have only := (admission.tasks_eq single found).1
  have started := h.started active
  have latest := h.latest t member
  have placed := h.placed t member
  rw [only, tally, tally, nth] at started
  obtain ⟨number, job, phase⟩ := t
  cases phase with
  | loading =>
    have completed : s.counters.completed = number := placed
    have submitted : n + 1 = s.submitted := started
    have latest : number + 1 = s.submitted := latest
    have same : number = n := by omega
    exact ⟨only, same, rfl, completed.trans same⟩
  | _ => cases loading

variable {n : Nat} {earlier later : List Action}

/-- The run from its beginning. -/
theorem Interruption.whole (h : Interruption su n earlier later mid s) :
    follow su (State.initial su false) (earlier ++ .cancel :: later) = some s := by
  rw [follow_append, h.first]
  exact h.run

/-- What follows the cancellation. -/
theorem Interruption.run_cancelled (h : Interruption su n earlier later mid s) :
    follow su { mid with cancelled := true } later = some s := by
  have run := h.run
  rwa [follow_cons, step_cancel_iff.mpr ⟨h.active, rfl⟩, Option.bind_some] at run

/-- The job that loads is the only one in hand, and all jobs before are completed. -/
theorem Interruption.exists_task (h : Interruption su n earlier later mid s)
    (single : su.limit = 1) :
    ∃ t, mid.tasks = [t] ∧ t.number = n ∧ t.phase = .loading ∧ mid.counters.completed = n := by
  obtain ⟨t, member, loading⟩ := h.loading
  exact ⟨t, (OneSlot.of_follow single h.first).during_load single (Admission.follow h.first)
    h.active h.nth member loading⟩

/-- In the end the jobs before are completed, and the one that loads if its resource is
lost. -/
theorem Interruption.completed_eq (h : Interruption su n earlier later mid s)
    (single : su.limit = 1) (ended : s.tasks = []) :
    s.counters.completed = n + if (su.content? n).isNone then 1 else 0 := by
  have slot := OneSlot.of_follow single h.first
  have slot' := OneSlot.of_follow single h.whole
  obtain ⟨t, only, rfl, loading, before⟩ := h.exists_task single
  have perm := completions_perm_of_cancelled h.first h.active h.run ended
  rw [slot'.order, slot.order, before, only] at perm
  have length := perm.length_eq
  rw [List.length_append, List.length_range, List.length_range, List.filter_singleton,
    Task.survives, loading] at length
  rw [length, Phase.survives]
  cases (su.content? t.number).isNone <;> rfl

/-- No load is started after the one that is interrupted. -/
theorem Interruption.loads_eq (h : Interruption su n earlier later mid s)
    (single : su.limit = 1) (ended : s.tasks = []) : s.loads = su.resources.take (n + 1) := by
  obtain ⟨t, only, -, loading, -⟩ := h.exists_task single
  have none_starting : State.starting { mid with cancelled := true } = 0 := by
    rw [State.starting, only, tally, loading]
    rfl
  have none_left : s.starting = 0 := by
    rw [State.starting, ended]
    rfl
  have kept := loads_follow rfl h.run_cancelled
  rw [none_starting, none_left] at kept
  have length : s.loads.length = n + 1 := kept.trans h.nth
  rw [List.prefix_iff_eq_take.mp (OneSlot.of_follow single h.whole).loads, length]

/-- The scan has no result, for the last look of the dispatcher is still to come. -/
theorem Interruption.outcome_eq (h : Interruption su n earlier later mid s) :
    s.outcome su = .cancelled := by
  refine outcome_of_not_completed (not_completed_of_cancelled rfl ?_ h.run_cancelled)
  show mid.dispatcher.isClosed = false
  cases finished : mid.dispatcher.isClosed with
  | false => rfl
  | true =>
    obtain ⟨t, member, -⟩ := h.loading
    rw [(Admission.follow h.first).joined (Dispatcher.isJoined_of_isClosed finished)] at member
    cases member

/-- However the scan goes on, it ends as described. -/
theorem Interruption.stoppedAt (h : Interruption su n earlier later mid s)
    (single : su.limit = 1) (closed : s.dispatcher.isClosed = true) : StoppedAt su n s := by
  have ended := (Admission.follow h.whole).joined (Dispatcher.isJoined_of_isClosed closed)
  have slot := OneSlot.of_follow single h.whole
  have completed := h.completed_eq single ended
  have reported := slot.events_eq ended
  constructor
  case outcome => exact h.outcome_eq
  case loads => exact h.loads_eq single ended
  case candidates =>
    intro c
    rw [slot.mem_candidates_iff (Ledger.of_follow h.whole) ended, completed]
    cases content : su.content? n with
    | some content => simp
    | none =>
      -- The job is completed, but there is nothing that it could refer to.
      have nothing : su.found? n = none := by
        rw [Setup.found?, content]
        rfl
      rw [Option.isNone_none, if_pos rfl, Nat.forall_lt_succ_right]
      simp [nothing]
  case loaded =>
    intro loads
    rw [reported, completed, Option.isNone_eq_false_iff.mpr loads]
    exact ⟨rfl, rfl⟩
  case lost =>
    intro lost
    rw [reported, completed, lost]
    exact ⟨rfl, rfl⟩

/-! ## The fixed schedule -/

/-- The fixed schedule with one slot comes to the load of every job, and then it
cancels. -/
theorem exists_interruption (single : su.limit = 1) (inside : n < su.total)
    (before : List Action) (first : follow su (State.initial su false) before = some s)
    (active : s.cancelled = false)
    (early : s.loads.length ≤ n ∨
      s.loads.length = n + 1 ∧ ∃ t ∈ s.tasks, t.phase.isLoading = true) :
    ∃ earlier later mid,
      Interruption su n earlier later mid (drive su (.duringLoad (n + 1)) s) := by
  fun_induction drive su (.duringLoad (n + 1)) s generalizing before with
  | case1 s after taken ih =>
    cases now : (Cancellation.duringLoad (n + 1)).isNow s with
    | true =>
      have nth : s.loads.length = n + 1 := by
        rw [Cancellation.isNow, Bool.and_eq_true, beq_iff_eq] at now
        exact now.2
      obtain few | ⟨-, loading⟩ := early
      · omega
      · rw [choose, if_pos now] at taken
        obtain ⟨later, run, -⟩ := exists_follow_drive su (.duringLoad (n + 1)) after
        refine ⟨before, later, s, first, active, nth, loading, ?_⟩
        rw [follow_cons, taken]
        exact run
    | false =>
      have few : s.loads.length ≤ n := by
        obtain few | ⟨nth, -⟩ := early
        · exact few
        · simp [Cancellation.isNow, active, nth] at now
      have as_never : choose (.duringLoad (n + 1)) s = choose .never s := by
        rw [choose, choose, now]
        rfl
      refine ih (before ++ [choose (.duringLoad (n + 1)) s]) ?_ ?_ ?_
      · rw [follow_append, first, Option.bind_some, follow_cons, taken]
        rfl
      · rw [cancelled_step taken (by rw [as_never]; exact choose_never_ne_cancel s), active]
      · rcases loads_step taken with same | ⟨t, -, -, -, started, loading⟩
        · rw [same]
          exact .inl few
        · rw [started, List.length_append, List.length_singleton]
          rcases Nat.lt_or_eq_of_le few with less | last
          · exact .inl less
          · exact .inr ⟨congrArg Nat.succ last, loading⟩
  | case2 s stuck =>
    -- A scan that has ended without being cancelled has made all loads.
    have admission := Admission.follow first
    have joined := Dispatcher.isJoined_of_isClosed
      (closed_of_stuck admission (Nat.le_of_eq single.symm) stuck)
    have ended := admission.joined joined
    have started := (OneSlot.of_follow single first).started active
    rw [ended, tally, Nat.add_zero, admission.submitted_eq joined active] at started
    obtain few | ⟨-, t, member, -⟩ := early
    · omega
    · rw [ended] at member
      cases member

/-- A scan with one slot that is to be cancelled during a load is, and ends as
described. -/
theorem run_duringLoad {source : Source} {audio : Int32 → Option String} {processors : Nat}
    {config : Config} (one : config.concurrencyLimit = 1)
    (starts : Setup.ofConfig source audio processors config = .ok su) (inside : n < su.total) :
    ∃ earlier later mid s, Interruption su n earlier later mid s ∧
      s.dispatcher.isClosed = true ∧ StoppedAt su n s ∧
      Scan.run source audio processors config (.duringLoad (n + 1)) =
        ⟨.ok .cancelled, s.loads, s.events, true⟩ := by
  have single : su.limit = 1 := by
    rw [(Setup.conforms_of_ofConfig starts).limit, Config.effectiveConcurrency, one]
    rfl
  obtain ⟨earlier, later, mid, interruption⟩ :=
    exists_interruption single inside [] rfl rfl (.inl (Nat.zero_le n))
  have closed := isClosed_drive (.duringLoad (n + 1)) (Admission.initial su false)
    (Nat.le_of_eq single.symm)
  have stopped := interruption.stoppedAt single closed
  have cancelled := cancelled_of_follow rfl interruption.run_cancelled
  refine ⟨earlier, later, mid, _, interruption, closed, stopped, ?_⟩
  rw [Scan.run, starts]
  show Run.mk (.ok (State.outcome su (drive su (.duringLoad (n + 1)) (State.initial su false))))
    _ _ (drive su (.duringLoad (n + 1)) (State.initial su false)).cancelled = _
  rw [stopped.outcome, cancelled]
  rfl

/-- **Cancelling during a load, with one slot.**  Let the token be cancelled while the job
of a number loads its resource, whatever the dispatcher does meanwhile.  Then the scan
comes to its end and is cancelled, the loads made are those of the resources up to that
one, and the candidates struck off are those that the jobs before it refer to.  The job
itself is not completed and the events are those due before it exactly if its resource
loads; a resource that does not load is completed and reported as if the token were not
cancelled.  The fixed schedule is one of these runs, for every job there is. -/
theorem cancelled_during_load {config : Config} {processors : Nat} {su : Setup}
    (conforms : su.Conforms config processors) (one : config.concurrencyLimit = 1) {n : Nat}
    (inside : n < su.total) :
    (∀ earlier later mid s, Interruption su n earlier later mid s →
      later.length < remaining su mid ∧
      (s.dispatcher.isClosed = false → ∃ a, a ≠ .cancel ∧ (step su s a).isSome = true) ∧
      (s.dispatcher.isClosed = true → StoppedAt su n s)) ∧
    ∀ source audio, Setup.ofConfig source audio processors config = .ok su →
      ∃ earlier later mid s, Interruption su n earlier later mid s ∧
        s.dispatcher.isClosed = true ∧ StoppedAt su n s ∧
        Scan.run source audio processors config (.duringLoad (n + 1)) =
          ⟨.ok .cancelled, s.loads, s.events, true⟩ := by
  have single : su.limit = 1 := by
    rw [conforms.limit, Config.effectiveConcurrency, one]
    rfl
  refine ⟨?_, fun source audio starts => run_duringLoad one starts inside⟩
  intro earlier later mid s interruption
  refine ⟨?_, ?_, interruption.stoppedAt single⟩
  · have finite := length_add_remaining_le interruption.run
    rw [List.length_cons] at finite
    omega
  · intro running
    exact ⟨choose .never s, choose_never_ne_cancel s,
      step_choose_isSome (Admission.follow interruption.whole) (Nat.le_of_eq single.symm) running⟩

/-- A source with two creatures: the first one refers to a sound, the second one is
lost. -/
def ruinSource : Source where
  list kind :=
    if kind = ⟨"WAV"⟩ then .ok [⟨"One", ⟨"WAV"⟩⟩]
    else .ok [⟨"imp", ⟨"CRE"⟩⟩, ⟨"ogre", ⟨"CRE"⟩⟩]
  load r :=
    if r.name = "imp" then .ok (.structured ⟨[.resourceRef ⟨"WAV"⟩ "one"]⟩)
    else .error (.notFound r)
  label? _ := none

/-- The setup of a scan of this source with one slot. -/
def Setup.ruin : Setup where
  load _ := ruinSource.load
  audio _ := none
  target := ⟨"WAV"⟩
  resources := [⟨"imp", ⟨"CRE"⟩⟩, ⟨"ogre", ⟨"CRE"⟩⟩]
  targets := [⟨"One", ⟨"WAV"⟩⟩]
  limit := 1
  interval := 1

/-- If the token is cancelled during the first load, the job leaves no trace. -/
theorem cancelled_during_load_ruin :
    Setup.ruin.Conforms ⟨⟨"WAV"⟩, [⟨"CRE"⟩], 1, 1, false⟩ 4 ∧ 0 < Setup.ruin.total ∧
      ∃ earlier later mid s, Interruption Setup.ruin 0 earlier later mid s ∧
        StoppedAt Setup.ruin 0 s ∧ s.counters.completed = 0 ∧ s.events = [] ∧
        Scan.run ruinSource (fun _ => none) 4 ⟨⟨"WAV"⟩, [⟨"CRE"⟩], 1, 1, false⟩ (.duringLoad 1) =
          ⟨.ok .cancelled, s.loads, s.events, true⟩ := by
  have conforms : Setup.ruin.Conforms ⟨⟨"WAV"⟩, [⟨"CRE"⟩], 1, 1, false⟩ 4 := ⟨rfl, rfl, rfl⟩
  have inside : 0 < Setup.ruin.total := by decide
  obtain ⟨whatever, runs⟩ := cancelled_during_load conforms rfl inside
  obtain ⟨earlier, later, mid, s, interruption, closed, -, run⟩ :=
    runs ruinSource (fun _ => none) rfl
  have stopped := (whatever earlier later mid s interruption).2.2 closed
  obtain ⟨completed, events⟩ := stopped.loaded (by decide +kernel)
  exact ⟨conforms, inside, earlier, later, mid, s, interruption, stopped, completed, events, run⟩

/-- If the token is cancelled during the second load, the lost resource is reported as
completed all the same, after the one event that is due before it. -/
theorem lost_resource_completed_when_cancelled :
    Scan.run ruinSource (fun _ => none) 4 ⟨⟨"WAV"⟩, [⟨"CRE"⟩], 1, 1, false⟩ (.duringLoad 2) =
        ⟨.ok .cancelled, Setup.ruin.resources, Setup.ruin.eventsUpTo 2, true⟩ ∧
      (Setup.ruin.eventsUpTo 2).map Progress.completed = [1, 2] ∧
      (Setup.ruin.eventsUpTo 1).map Progress.completed = [1] := by
  have starts : Setup.ofConfig ruinSource (fun _ => none) 4
      ⟨⟨"WAV"⟩, [⟨"CRE"⟩], 1, 1, false⟩ = .ok Setup.ruin := rfl
  obtain ⟨-, -, -, s, -, -, stopped, run⟩ := run_duringLoad rfl starts (n := 1) (by decide)
  refine ⟨?_, by decide +kernel, by decide +kernel⟩
  rw [run, stopped.loads, (stopped.lost (by decide +kernel)).2]
  rfl

end Scan
end Unreferenced
