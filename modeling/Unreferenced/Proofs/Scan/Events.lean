import Mathlib.Order.Interval.Finset.Nat
import Unreferenced.Proofs.Scan.AllOrNothing

/-!
# Events of a scan

A completion takes its number in one step; the candidates struck off are read and the
event is sent in later ones, while other tasks go on.  Still no number is skipped or
sent twice, because each number that is due and not yet sent is in the hands of one
task (`Broadcast.counted`), and an event tells of the job that took its number
(`Tells`).

When the last number is taken every job is completed, so nothing can be struck off any
more and the event of that number has the final count (`Ledger.removed_step`).
-/

namespace Unreferenced
namespace Scan

variable {su : Setup} {s mid after : State} {done : List Nat} {number : Nat} {job : Job}
  {phase : Phase} {next? : Option Phase}

/-! ## What the completed jobs amount to -/

theorem le_tally_of_mem {α : Type} (f : α → Nat) {l : List α} {x : α} (member : x ∈ l) :
    f x ≤ tally f l := by
  obtain ⟨place, found⟩ := List.mem_iff_getElem?.mp member
  rw [← tally_eraseIdx f found]
  exact Nat.le_add_left _ _

theorem tally_one (l : List Nat) : tally (fun _ => 1) l = l.length := by
  induction l with
  | nil => rfl
  | cons x l ih => rw [tally, ih, List.length_cons, Nat.add_comm]

namespace Ledger

/-- The number of completions is that of the jobs completed. -/
theorem length_eq (h : Ledger su done s) : done.length = s.counters.completed := by
  have completed := h.completed
  have nothing : tally (fun t => Account.completions.booked t.number t.phase) s.tasks = 0 :=
    (tally_eq_zero_iff _ _).mpr fun _ _ => rfl
  rw [Account.total, nothing, Nat.add_zero] at completed
  rw [← completed, ← tally_one]
  rfl

theorem toFinset_subset (h : Ledger su done s) (admission : Admission su s) :
    done.toFinset ⊆ Finset.range su.total := by
  intro n member
  exact Finset.mem_range.mpr
    (Nat.lt_of_lt_of_le (h.lt_of_mem (List.mem_toFinset.mp member)) admission.inside)

theorem length_le (h : Ledger su done s) (admission : Admission su s) :
    done.length ≤ su.total := by
  have card := Finset.card_le_card (h.toFinset_subset admission)
  rwa [List.toFinset_card_of_nodup h.nodup, Finset.card_range] at card

/-- If as many jobs are completed as there are resources, then all of them are. -/
theorem mem_of_all (h : Ledger su done s) (admission : Admission su s)
    (all : su.total ≤ done.length) {n : Nat} (inside : n < su.total) : n ∈ done := by
  have same : done.toFinset = Finset.range su.total := by
    refine Finset.eq_of_subset_of_card_le (h.toFinset_subset admission) ?_
    rwa [List.toFinset_card_of_nodup h.nodup, Finset.card_range]
  rw [← List.mem_toFinset, same, Finset.mem_range]
  exact inside

/-- Once all jobs are completed, no task stands for one. -/
theorem not_takenUp (h : Ledger su done s) (admission : Admission su s)
    (all : su.total ≤ done.length) {t : Task} (member : t ∈ s.tasks) :
    (Account.takenUp t.number).booked t.number t.phase = 0 := by
  have once := h.count_add_le t.number
  have booked := le_tally_of_mem
    (fun u => (Account.takenUp t.number).booked u.number u.phase) member
  by_cases submitted : t.number < s.submitted
  · have completed := List.count_pos_iff.mpr
      (h.mem_of_all admission all (Nat.lt_of_lt_of_le submitted admission.inside))
    rw [decide_eq_true submitted, Bool.toNat_true] at once
    omega
  · rw [decide_eq_false submitted, Bool.toNat_false] at once
    omega

end Ledger

/-- Only a task that has struck a candidate off counts it. -/
theorem Moves.removed_cases (moves : Moves su s number job phase mid next?) :
    mid.counters.removed = s.counters.removed ∨ ∃ rest, phase = .struck rest := by
  cases moves with
  | @countRemoved rest => exact .inr ⟨rest, rfl⟩
  | _ => exact .inl rfl

/-- Once all jobs are completed, no task counts a candidate as struck off. -/
theorem Ledger.removed_step (h : Ledger su done s) (admission : Admission su s)
    (all : su.total ≤ done.length) {t : Task} (member : t ∈ s.tasks)
    (moves : Moves su s t.number t.job t.phase mid next?) :
    mid.counters.removed = s.counters.removed := by
  rcases moves.removed_cases with same | ⟨rest, struck⟩
  · exact same
  · have idle := h.not_takenUp admission all member
    rw [struck] at idle
    simp [Account.takenUp] at idle

/-! ## Numbers that are reported -/

/-- Whether a completion has taken place and is reported. -/
def Setup.isReported (su : Setup) (completed k : Nat) : Bool :=
  decide (1 ≤ k ∧ k ≤ completed) && su.isDue k

theorem Setup.isReported_succ (su : Setup) (completed k : Nat) :
    (su.isReported (completed + 1) k).toNat =
      (su.isReported completed k).toNat + (completed + 1 == k && su.isDue k).toNat := by
  rw [isReported, isReported]
  cases su.isDue k with
  | false => simp
  | true =>
    rcases Nat.lt_trichotomy k (completed + 1) with less | rfl | more
    · simp [Nat.le_of_lt_succ less, Nat.le_of_lt less, Nat.ne_of_gt less]
    · simp
    · have different : (completed + 1 == k) = false := beq_false_of_ne (Nat.ne_of_lt more)
      simp [Nat.not_le.mpr more, Nat.not_le.mpr (Nat.lt_of_succ_lt more), different]

/-- How many events of this number a task at this phase is about to send. -/
def Phase.announces (k : Nat) : Phase → Nat
  | .due number => (number == k).toNat
  | .reporting event => (event.completed == k).toNat
  | _ => 0

/-- How many events of this number were sent. -/
def State.sent (s : State) (k : Nat) : Nat := (s.events.map Progress.completed).count k

theorem Moves.announced (moves : Moves su s number job phase mid next?) (k : Nat) :
    mid.sent k + next?.elim 0 (Phase.announces k) +
        (su.isReported s.counters.completed k).toNat =
      s.sent k + phase.announces k + (su.isReported mid.counters.completed k).toNat := by
  cases moves with
  | finishDue due =>
    have one_more := su.isReported_succ s.counters.completed k
    have taken : (s.counters.completed + 1 == k && su.isDue k) = (s.counters.completed + 1 == k) := by
      cases same : s.counters.completed + 1 == k with
      | false => rfl
      | true => rw [← beq_iff_eq.mp same, due, Bool.and_true]
    rw [taken] at one_more
    simp only [State.sent, Phase.announces, Option.elim_some]
    omega
  | finish notDue =>
    have same := su.isReported_succ s.counters.completed k
    have none_taken : (s.counters.completed + 1 == k && su.isDue k) = false := by
      cases same : s.counters.completed + 1 == k with
      | false => rfl
      | true => rw [← beq_iff_eq.mp same, notDue, Bool.and_false]
    rw [none_taken] at same
    simp only [State.sent, Phase.announces, Option.elim_some]
    rw [same]
    rfl
  | @send event =>
    simp only [State.sent, Phase.announces, Option.elim_some, List.map_append, List.map_cons,
      List.map_nil, List.count_append, List.count_singleton]
    cases event.completed == k <;> simp
  | _ => simp only [State.sent, Phase.announces, Option.elim_some, Option.elim_none]

/-! ## What events tell -/

/-- The event of a completion names the resource of the job that took its number, and
the last one has the count of candidates struck off. -/
structure Tells (su : Setup) (done : List Nat) (removed number : Nat) (e : Progress) : Prop where
  total : e.total = su.total
  positive : 1 ≤ e.completed
  completer : done[e.completed - 1]? = some number
  current : e.current? = su.resources[number]?
  last : e.completed = su.total → e.removed = removed

/-- An event stays true while more jobs are completed, if the count of candidates
struck off does not change any more once all are. -/
theorem Tells.mono {removed removed' : Nat} {e : Progress} (h : Tells su done removed number e)
    (more : List Nat) (keeps : su.total ≤ done.length → removed' = removed) :
    Tells su (done ++ more) removed' number e := by
  have inside : e.completed - 1 < done.length := (List.getElem?_eq_some_iff.mp h.completer).1
  refine ⟨h.total, h.positive, ?_, h.current, ?_⟩
  · rw [List.getElem?_append_left inside]
    exact h.completer
  · intro last
    have positive := h.positive
    rw [keeps (by omega)]
    exact h.last last

/-- Only a task that completes its job takes a number, the next one. -/
theorem Moves.due_eq {k : Nat} (moves : Moves su s number job phase mid (some (.due k))) :
    phase = .finishing ∧ k = s.counters.completed + 1 := by
  cases moves
  exact ⟨rfl, rfl⟩

/-- Only a task that has taken a number makes an event. -/
theorem Moves.reporting_eq {e : Progress}
    (moves : Moves su s number job phase mid (some (.reporting e))) :
    mid = s ∧ ∃ k, phase = .due k ∧
      e = ⟨k, su.total, s.counters.removed, some job.resource⟩ := by
  cases moves
  exact ⟨rfl, _, rfl, rfl⟩

/-- An event that is sent was made before. -/
theorem Moves.mem_events {e : Progress} (moves : Moves su s number job phase mid next?)
    (member : e ∈ mid.events) : e ∈ s.events ∨ phase = .reporting e := by
  cases moves with
  | send =>
    rcases List.mem_append.mp member with before | new
    · exact .inl before
    · exact .inr (by rw [List.mem_singleton.mp new])
  | _ => exact .inl member

/-! ## The events of a run -/

/-- Every number that is reported was sent once or is in the hands of one task, and all
events tell what they should. -/
structure Broadcast (su : Setup) (done : List Nat) (s : State) : Prop where
  counted : ∀ k, s.sent k + tally (fun t => t.phase.announces k) s.tasks =
    (su.isReported s.counters.completed k).toNat
  due : ∀ t ∈ s.tasks, ∀ k, t.phase = .due k → 1 ≤ k ∧ done[k - 1]? = some t.number
  reporting : ∀ t ∈ s.tasks, ∀ e, t.phase = .reporting e →
    Tells su done s.counters.removed t.number e
  sent : ∀ e ∈ s.events, ∃ number, Tells su done s.counters.removed number e

theorem Broadcast.initial (su : Setup) (cancelled : Bool) :
    Broadcast su [] (State.initial su cancelled) where
  counted k := by
    cases k <;> rfl
  due := by rintro t ⟨⟩
  reporting := by rintro t ⟨⟩
  sent := by rintro e ⟨⟩

/-- A new task has nothing to say. -/
theorem Broadcast.congr (h : Broadcast su done s) (effects : after.effects = s.effects)
    {new : List Task} (tasks : after.tasks = s.tasks ++ new)
    (fresh : ∀ t ∈ new, t.phase = .submitted) : Broadcast su done after := by
  have counters : after.counters = s.counters := congrArg Effects.counters effects
  have events : after.events = s.events := congrArg Effects.events effects
  have mem_cases {t : Task} (ht : t ∈ after.tasks) : t ∈ s.tasks ∨ t.phase = .submitted := by
    rw [tasks, List.mem_append] at ht
    exact ht.imp_right (fresh t)
  constructor
  case counted =>
    intro k
    have silent : tally (fun t => t.phase.announces k) new = 0 := by
      refine (tally_eq_zero_iff _ _).mpr ?_
      intro t ht
      rw [fresh t ht]
      rfl
    rw [State.sent, events, counters, tasks, tally_append, silent]
    exact h.counted k
  case due =>
    intro t ht k at_due
    rcases mem_cases ht with before | new
    · exact h.due t before k at_due
    · rw [new] at at_due
      cases at_due
  case reporting =>
    intro t ht e at_reporting
    rw [counters]
    rcases mem_cases ht with before | new
    · exact h.reporting t before e at_reporting
    · rw [new] at at_reporting
      cases at_reporting
  case sent =>
    rw [events, counters]
    exact h.sent

/-- A task that moves on takes a number, makes an event of it or sends the event. -/
theorem Broadcast.moveOn {place : Nat} {t : Task} (h : Broadcast su done s)
    (books : Ledger su done s) (admission : Admission su s) (found : s.tasks[place]? = some t)
    (moves : Moves su s t.number t.job t.phase mid next?) :
    Broadcast su (done ++ t.phase.closes t.number) (mid.moveOn place t next?) := by
  have member := List.mem_of_getElem? found
  have known := books.known t member
  have tasks := moves.frame.2.2.2
  obtain ⟨effects, -⟩ := mid.moveOn_frame place t next?
  have counters : (mid.moveOn place t next?).counters = mid.counters :=
    congrArg Effects.counters effects
  have events : (mid.moveOn place t next?).events = mid.events := congrArg Effects.events effects
  -- What is told stays true, because nothing is struck off after the last completion.
  have stays {n : Nat} {e : Progress} (told : Tells su done s.counters.removed n e) :
      Tells su (done ++ t.phase.closes t.number) mid.counters.removed n e :=
    told.mono _ fun all => books.removed_step admission all member moves
  rw [← tasks] at found
  constructor
  case counted =>
    intro k
    have exchanged := tally_moveOn (fun t => t.phase.announces k) found next?
    have own := moves.announced k
    have before := h.counted k
    have same : (next?.elim 0 fun phase => phase.announces k) =
      next?.elim 0 (Phase.announces k) := rfl
    simp only [same, tasks] at exchanged
    rw [State.sent, events, counters]
    rw [State.sent] at own
    omega
  case due =>
    intro u hu k at_due
    rcases mem_tasks_moveOn hu with ⟨phase, rfl, rfl⟩ | hu
    · replace at_due : phase = .due k := at_due
      subst at_due
      obtain ⟨finishing, rfl⟩ := moves.due_eq
      rw [finishing, ← books.length_eq]
      refine ⟨Nat.succ_pos _, ?_⟩
      rw [Nat.add_sub_cancel, Phase.closes, List.getElem?_concat_length]
    · rw [tasks] at hu
      obtain ⟨positive, completer⟩ := h.due u hu k at_due
      rw [List.getElem?_append_left (List.getElem?_eq_some_iff.mp completer).1]
      exact ⟨positive, completer⟩
  case reporting =>
    intro u hu e at_reporting
    rw [counters]
    rcases mem_tasks_moveOn hu with ⟨phase, rfl, rfl⟩ | hu
    · replace at_reporting : phase = .reporting e := at_reporting
      subst at_reporting
      obtain ⟨rfl, k, at_due, rfl⟩ := moves.reporting_eq
      obtain ⟨positive, completer⟩ := h.due t member k at_due
      exact stays ⟨rfl, positive, completer, known.resource.symm, fun _ => rfl⟩
    · rw [tasks] at hu
      exact stays (h.reporting u hu e at_reporting)
  case sent =>
    intro e he
    rw [events] at he
    rw [counters]
    rcases moves.mem_events he with before | made
    · obtain ⟨number, told⟩ := h.sent e before
      exact ⟨number, stays told⟩
    · exact ⟨t.number, stays (h.reporting t member e made)⟩

theorem Broadcast.step {a : Action} (h : Broadcast su done s) (books : Ledger su done s)
    (admission : Admission su s) (taken : step su s a = some after) :
    Broadcast su (done ++ s.closes a) after := by
  cases a with
  | dispatch =>
    show Broadcast su (done ++ []) after
    rw [List.append_nil]
    obtain ⟨effects, -, ⟨tasks, -⟩ | ⟨r, rest, -, -, tasks, -⟩⟩ := stepDispatcher_cases taken
    · exact h.congr effects (tasks.trans (List.append_nil _).symm) (by rintro t ⟨⟩)
    · refine h.congr effects tasks ?_
      intro t ht
      rw [List.mem_singleton.mp ht]
  | work place pick =>
    obtain ⟨t, mid, next?, found, moves, rfl⟩ := stepTask_cases taken
    rw [State.closes, found]
    exact h.moveOn books admission found moves
  | cancel =>
    obtain ⟨-, rfl⟩ := step_cancel_iff.mp taken
    show Broadcast su (done ++ []) _
    rw [List.append_nil]
    exact h.congr rfl (List.append_nil _).symm (by rintro t ⟨⟩)

theorem Broadcast.follow {actions : List Action} (h : Broadcast su done s)
    (books : Ledger su done s) (admission : Admission su s)
    (run : follow su s actions = some after) :
    Broadcast su (done ++ completions su s actions) after :=
  (follow_keeps_completions
    (P := fun done s => Broadcast su done s ∧ Ledger su done s ∧ Admission su s)
    (fun ⟨h, books, admission⟩ taken => ⟨h.step books admission taken,
      books.step admission taken, admission.step taken⟩) ⟨h, books, admission⟩ run).1

/-- The events of a scan after a run. -/
theorem Broadcast.of_follow {cancelled : Bool} {actions : List Action}
    (run : Scan.follow su (State.initial su cancelled) actions = some s) :
    Broadcast su (completions su (State.initial su cancelled) actions) s :=
  (Broadcast.initial su cancelled).follow (Ledger.initial su cancelled)
    (Admission.initial su cancelled) run

/-! ## Milestones -/

/-- The completions that a scan of this many resources reports. -/
def milestones (config : Config) (total : Nat) : Finset Nat :=
  {k ∈ Finset.Icc 1 total | max config.progressInterval 1 ∣ k ∨ k = total}

theorem Setup.isReported_iff {config : Config} {processors : Nat}
    (conforms : su.Conforms config processors) (k : Nat) :
    su.isReported su.total k = true ↔ k ∈ milestones config su.total := by
  rw [isReported, isDue, conforms.interval, milestones, Finset.mem_filter, Finset.mem_Icc,
    Nat.dvd_iff_mod_eq_zero]
  simp

/-- What is reported early on is reported in the end. -/
theorem Setup.isReported_mono {completed completed' k : Nat} (le : completed ≤ completed')
    (h : su.isReported completed k = true) : su.isReported completed' k = true := by
  rw [isReported, Bool.and_eq_true, decide_eq_true_eq] at h ⊢
  exact ⟨⟨h.1.1, Nat.le_trans h.1.2 le⟩, h.2⟩

theorem count_milestones {config : Config} {processors : Nat}
    (conforms : su.Conforms config processors) (k : Nat) :
    (milestones config su.total).val.count k = (su.isReported su.total k).toNat := by
  rw [Multiset.count_eq_of_nodup (Finset.nodup _)]
  cases reported : su.isReported su.total k with
  | true => exact if_pos ((su.isReported_iff conforms k).mp reported)
  | false =>
    refine if_neg ?_
    rw [Finset.mem_val, ← su.isReported_iff conforms, reported]
    exact Bool.false_ne_true

namespace Broadcast

/-- No number is sent that is not reported, and none is sent twice. -/
theorem sent_le (h : Broadcast su done s) (k : Nat) :
    s.sent k ≤ (su.isReported s.counters.completed k).toNat :=
  Nat.le_trans (Nat.le_add_right _ _) (Nat.le_of_eq (h.counted k))

theorem nodup_completed (h : Broadcast su done s) :
    (s.events.map Progress.completed).Nodup := by
  rw [List.nodup_iff_count_le_one]
  intro k
  exact Nat.le_trans (h.sent_le k) (Bool.toNat_le _)

/-- The events name the resources of different jobs. -/
theorem exists_jobs (h : Broadcast su done s) (books : Ledger su done s)
    (admission : Admission su s) :
    ∃ jobs : List Nat, jobs.Nodup ∧ (∀ n ∈ jobs, n < su.total) ∧
      s.events.map Progress.current? = jobs.map fun n => su.resources[n]? := by
  have completer {e : Progress} (he : e ∈ s.events) :
      done[e.completed - 1]? = some (done.getD (e.completed - 1) 0) ∧
        e.current? = su.resources[done.getD (e.completed - 1) 0]? := by
    obtain ⟨number, told⟩ := h.sent e he
    rw [List.getD_eq_getElem?_getD, told.completer]
    exact ⟨rfl, told.current⟩
  refine ⟨(s.events.map Progress.completed).map fun k => done.getD (k - 1) 0, ?_, ?_, ?_⟩
  · -- Different numbers were taken by different jobs, for each job is completed once.
    refine List.Nodup.map_on ?_ h.nodup_completed
    intro k hk k' hk' same
    obtain ⟨e, he, rfl⟩ := List.mem_map.mp hk
    obtain ⟨e', he', rfl⟩ := List.mem_map.mp hk'
    obtain ⟨number, told⟩ := h.sent e he
    obtain ⟨number', told'⟩ := h.sent e' he'
    have inside := (List.getElem?_eq_some_iff.mp told.completer).1
    have entries : done[e.completed - 1]? = done[e'.completed - 1]? := by
      rw [(completer he).1, (completer he').1, same]
    have places := (List.getElem?_inj inside books.nodup).mp entries
    have positive := told.positive
    have positive' := told'.positive
    omega
  · intro n hn
    rw [List.map_map] at hn
    obtain ⟨e, he, rfl⟩ := List.mem_map.mp hn
    have taken := List.mem_of_getElem? (completer he).1
    exact Nat.lt_of_lt_of_le (books.lt_of_mem taken) admission.inside
  · rw [List.map_map, List.map_map]
    exact List.map_congr_left fun e he => (completer he).2

end Broadcast

/-- **Events lose nothing and repeat nothing.**  Whatever the order of the steps, the
numbers of the events sent are among the milestones, each once, and they name the
resources of different jobs.  A scan that has joined and is not cancelled has sent all
milestones.  The event of the last completion has the final count of candidates struck
off, and a scan of nothing sends nothing. -/
theorem events_reach_milestones {config : Config} {processors : Nat} {su : Setup}
    (conforms : su.Conforms config processors) {cancelled : Bool} {actions : List Action}
    {s : State} (run : follow su (State.initial su cancelled) actions = some s) :
    (s.events.map Progress.completed : Multiset Nat) ≤ (milestones config su.total).val ∧
      (s.cancelled = false → s.dispatcher.isJoined = true →
        (s.events.map Progress.completed : Multiset Nat) = (milestones config su.total).val) ∧
      (∃ jobs : List Nat, jobs.Nodup ∧ (∀ n ∈ jobs, n < su.total) ∧
        s.events.map Progress.current? = jobs.map fun n => su.resources[n]?) ∧
      (su.total = 0 → s.events = []) ∧
      ∀ e ∈ s.events, e.completed = su.total → e.removed = (s.stats su).removed := by
  have broadcast := Broadcast.of_follow run
  have books := Ledger.of_follow run
  have admission := Admission.follow run
  have completed_le : s.counters.completed ≤ su.total := by
    rw [← books.length_eq]
    exact books.length_le admission
  refine ⟨?_, ?_, broadcast.exists_jobs books admission, ?_, ?_⟩
  · rw [Multiset.le_iff_count]
    intro k
    rw [Multiset.coe_count, count_milestones conforms]
    refine Nat.le_trans (broadcast.sent_le k) ?_
    exact Bool.toNat_le_toNat (su.isReported_mono completed_le)
  · intro active joined
    have all : s.counters.completed = su.total := by
      have whole := WholeJobs.of_follow run (admission.joined joined)
      have scanned := whole.scanned
      rw [toFinset_completions run joined active, Finset.card_range] at scanned
      exact scanned
    refine Multiset.ext.mpr ?_
    intro k
    have counted := broadcast.counted k
    rw [admission.joined joined, tally, Nat.add_zero, all] at counted
    rw [Multiset.coe_count, count_milestones conforms]
    exact counted
  · intro nothing
    refine List.eq_nil_iff_forall_not_mem.mpr ?_
    intro e he
    obtain ⟨number, told⟩ := broadcast.sent e he
    have inside := (List.getElem?_eq_some_iff.mp told.completer).1
    have none_done := books.length_le admission
    omega
  · intro e he last
    obtain ⟨number, told⟩ := broadcast.sent e he
    exact told.last last

/-- Three resources for two slots, of which only the first one loads and refers to a
candidate; every second completion is reported. -/
def Setup.relay : Setup where
  load number r := if number = 0 then .ok (.structured ⟨[.resourceRef ⟨"WAV"⟩ "one"]⟩)
    else .error (.notFound r)
  audio _ := none
  target := ⟨"WAV"⟩
  resources := [⟨"first", ⟨"CRE"⟩⟩, ⟨"second", ⟨"CRE"⟩⟩, ⟨"third", ⟨"CRE"⟩⟩]
  targets := [⟨"One", ⟨"WAV"⟩⟩]
  limit := 2
  interval := 2

/-- The second job is completed first.  The first job takes the second number and is
then overtaken by the third job. -/
def relayRun : List Action :=
  List.replicate 7 .dispatch ++ List.replicate 6 (.work 1 0) ++ List.replicate 11 (.work 0 0) ++
    List.replicate 3 .dispatch ++ List.replicate 8 (.work 1 0) ++ List.replicate 3 (.work 0 0) ++
    [.dispatch]

/-- The events of the second and the third completion are sent, in the other order. -/
theorem events_reach_milestones_relay : ∃ s,
    Setup.relay.Conforms ⟨⟨"WAV"⟩, [⟨"CRE"⟩], 2, 2, false⟩ 4 ∧
      follow Setup.relay (State.initial Setup.relay false) relayRun = some s ∧
      s.cancelled = false ∧ s.dispatcher.isJoined = true ∧
      s.events.map Progress.completed = [3, 2] ∧
      (s.events.map Progress.completed : Multiset Nat) =
        (milestones ⟨⟨"WAV"⟩, [⟨"CRE"⟩], 2, 2, false⟩ 3).val ∧
      ∀ e ∈ s.events, e.completed = 3 → e.removed = (s.stats Setup.relay).removed := by
  have conforms : Setup.relay.Conforms ⟨⟨"WAV"⟩, [⟨"CRE"⟩], 2, 2, false⟩ 4 := ⟨rfl, rfl, rfl⟩
  have evaluated : (follow Setup.relay (State.initial Setup.relay false) relayRun).map (fun s =>
      (s.cancelled, s.dispatcher.isJoined, s.events.map Progress.completed)) =
        some (false, true, [3, 2]) := by
    decide +kernel
  obtain ⟨s, run, seen⟩ := Option.map_eq_some_iff.mp evaluated
  obtain ⟨active, seen⟩ := Prod.mk.inj seen
  obtain ⟨joined, sent⟩ := Prod.mk.inj seen
  obtain ⟨-, all, -, -, last⟩ := events_reach_milestones conforms run
  exact ⟨s, conforms, run, active, joined, sent, all active joined, last⟩

end Scan
end Unreferenced
