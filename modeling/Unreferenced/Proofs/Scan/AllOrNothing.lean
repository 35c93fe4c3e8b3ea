import Mathlib.Algebra.BigOperators.Group.Finset.Piecewise
import Mathlib.Data.List.Nodup
import Unreferenced.Proofs.Scan.Ledger

/-!
# Jobs are all or nothing

When the dispatcher has joined, no task is left, so the books speak of completed
jobs alone: the counters are sums over them and the candidates are the seed less
what they name (`WholeJobs`).  Every other job has brought nothing about by any
of its steps, however late the token was cancelled.  A token that is not
cancelled lets every job complete, and then the counters say whether anything
could not be inspected (`jobs_all_or_nothing`).
-/

namespace Unreferenced
namespace Scan

variable {su : Setup} {s : State} {done : List Nat}

/-! ## Sums over completed jobs -/

/-- Of jobs that are listed once each, the list amounts to what the set does. -/
theorem tally_eq_sum (f : Nat → Nat) (nodup : done.Nodup) :
    tally f done = ∑ n ∈ done.toFinset, f n := by
  induction done with
  | nil => rfl
  | cons n done ih =>
    obtain ⟨new, nodup⟩ := List.nodup_cons.mp nodup
    rw [tally, ih nodup, List.toFinset_cons, Finset.sum_insert (mt List.mem_toFinset.mp new)]

theorem tally_eq_count (n : Nat) (l : List Nat) :
    tally (fun other => (other == n).toNat) l = l.count n := by
  induction l with
  | nil => rfl
  | cons x l ih =>
    rw [tally, ih, List.count_cons, Nat.add_comm]
    cases x == n <;> rfl

theorem tally_eq_zero_iff {α : Type} (f : α → Nat) (l : List α) :
    tally f l = 0 ↔ ∀ x ∈ l, f x = 0 := by
  induction l with
  | nil => simp [tally]
  | cons x l ih => rw [tally, Nat.add_eq_zero_iff, ih, List.forall_mem_cons]

/-! ## The books without tasks -/

namespace Ledger

theorem total_of_ended (a : Account) (ended : s.tasks = []) :
    a.total done s.tasks = tally a.final done := by
  rw [Account.total, ended, tally, Nat.add_zero]

/-- Completed jobs and tasks stand for each job submitted at most once, and for no other
job. -/
theorem count_add_le (h : Ledger su done s) (n : Nat) :
    done.count n + tally (fun t => (Account.takenUp n).booked t.number t.phase) s.tasks ≤
      (decide (n < s.submitted)).toNat := by
  rw [← tally_eq_count]
  exact h.takenUp_le n

/-- Each job submitted is completed at most once, and no other job is. -/
theorem count_le (h : Ledger su done s) (n : Nat) :
    done.count n ≤ (decide (n < s.submitted)).toNat :=
  Nat.le_trans (Nat.le_add_right _ _) (h.count_add_le n)

theorem nodup (h : Ledger su done s) : done.Nodup := by
  rw [List.nodup_iff_count_le_one]
  intro n
  exact Nat.le_trans (h.count_le n) (Bool.toNat_le _)

theorem lt_of_mem (h : Ledger su done s) {n : Nat} (member : n ∈ done) : n < s.submitted := by
  by_contra outside
  have none_left := h.count_le n
  rw [decide_eq_false outside] at none_left
  have positive := List.count_pos_iff.mpr member
  exact absurd positive (Nat.not_lt.mpr none_left)

/-- Unless the token is cancelled, every job submitted is completed. -/
theorem mem_of_lt (h : Ledger su done s) (ended : s.tasks = []) (active : s.cancelled = false)
    {n : Nat} (inside : n < s.submitted) : n ∈ done := by
  have once := h.takenUp_eq active n
  rw [total_of_ended _ ended, decide_eq_true inside] at once
  rw [← List.count_pos_iff, ← tally_eq_count]
  exact Nat.lt_of_lt_of_eq Nat.zero_lt_one once.symm

end Ledger

/-! ## Whole jobs -/

/-- At the end of a run, what the scan has brought about is the work of a set of
whole jobs, and of nothing else. -/
structure WholeJobs (su : Setup) (cancelled : Bool) (actions : List Action) (s : State)
    (jobs : Finset Nat) : Prop where
  /-- They are jobs for the resources to inspect. -/
  inside : jobs ⊆ Finset.range su.total
  /-- The candidates left are those that none of the jobs finds a reference to. -/
  candidates : ∀ c, c ∈ s.candidates.members.members ↔
    c ∈ (CandidateSet.seed su.target su.targets).members.members ∧
      ∀ n ∈ jobs, ∀ found, su.found? n = some found → found.references.contains c = false
  scanned : (s.stats su).scanned = jobs.card
  loadFailures : (s.stats su).loadFailures = (jobs.filter fun n => su.content? n = none).card
  scriptFailures : (s.stats su).scriptFailures =
    ∑ n ∈ jobs, (su.found? n).elim 0 Extraction.scriptFailures
  referencesFound : (s.stats su).referencesFound =
    ∑ n ∈ jobs, (su.found? n).elim 0 Extraction.size
  /-- Each candidate struck off is counted once. -/
  removed : (s.stats su).removed + s.candidates.size = (s.stats su).initialCandidates
  /-- No step but those of the tasks of these jobs has changed a counter or the
  candidates, or sent an event. -/
  others : ∀ earlier a later mid next, actions = earlier ++ a :: later →
    follow su (State.initial su cancelled) earlier = some mid → step su mid a = some next →
    (∀ n, mid.worker? a = some n → n ∉ jobs) → next.effects = mid.effects

theorem Setup.lost_eq (su : Setup) (n : Nat) :
    su.lost n = if su.content? n = none then 1 else 0 := by
  rw [Setup.lost]
  cases su.content? n <;> rfl

/-- No job finds a reference to an identity if each one that finds anything finds
none to it. -/
theorem Setup.names_eq_zero_iff (su : Setup) (c : Identity) (n : Nat) :
    (su.names c n).toNat = 0 ↔
      ∀ found, su.found? n = some found → found.references.contains c = false := by
  rw [Setup.names]
  cases su.found? n with
  | none => simp
  | some found => simp [Bool.toNat_eq_zero]

theorem WholeJobs.of_follow {cancelled : Bool} {actions : List Action}
    (run : follow su (State.initial su cancelled) actions = some s) (ended : s.tasks = []) :
    WholeJobs su cancelled actions s
      (completions su (State.initial su cancelled) actions).toFinset := by
  have books := Ledger.of_follow run
  have admission := Admission.follow run
  have nodup := books.nodup
  generalize finished : completions su (State.initial su cancelled) actions = done at books nodup ⊢
  constructor
  case inside =>
    intro n member
    have submitted := books.lt_of_mem (List.mem_toFinset.mp member)
    exact Finset.mem_range.mpr (Nat.lt_of_lt_of_le submitted admission.inside)
  case candidates =>
    intro c
    rw [books.candidates c, Ledger.total_of_ended _ ended, tally_eq_zero_iff]
    simp only [Account.struckOff, Setup.names_eq_zero_iff, List.mem_toFinset]
  case scanned =>
    have completed := books.completed
    rw [Ledger.total_of_ended _ ended, tally_eq_sum _ nodup] at completed
    rw [Finset.card_eq_sum_ones]
    exact completed.symm
  case loadFailures =>
    have lost := books.loadFailures
    rw [Ledger.total_of_ended _ ended, tally_eq_sum _ nodup] at lost
    rw [Finset.card_filter]
    simp only [← Setup.lost_eq]
    exact lost.symm
  case scriptFailures =>
    have broken := books.scriptFailures
    rw [Ledger.total_of_ended _ ended, tally_eq_sum _ nodup] at broken
    exact broken.symm
  case referencesFound =>
    have given := books.referencesFound
    rw [Ledger.total_of_ended _ ended, tally_eq_sum _ nodup] at given
    exact given.symm
  case removed =>
    have removed := books.removed
    rw [Account.total, ended] at removed
    have nothing : tally Account.uncounted.final done = 0 :=
      (tally_eq_zero_iff _ _).mpr fun _ _ => rfl
    rw [nothing, tally, Nat.zero_add] at removed
    exact removed
  case others =>
    rintro earlier a later mid next rfl first taken outside
    have rest : follow su next later = some s := by
      rw [follow_append, first, Option.bind_some, follow_cons, taken] at run
      exact run
    refine effects_eq_of_not_completed first taken rest ended ?_
    intro n worker
    rw [finished]
    exact mt List.mem_toFinset.mpr (outside n worker)

/-! ## Scans that are not cancelled -/

/-- Unless the token is cancelled, the jobs completed are those for all resources. -/
theorem mem_completions_iff {cancelled : Bool} {actions : List Action}
    (run : follow su (State.initial su cancelled) actions = some s)
    (joined : s.dispatcher.isJoined = true) (active : s.cancelled = false) (n : Nat) :
    n ∈ completions su (State.initial su cancelled) actions ↔ n < su.total := by
  have books := Ledger.of_follow run
  have admission := Admission.follow run
  have ended := admission.joined joined
  rw [← admission.submitted_eq joined active]
  exact ⟨books.lt_of_mem, books.mem_of_lt ended active⟩

theorem toFinset_completions {cancelled : Bool} {actions : List Action}
    (run : follow su (State.initial su cancelled) actions = some s)
    (joined : s.dispatcher.isJoined = true) (active : s.cancelled = false) :
    (completions su (State.initial su cancelled) actions).toFinset = Finset.range su.total := by
  ext n
  rw [List.mem_toFinset, Finset.mem_range, mem_completions_iff run joined active]

/-- The number of references counted as found is no less than that of the candidates
struck off. -/
theorem Ledger.removed_le (h : Ledger su done s) : s.counters.removed ≤ s.counters.referencesFound :=
  Nat.le_trans (Nat.le_add_left _ _) h.outstanding

/-- A job finds all that there is if and only if its resource loads and none of its
scripts fails. -/
theorem Setup.unbroken_iff (su : Setup) (n : Nat) :
    su.lost n = 0 ∧ su.broken n = 0 ↔
      ∃ content, su.content? n = some content ∧ content.Passes su.compiler := by
  rw [Setup.lost, Setup.broken, Setup.found?]
  cases su.content? n with
  | none => simp
  | some content =>
    simp [Extraction.scriptFailures_eq_zero_iff]

/-- The counters show no failure if and only if no completed job has one. -/
theorem Ledger.hasFailures_iff (h : Ledger su done s) (ended : s.tasks = []) :
    (s.stats su).hasFailures = false ↔
      ∀ n ∈ done, ∃ content, su.content? n = some content ∧ content.Passes su.compiler := by
  have lost := h.loadFailures
  have broken := h.scriptFailures
  rw [total_of_ended _ ended] at lost broken
  have none_lost : s.counters.loadFailures = 0 ↔ ∀ n ∈ done, su.lost n = 0 := by
    rw [← lost]
    exact tally_eq_zero_iff _ _
  have none_broken : s.counters.scriptFailures = 0 ↔ ∀ n ∈ done, su.broken n = 0 := by
    rw [← broken]
    exact tally_eq_zero_iff _ _
  have failures : (s.stats su).hasFailures = false ↔
      s.counters.loadFailures = 0 ∧ s.counters.scriptFailures = 0 := by
    rw [ScanStats.hasFailures, Bool.or_eq_false_iff, decide_eq_false_iff_not,
      decide_eq_false_iff_not, Nat.not_lt, Nat.not_lt, Nat.le_zero, Nat.le_zero]
    rfl
  rw [failures, none_lost, none_broken, ← forall₂_and]
  simp only [Setup.unbroken_iff]

/-- **Jobs are all or nothing.**  When the dispatcher has joined, whatever the order
of the steps was and whenever the token was cancelled, the counters and the
candidates are those of a set of whole jobs, and the steps of other jobs have
brought nothing about.  Unless the token is cancelled these are all jobs; then the
unused resources and the candidates struck off make up the initial candidates, no
more of them are struck off than references were found, and there is no failure
exactly when every resource loads and every script passes through the compiler. -/
theorem jobs_all_or_nothing (su : Setup) (cancelled : Bool) {actions : List Action} {s : State}
    (run : follow su (State.initial su cancelled) actions = some s)
    (joined : s.dispatcher.isJoined = true) :
    ∃ jobs : Finset Nat, WholeJobs su cancelled actions s jobs ∧
      (s.cancelled = false →
        jobs = Finset.range su.total ∧
        (s.stats su).scanned = (s.stats su).totalResources ∧
        (s.unused su).size + (s.stats su).removed = (s.stats su).initialCandidates ∧
        (s.stats su).removed ≤ (s.stats su).referencesFound ∧
        ((s.stats su).hasFailures = false ↔ ∀ n < su.total,
          ∃ content, su.content? n = some content ∧ content.Passes su.compiler)) := by
  have books := Ledger.of_follow run
  have ended := (Admission.follow run).joined joined
  have whole := WholeJobs.of_follow run ended
  refine ⟨_, whole, ?_⟩
  intro active
  have all := toFinset_completions run joined active
  refine ⟨all, ?_, ?_, books.removed_le, ?_⟩
  · rw [whole.scanned, all, Finset.card_range]
    rfl
  · have removed := whole.removed
    have size : (s.unused su).size = s.candidates.size :=
      (Identity.sorted_perm s.candidates.members.members).length_eq
    omega
  · rw [books.hasFailures_iff ended]
    simp only [mem_completions_iff run joined active]

/-- Two resources that refer to one of two candidates, each in another letter case. -/
def Setup.pair : Setup where
  load number _ := .ok (.structured ⟨[.resourceRef ⟨"wav"⟩ (if number = 0 then "ONE" else "one")]⟩)
  audio _ := none
  target := ⟨"wav"⟩
  resources := [⟨"first", ⟨"cre"⟩⟩, ⟨"second", ⟨"cre"⟩⟩]
  targets := [⟨"One", ⟨"wav"⟩⟩, ⟨"Two", ⟨"wav"⟩⟩]
  limit := 2
  interval := 1

/-- Both jobs are submitted, and the token is cancelled when the first of them has
looked at it for the last time. -/
def pairRun : List Action :=
  List.replicate 6 .dispatch ++ List.replicate 5 (.work 0 0) ++ [.cancel, .work 1 0, .work 1 0] ++
    List.replicate 9 (.work 0 0) ++ List.replicate 3 .dispatch

/-- Then the first job is whole and the second one has left no trace. -/
theorem jobs_all_or_nothing_pair : ∃ s,
    follow Setup.pair (State.initial Setup.pair false) pairRun = some s ∧
      s.dispatcher.isJoined = true ∧
      ∃ jobs, WholeJobs Setup.pair false pairRun s jobs ∧ jobs.card = 1 := by
  have evaluated : (follow Setup.pair (State.initial Setup.pair false) pairRun).map (fun s =>
      (s.dispatcher.isJoined, (s.stats Setup.pair).scanned)) = some (true, 1) := by
    decide +kernel
  obtain ⟨s, run, seen⟩ := Option.map_eq_some_iff.mp evaluated
  obtain ⟨joined, scanned⟩ := Prod.mk.inj seen
  obtain ⟨jobs, whole, -⟩ := jobs_all_or_nothing Setup.pair false run joined
  exact ⟨s, run, joined, jobs, whole, whole.scanned.symm.trans scanned⟩

end Scan
end Unreferenced
