import Mathlib
import Unreferenced.Proofs.Scan.Completed

/-!
# Faults

A resource that does not load is one fault, and one that loads is as many as it has
scripts that do not compile or decompile.  The failures that a scan counts are the faults
of the resources that it inspects, whatever its schedule is (`Scan.Ends.failures_eq`).
That is no less than the number of these resources that have a fault, and more if one
of them has several (`Corpus.faults_eq_impaired_iff`).
-/

namespace Unreferenced

/-! ## Lists -/

/-- A sum over the places of a list is a sum over its members. -/
theorem sum_range_length {α : Type} {f : α → Nat} (l : List α) {g : Nat → Nat}
    (agree : ∀ n x, l[n]? = some x → g n = f x) :
    ∑ n ∈ Finset.range l.length, g n = (l.map f).sum := by
  induction l generalizing g with
  | nil => rfl
  | cons x l ih =>
    rw [List.length_cons, Finset.sum_range_succ', List.map_cons, List.sum_cons, agree 0 x rfl,
      ih fun n y at_n => agree (n + 1) y at_n, Nat.add_comm]

/-- A list that is taken kind by kind has the members of these kinds, as often as before. -/
theorem flatten_kinds_perm {kinds : List Kind} (nodup : kinds.Nodup) (l : List Identity) :
    ((kinds.map fun kind => l.filter (·.kind == kind)).flatten).Perm
      (l.filter fun i => kinds.contains i.kind) := by
  induction kinds with
  | nil => simp
  | cons kind kinds ih =>
    obtain ⟨new, nodup⟩ := List.nodup_cons.mp nodup
    have here (i : Identity) : ((i.kind == kind) && (kind :: kinds).contains i.kind) =
        (i.kind == kind) := by
      by_cases same : i.kind = kind <;> simp [same]
    have others (i : Identity) : (!(i.kind == kind) && (kind :: kinds).contains i.kind) =
        kinds.contains i.kind := by
      by_cases same : i.kind = kind
      · simp [same, new]
      · simp [same]
    have parts := List.filter_append_perm (fun i => i.kind == kind)
      (l.filter fun i => (kind :: kinds).contains i.kind)
    simp only [List.filter_filter, here, others] at parts
    exact ((ih nodup).append_left _).trans parts

/-! ## Faults of a corpus -/

/-- The faults of a resource: one if it does not load, and otherwise the number of its scripts
that do not compile or decompile. -/
def Store.faults (s : Store) (i : Identity) : Nat :=
  match s.load i with
  | .ok content => content.brokenScripts
  | .error _ => 1

/-- A resource has a fault exactly if it does not load or has a broken script. -/
theorem Store.faults_pos_iff {s : Store} {i : Identity} :
    0 < s.faults i ↔ ∀ content, s.load i = .ok content → 0 < content.brokenScripts := by
  rw [Store.faults]
  cases s.load i <;> simp

namespace Corpus

/-- The resources of the kinds that may carry references, each identity once. -/
def inspected (c : Corpus) : List Identity :=
  (IdentitySet.ofList c.identities).members.filter fun i => Kind.scannable.contains i.kind

/-- The number of faults of the inspected resources. -/
def faults (c : Corpus) : Nat := (c.inspected.map c.store.faults).sum

/-- The number of inspected resources that have a fault. -/
def impaired (c : Corpus) : Nat := c.inspected.countP fun i => 0 < c.store.faults i

/-- There is one fault for each impaired resource, and all its faults but one besides. -/
theorem impaired_add_sum (c : Corpus) :
    c.impaired + (c.inspected.map fun i => c.store.faults i - 1).sum = c.faults := by
  unfold impaired faults
  induction c.inspected with
  | nil => rfl
  | cons i l ih =>
    rw [List.countP_cons, List.map_cons, List.map_cons, List.sum_cons, List.sum_cons, ← ih]
    by_cases faulty : 0 < c.store.faults i
    · rw [if_pos (decide_eq_true faulty)]
      omega
    · rw [if_neg (by simpa using faulty)]
      omega

theorem impaired_le_faults (c : Corpus) : c.impaired ≤ c.faults :=
  Nat.le.intro c.impaired_add_sum

/-- There is a fault exactly if some inspected resource does not load or has a broken
script. -/
theorem faults_pos_iff (c : Corpus) : 0 < c.faults ↔ ∃ i ∈ c.inspected,
    ∀ content, c.store.load i = .ok content → 0 < content.brokenScripts := by
  have none : c.faults = 0 ↔ ∀ i ∈ c.inspected, c.store.faults i = 0 := by
    rw [faults, List.sum_eq_zero_iff_forall_eq_nat, List.forall_mem_map]
  rw [Nat.pos_iff_ne_zero, ne_eq, none]
  simp only [not_forall, ← Nat.pos_iff_ne_zero, Store.faults_pos_iff, exists_prop]

/-- As many resources are impaired as there are faults exactly if none has more than one. -/
theorem faults_eq_impaired_iff (c : Corpus) :
    c.faults = c.impaired ↔ ∀ i ∈ c.inspected, c.store.faults i ≤ 1 := by
  have besides : c.faults = c.impaired ↔
      (c.inspected.map fun i => c.store.faults i - 1).sum = 0 := by
    rw [← c.impaired_add_sum]
    omega
  rw [besides, List.sum_eq_zero_iff_forall_eq_nat, List.forall_mem_map]
  simp only [Nat.sub_eq_zero_iff_le]

end Corpus

namespace Scan

variable {audio : Int32 → Option String} {processors : Nat} {config : Config} {s : State}

/-- What a scan of a store counts as failed is what the inspected resources have of faults. -/
theorem Ends.failures_eq {store : Store} (h : Ends (Setup.ofStore store audio processors config) s) :
    s.counters.loadFailures + s.counters.scriptFailures =
      ((config.scannable.map store.listing).flatten.map store.faults).sum := by
  obtain ⟨actions, whole⟩ := h.wholeJobs
  have lost := whole.loadFailures
  have broken := whole.scriptFailures
  rw [Finset.card_filter] at lost
  simp only [← Setup.lost_eq] at lost
  change s.counters.loadFailures = _ at lost
  change s.counters.scriptFailures = ∑ n ∈ _, Setup.broken _ n at broken
  rw [lost, broken, ← Finset.sum_add_distrib]
  apply sum_range_length _
  intro n i at_n
  have loads : (Setup.ofStore store audio processors config).content? n =
      (store.load i).toOption := by
    rw [Setup.content?, at_n]
    rfl
  rw [Setup.lost, Setup.broken, Setup.found?, loads, Store.faults]
  cases store.load i with
  | error e => rfl
  | ok content =>
    exact (Nat.zero_add _).trans (Extraction.scriptFailures_ofContent ..)

theorem nodup_scannable : Kind.scannable.Nodup := by decide

/-- What a scan of a corpus counts as failed are the faults of the corpus, if the kinds to
inspect are all that may carry references. -/
theorem Ends.faults {corpus : Corpus}
    (h : Ends (Setup.ofStore corpus.store audio processors config) s)
    (kinds : config.scannable = Kind.scannable) :
    s.counters.loadFailures + s.counters.scriptFailures = corpus.faults := by
  have listings : (Kind.scannable.map corpus.store.listing).flatten.Perm corpus.inspected := by
    rw [Corpus.inspected, ← Corpus.identities_store]
    exact flatten_kinds_perm nodup_scannable corpus.store.identities.members
  rw [h.failures_eq, kinds, Corpus.faults]
  exact (listings.map corpus.store.faults).sum_nat

end Scan
end Unreferenced
