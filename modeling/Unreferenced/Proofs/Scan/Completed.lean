import Unreferenced.Proofs.Scan.Unused
import Unreferenced.Proofs.Store

/-!
# Scans that complete

A scan that is closed without having been cancelled has completed and has done all
its jobs (`Ends.outcome`, `Ends.wholeJobs`).  The result of a scan that has completed
lists candidates of the start, in strictly ascending order (`Completes.isFirst`,
`Completes.ascending`), and what the program reports is such a result
(`Completes.of_run`).  Scans of two stores are compared by a relation between the results
of all scans that are not cancelled, whatever the schedules are (`Compared`).
-/

namespace Unreferenced
namespace Scan

variable {su su' : Setup} {s s' : State}

/-! ## Results -/

theorem length_snapshot (candidates : CandidateSet) :
    candidates.snapshot.length = candidates.size :=
  (Identity.sorted_perm candidates.members.members).length_eq

/-- Some run of the scan has completed with this result. -/
def Completes (su : Setup) (unused : UnusedResources) : Prop :=
  ∃ cancelled actions s, follow su (State.initial su cancelled) actions = some s ∧
    s.outcome su = .completed unused

namespace Completes

variable {unused : UnusedResources}

/-- The result is that of a state in which no task is left. -/
theorem exists_wholeJobs (h : Completes su unused) :
    ∃ cancelled actions s jobs, WholeJobs su cancelled actions s jobs ∧ unused = s.unused su := by
  obtain ⟨cancelled, actions, s, run, outcome⟩ := h
  unfold State.outcome at outcome
  split at outcome
  · next closed =>
    cases outcome
    have ended := (Admission.follow run).joined (by rw [closed]; rfl)
    exact ⟨cancelled, actions, s, _, WholeJobs.of_follow run ended, rfl⟩
  · cases outcome

theorem target (h : Completes su unused) : unused.target = su.target := by
  obtain ⟨_, _, _, _, -, rfl⟩ := h.exists_wholeJobs
  rfl

/-- The unused resources are listed in strictly ascending order. -/
theorem ascending (h : Completes su unused) :
    unused.resources.Pairwise fun a b => Identity.order a b = .lt := by
  obtain ⟨_, _, s, _, -, rfl⟩ := h.exists_wholeJobs
  exact snapshot_ascending s.candidates

/-- What the program reports of a scan is the result of such a run, whenever its token is
cancelled. -/
theorem of_run {source : Source} {audio : Int32 → Option String} {processors : Nat}
    {config : Config} {cancellation : Cancellation}
    (h : (run source audio processors config cancellation).result = .ok (.completed unused)) :
    ∃ su, Setup.ofConfig source audio processors config = .ok su ∧ Completes su unused := by
  unfold run at h
  cases starts : Setup.ofConfig source audio processors config with
  | error e =>
    rw [starts] at h
    cases h
  | ok su =>
    rw [starts] at h
    obtain ⟨actions, follows, -⟩ := exists_follow_drive su cancellation
      (State.initial su cancellation.isBefore)
    exact ⟨su, rfl, _, actions, _, follows, Except.ok.inj h⟩

/-- An unused resource has the target kind, and the spelling in which it was listed first. -/
theorem isFirst (h : Completes su unused) {i : Identity} (member : i ∈ unused.resources) :
    Identity.IsFirst su.targets i ∧ i.kind = su.target := by
  obtain ⟨_, _, s, _, whole, rfl⟩ := h.exists_wholeJobs
  have left := ((whole.candidates i).mp (mem_snapshot_iff.mp member)).1
  exact CandidateSet.mem_seed_iff.mp left

end Completes

/-! ## Scans that are not cancelled -/

/-- The scan has been closed in this state, and nobody has cancelled it. -/
def Ends (su : Setup) (s : State) : Prop :=
  ∃ actions, follow su (State.initial su false) actions = some s ∧ .cancel ∉ actions ∧
    s.dispatcher.isClosed = true

namespace Ends

/-- Such a scan has completed. -/
theorem outcome (h : Ends su s) : s.outcome su = .completed (s.unused su) := by
  obtain ⟨actions, run, never, closed⟩ := h
  exact outcome_of_closed (Admission.follow run) (cancelled_follow run never) closed

/-- Such a scan has done all its jobs, and nothing else. -/
theorem wholeJobs (h : Ends su s) :
    ∃ actions, WholeJobs su false actions s (Finset.range su.total) := by
  obtain ⟨actions, run, never, closed⟩ := h
  have joined := Dispatcher.isJoined_of_isClosed closed
  have whole := WholeJobs.of_follow run ((Admission.follow run).joined joined)
  rw [toFinset_completions run joined (cancelled_follow run never)] at whole
  exact ⟨actions, whole⟩

/-- Such a scan completes with the result of its last state. -/
theorem completes (h : Ends su s) : Completes su (s.unused su) := by
  have outcome := h.outcome
  obtain ⟨actions, run, -⟩ := h
  exact ⟨false, actions, s, run, outcome⟩

/-- The fixed schedule comes to such an end. -/
theorem drive (limit : 1 ≤ su.limit) : Ends su (drive su .never (State.initial su false)) := by
  obtain ⟨actions, run, never, -⟩ := follow_drive su (State.initial su false)
  exact ⟨actions, run, never, drive_closed (Admission.initial su false) limit⟩

end Ends

/-! ## Scans of sources -/

theorem mapM_eq_ok_map {α β ε : Type} {f : α → Except ε β} {g : α → β} {l : List α}
    (succeeds : ∀ x ∈ l, f x = .ok (g x)) : l.mapM f = .ok (l.map g) := by
  induction l with
  | nil => rfl
  | cons x l ih =>
    rw [List.mapM_cons, succeeds x List.mem_cons_self,
      ih fun y member => succeeds y (List.mem_cons_of_mem _ member)]
    rfl

/-- A valid scan inspects the listings of the kinds in turn. -/
theorem ofConfig_eq_ok {source : Source} {config : Config} {listing : Kind → List Identity}
    {targets : List Identity} (valid : config.validate = .ok ())
    (listed : ∀ kind ∈ config.scannable, source.list kind = .ok (listing kind))
    (targetListed : source.list config.target = .ok targets) (audio : Int32 → Option String)
    (processors : Nat) (compiler : Script.Compiler) :
    Setup.ofConfig source audio processors config compiler = .ok
      { load := fun _ => source.load
        audio := audio
        target := config.target
        resources := config.scannable.flatMap listing
        targets := targets
        limit := config.effectiveConcurrency processors
        interval := max config.progressInterval 1
        compiler := compiler } := by
  rw [Setup.ofConfig, valid, mapM_eq_ok_map listed, targetListed, List.flatMap]
  rfl

/-! ## Scans of stores -/

variable {store store' : Store} {audio audio' : Int32 → Option String} {config : Config}

/-- The setup of a scan of a store that can be listed. -/
def Setup.ofStore (store : Store) (audio : Int32 → Option String) (processors : Nat)
    (config : Config) : Setup where
  load := fun _ => store.load
  audio := audio
  target := config.target
  resources := (config.scannable.map store.listing).flatten
  targets := store.listing config.target
  limit := config.effectiveConcurrency processors
  interval := max config.progressInterval 1

/-- A valid scan of a store that can be listed starts. -/
theorem ofConfig_source (available : store.unavailable? = none)
    (valid : config.validate = .ok ()) (audio : Int32 → Option String) (processors : Nat) :
    Setup.ofConfig store.source audio processors config =
      .ok (Setup.ofStore store audio processors config) :=
  ofConfig_eq_ok valid (fun kind _ => Store.list_eq_ok available kind)
    (Store.list_eq_ok available config.target) audio processors Script.literal

theorem Setup.of_ofStore (available : store.unavailable? = none) (audio : Int32 → Option String)
    (processors : Nat) (config : Config) :
    Setup.Of store.source audio config (store.listing config.target)
      (Setup.ofStore store audio processors config) := by
  refine ⟨rfl, rfl, rfl, rfl, ?_, one_le_effectiveConcurrency processors config, rfl⟩
  intro r
  have lists (kind : Kind) : store.source.list kind = .ok (store.listing kind) :=
    Store.list_eq_ok available kind
  simp [Setup.ofStore, lists]

/-- A scan of a corpus that ends without being cancelled finds the identities of the target
kind, each in its first spelling, that no inspected resource refers to. -/
theorem Ends.mem_unused_iff {corpus : Corpus} {processors : Nat}
    (h : Ends (Setup.ofStore corpus.store audio processors config) s) {i : Identity} :
    i ∈ (s.unused (Setup.ofStore corpus.store audio processors config)).resources ↔
      Identity.IsFirst corpus.identities i ∧ i.kind = config.target ∧
        ¬ corpus.store.source.RefersTo audio config i := by
  obtain ⟨actions, run, never, closed⟩ := h
  have found := mem_snapshot_of_joined (Setup.of_ofStore corpus.unavailable?_store audio processors
    config) run (Dispatcher.isJoined_of_isClosed closed) (cancelled_follow run never) i
  rw [Corpus.isFirst_listing_iff, and_assoc, and_iff_right_of_imp And.left] at found
  exact found

/-- A scan of a store that can be listed starts only if the configuration is valid. -/
theorem eq_ofStore {processors : Nat} (available : store.unavailable? = none)
    (starts : Setup.ofConfig store.source audio processors config = .ok su) :
    config.validate = .ok () ∧ su = Setup.ofStore store audio processors config := by
  cases valid : config.validate with
  | ok =>
    rw [ofConfig_source available valid] at starts
    exact ⟨rfl, (Except.ok.inj starts).symm⟩
  | error e =>
    rw [Setup.ofConfig, valid] at starts
    cases starts

/-- An unused resource of a corpus stands in the corpus, in the spelling of the result, and
has the target kind. -/
theorem Completes.isFirst_identities {corpus : Corpus} {processors : Nat}
    {unused : UnusedResources} (h : Completes su unused)
    (starts : Setup.ofConfig corpus.store.source audio processors config = .ok su)
    {i : Identity} (member : i ∈ unused.resources) :
    Identity.IsFirst corpus.identities i ∧ i.kind = config.target := by
  obtain ⟨-, rfl⟩ := eq_ofStore corpus.unavailable?_store starts
  exact Corpus.isFirst_listing_iff.mp (h.isFirst member).1

/-- Scans of the sources start, and the results of all that end without being cancelled are
related, whatever their schedules and the numbers of processors are. -/
def Compared (R : UnusedResources → UnusedResources → Prop) (config : Config)
    (source source' : Source) (audio audio' : Int32 → Option String) : Prop :=
  ∀ processors processors' : Nat,
    (∃ su su', Setup.ofConfig source audio processors config = .ok su ∧
      Setup.ofConfig source' audio' processors' config = .ok su' ∧
      ∀ s s', Ends su s → Ends su' s' → ∃ u v,
        s.outcome su = .completed u ∧ s'.outcome su' = .completed v ∧ R u v) ∧
    ∃ u v, (run source audio processors config .never).result = .ok (.completed u) ∧
      (run source' audio' processors' config .never).result = .ok (.completed v) ∧ R u v

/-- The fixed schedule of a valid scan of a store ends with the result of its last state. -/
theorem run_never_eq (available : store.unavailable? = none) (valid : config.validate = .ok ())
    (audio : Int32 → Option String) (processors : Nat) :
    ∃ s, Ends (Setup.ofStore store audio processors config) s ∧
      (run store.source audio processors config .never).result =
        .ok (.completed (s.unused (Setup.ofStore store audio processors config))) := by
  have ends : Ends (Setup.ofStore store audio processors config) _ :=
    Ends.drive (one_le_effectiveConcurrency processors config)
  refine ⟨_, ends, ?_⟩
  rw [run, ofConfig_source available valid]
  exact congrArg Except.ok ends.outcome

/-- Valid scans of stores are compared in the states in which they end. -/
theorem compared_of_ends {R : UnusedResources → UnusedResources → Prop}
    (available : store.unavailable? = none) (available' : store'.unavailable? = none)
    (valid : config.validate = .ok ())
    (related : ∀ processors processors' s s', Ends (Setup.ofStore store audio processors config) s →
      Ends (Setup.ofStore store' audio' processors' config) s' →
      R (s.unused (Setup.ofStore store audio processors config))
        (s'.unused (Setup.ofStore store' audio' processors' config))) :
    Compared R config store.source store'.source audio audio' := by
  intro processors processors'
  refine ⟨⟨_, _, ofConfig_source available valid audio processors,
    ofConfig_source available' valid audio' processors', ?_⟩, ?_⟩
  · intro s s' ends ends'
    exact ⟨_, _, ends.outcome, ends'.outcome, related _ _ _ _ ends ends'⟩
  · obtain ⟨s, ends, result⟩ := run_never_eq available valid audio processors
    obtain ⟨s', ends', result'⟩ := run_never_eq available' valid audio' processors'
    exact ⟨_, _, result, result', related _ _ _ _ ends ends'⟩

end Scan
end Unreferenced
