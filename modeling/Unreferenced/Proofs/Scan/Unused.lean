import Unreferenced.Proofs.Identity.Order
import Unreferenced.Proofs.Scan.AllOrNothing

/-!
# What a scan finds

A scan that starts and is not cancelled has one result, whatever the order of its
steps, the number of its slots and that of the processors: the resources listed
for the target kind that no inspected resource refers to, in ascending order
(`scan_finds_unused`).  The list is determined by its members, because it is
strictly ascending, and its members by the completed jobs, which are all of them.
-/

namespace Unreferenced

/-! ## What is inspected -/

/-- Whether some resource listed for an inspected kind loads and refers to an
identity of the target kind. -/
def Source.RefersTo (source : Source) (audio : Int32 → Option String) (config : Config)
    (c : Identity) : Prop :=
  ∃ kind ∈ config.scannable, ∃ listing, source.list kind = .ok listing ∧
    ∃ r ∈ listing, ∃ content, source.load r = .ok content ∧
      (Extraction.ofContent audio config.target content).references.contains c = true

/-- If everything can be listed, then everything is. -/
theorem exists_mapM_eq_ok {α β ε : Type} {f : α → Except ε (List β)} {l : List α}
    (succeeds : ∀ x ∈ l, ∃ ys, f x = .ok ys) :
    ∃ yss, l.mapM f = .ok yss ∧ ∀ y, y ∈ yss.flatten ↔ ∃ x ∈ l, ∃ ys, f x = .ok ys ∧ y ∈ ys := by
  induction l with
  | nil => exact ⟨[], rfl, by simp⟩
  | cons x l ih =>
    obtain ⟨ys, first⟩ := succeeds x List.mem_cons_self
    obtain ⟨yss, others, members⟩ := ih fun x hx => succeeds x (List.mem_cons_of_mem _ hx)
    refine ⟨ys :: yss, ?_, ?_⟩
    · rw [List.mapM_cons, first, others]
      rfl
    · intro y
      simp [members, first]

namespace Scan

variable {source : Source} {audio : Int32 → Option String} {config : Config} {su : Setup}
  {s : State}

/-- The setup of a scan of a source that can be listed. -/
structure Setup.Of (source : Source) (audio : Int32 → Option String) (config : Config)
    (targets : List Identity) (su : Setup) : Prop where
  load : su.load = fun _ => source.load
  audio : su.audio = audio
  target : su.target = config.target
  targets : su.targets = targets
  resources : ∀ r, r ∈ su.resources ↔
    ∃ kind ∈ config.scannable, ∃ listing, source.list kind = .ok listing ∧ r ∈ listing
  limit : 1 ≤ su.limit
  compiler : su.compiler = Script.literal

/-- A valid scan of which all listings succeed can start. -/
theorem exists_ofConfig (source : Source) (audio : Int32 → Option String) (config : Config)
    {targets : List Identity} (valid : config.validate = .ok ())
    (listed : ∀ kind ∈ config.scannable, ∃ listing, source.list kind = .ok listing)
    (targetListed : source.list config.target = .ok targets) (processors : Nat) :
    ∃ su, Setup.ofConfig source audio processors config = .ok su ∧
      Setup.Of source audio config targets su := by
  obtain ⟨listings, succeeds, members⟩ := exists_mapM_eq_ok listed
  refine ⟨_, by rw [Setup.ofConfig, valid, succeeds, targetListed]; rfl, ?_⟩
  exact ⟨rfl, rfl, rfl, rfl, members, one_le_effectiveConcurrency processors config, rfl⟩

/-- Some job finds a reference to an identity exactly if some inspected resource
refers to it. -/
theorem Setup.Of.exists_names_iff {targets : List Identity}
    (h : Setup.Of source audio config targets su) (c : Identity) :
    (∃ n < su.total, ∃ found, su.found? n = some found ∧ found.references.contains c = true) ↔
      source.RefersTo audio config c := by
  have found?_iff (n : Nat) (r : Identity) (at_n : su.resources[n]? = some r)
      (found : Extraction) : su.found? n = some found ↔
        ∃ content, source.load r = .ok content ∧
          Extraction.ofContent audio config.target content = found := by
    rw [Setup.found?, Setup.content?, at_n, Option.bind_some, h.load, h.audio, h.target, h.compiler]
    show ((source.load r).toOption.map fun content =>
      Extraction.ofContent audio config.target content) = some found ↔ _
    cases source.load r with
    | ok content => simp [Except.toOption]
    | error e => simp [Except.toOption]
  constructor
  · rintro ⟨n, inside, found, known, contained⟩
    have at_n := List.getElem?_eq_getElem inside
    obtain ⟨content, loads, rfl⟩ := (found?_iff n _ at_n found).mp known
    obtain ⟨kind, scannable, listing, lists, member⟩ :=
      (h.resources _).mp (List.getElem_mem inside)
    exact ⟨kind, scannable, listing, lists, _, member, content, loads, contained⟩
  · rintro ⟨kind, scannable, listing, lists, r, member, content, loads, contained⟩
    have inspected := (h.resources r).mpr ⟨kind, scannable, listing, lists, member⟩
    obtain ⟨n, inside, at_n⟩ := List.getElem_of_mem inspected
    have at_n : su.resources[n]? = some r := by rw [List.getElem?_eq_getElem inside, at_n]
    exact ⟨n, inside, _, (found?_iff n r at_n _).mpr ⟨content, loads, rfl⟩, contained⟩

/-! ## The result -/

theorem mem_snapshot_iff {candidates : CandidateSet} {c : Identity} :
    c ∈ candidates.snapshot ↔ c ∈ candidates.members.members :=
  (Identity.sorted_perm candidates.members.members).mem_iff

/-- When a scan that is not cancelled has joined, the candidates left are those that
no inspected resource refers to. -/
theorem mem_snapshot_of_joined {targets : List Identity} {actions : List Action}
    (h : Setup.Of source audio config targets su)
    (run : follow su (State.initial su false) actions = some s)
    (joined : s.dispatcher.isJoined = true) (active : s.cancelled = false) (c : Identity) :
    c ∈ s.candidates.snapshot ↔
      Identity.IsFirst targets c ∧ c.kind = config.target ∧ ¬ source.RefersTo audio config c := by
  have ended := (Admission.follow run).joined joined
  have whole := WholeJobs.of_follow run ended
  rw [mem_snapshot_iff, whole.candidates, CandidateSet.mem_seed_iff, h.target, h.targets,
    and_assoc, ← h.exists_names_iff]
  simp only [List.mem_toFinset, mem_completions_iff run joined active, not_exists, not_and,
    Bool.not_eq_true]

/-- The outcome of a closed scan that was never cancelled lists the candidates
left. -/
theorem outcome_of_closed (admission : Admission su s) (active : s.cancelled = false)
    (closed : s.dispatcher.isClosed = true) : s.outcome su = .completed (s.unused su) := by
  rw [State.outcome]
  cases place : s.dispatcher with
  | closed b =>
    cases b with
    | false => rfl
    | true =>
      rw [admission.noticed place] at active
      cases active
  | _ =>
    rw [place] at closed
    cases closed

/-- The candidates left are listed in strictly ascending order. -/
theorem snapshot_ascending (candidates : CandidateSet) :
    candidates.snapshot.Pairwise fun a b => Identity.order a b = .lt :=
  Identity.sorted_strict candidates.members.distinct

/-- **A scan finds exactly the unused resources, whatever the schedule.**  Suppose
the configuration is valid and all listings succeed.  Then there is one strictly
ascending list of the resources of the target kind, each in the spelling listed
first, to which no resource of an inspected kind that loads refers; and for every
number of processors and every limit, every run in which nobody cancels is finite
and can go on until the scan is closed, and a closed scan has completed with this
list. -/
theorem scan_finds_unused (source : Source) (audio : Int32 → Option String) (config : Config)
    {targets : List Identity} (valid : config.validate = .ok ())
    (listed : ∀ kind ∈ config.scannable, ∃ listing, source.list kind = .ok listing)
    (targetListed : source.list config.target = .ok targets) :
    ∃ unused : List Identity,
      (∀ c, c ∈ unused ↔ Identity.IsFirst targets c ∧ c.kind = config.target ∧
        ¬ source.RefersTo audio config c) ∧
      unused.Pairwise (fun a b => Identity.order a b = .lt) ∧
      ∀ processors limit : Nat, ∃ su,
        Setup.ofConfig source audio processors { config with concurrencyLimit := limit } =
          .ok su ∧
        (∀ actions s, follow su (State.initial su false) actions = some s →
          .cancel ∉ actions →
          actions.length ≤ remaining su (State.initial su false) ∧
          (s.dispatcher.isClosed = false → ∃ a, a ≠ .cancel ∧ (step su s a).isSome = true) ∧
          (s.dispatcher.isClosed = true → ∃ u, s.outcome su = .completed u ∧
            u.target = config.target ∧ u.resources = unused)) ∧
        ∃ u, (Scan.run source audio processors { config with concurrencyLimit := limit }
            .never).result = .ok (.completed u) ∧
          u.target = config.target ∧ u.resources = unused := by
  -- Any one of the runs gives the list; the others agree with it.
  obtain ⟨su₀, -, setup₀⟩ := exists_ofConfig source audio config valid listed targetListed 1
  obtain ⟨actions₀, run₀, never₀, -⟩ := follow_drive su₀ (State.initial su₀ false)
  have closed₀ := drive_closed (Admission.initial su₀ false) setup₀.limit
  have members := mem_snapshot_of_joined setup₀ run₀ (Dispatcher.isJoined_of_isClosed closed₀)
    (cancelled_follow run₀ never₀)
  refine ⟨_, members, snapshot_ascending _, ?_⟩
  intro processors limit
  obtain ⟨su, starts, setup⟩ := exists_ofConfig source audio
    { config with concurrencyLimit := limit } valid listed targetListed processors
  have agrees {actions : List Action} {s : State}
      (run : follow su (State.initial su false) actions = some s) (never : .cancel ∉ actions)
      (closed : s.dispatcher.isClosed = true) : ∃ u, s.outcome su = .completed u ∧
        u.target = config.target ∧
        u.resources = (drive su₀ .never (State.initial su₀ false)).candidates.snapshot := by
    have active : s.cancelled = false := cancelled_follow run never
    refine ⟨_, outcome_of_closed (Admission.follow run) active closed, setup.target, ?_⟩
    refine Identity.eq_of_ascending (snapshot_ascending _) (snapshot_ascending _) ?_
    intro c
    rw [members]
    exact mem_snapshot_of_joined setup run (Dispatcher.isJoined_of_isClosed closed) active c
  refine ⟨su, starts, ?_, ?_⟩
  · intro actions s run never
    refine ⟨?_, ?_, agrees run never⟩
    · have finite := length_add_remaining_le run
      omega
    · intro running
      exact ⟨choose .never s, choose_never_ne_cancel s,
        step_choose_isSome (Admission.follow run) setup.limit running⟩
  · obtain ⟨actions, run, never, -⟩ := follow_drive su (State.initial su false)
    obtain ⟨u, completed, target, resources⟩ :=
      agrees run never (drive_closed (Admission.initial su false) setup.limit)
    refine ⟨u, ?_, target, resources⟩
    rw [Scan.run, starts]
    exact congrArg Except.ok completed

/-- A source with one creature, which refers to a sound that is listed twice, and
another sound. -/
def soundSource : Source where
  list kind :=
    if kind = ⟨"WAV"⟩ then .ok [⟨"One", ⟨"WAV"⟩⟩, ⟨"ONE", ⟨"WAV"⟩⟩, ⟨"Two", ⟨"WAV"⟩⟩]
    else .ok [⟨"imp", ⟨"CRE"⟩⟩]
  load _ := .ok (.structured ⟨[.resourceRef ⟨"WAV"⟩ "one"]⟩)
  label? _ := none

/-- Neither spelling of the first sound is found unused, but the other sound is. -/
theorem scan_finds_unused_sound : ∃ u,
    (Scan.run soundSource (fun _ => none) 4 ⟨⟨"WAV"⟩, [⟨"CRE"⟩], 16, 100, false⟩ .never).result =
        .ok (.completed u) ∧
      ⟨"Two", ⟨"WAV"⟩⟩ ∈ u.resources ∧ ⟨"One", ⟨"WAV"⟩⟩ ∉ u.resources ∧
      ⟨"ONE", ⟨"WAV"⟩⟩ ∉ u.resources := by
  obtain ⟨unused, members, -, runs⟩ := scan_finds_unused soundSource (fun _ => none)
    ⟨⟨"WAV"⟩, [⟨"CRE"⟩], 0, 100, false⟩ rfl
    (by intro kind scannable; rw [List.mem_singleton.mp scannable]; exact ⟨_, rfl⟩) rfl
  obtain ⟨su, -, -, u, completed, -, resources⟩ := runs 4 16
  rw [← resources] at members
  refine ⟨u, completed, ?_, ?_, ?_⟩
  · refine (members _).mpr ⟨⟨[⟨"One", ⟨"WAV"⟩⟩, ⟨"ONE", ⟨"WAV"⟩⟩], [], rfl, by decide⟩, rfl, ?_⟩
    rintro ⟨kind, -, listing, -, r, -, content, loads, contained⟩
    cases loads
    revert contained
    decide +kernel
  · intro listed
    refine ((members _).mp listed).2.2 ?_
    exact ⟨⟨"CRE"⟩, List.mem_singleton_self _, _, rfl, _, List.mem_singleton_self _, _, rfl,
      by decide +kernel⟩
  · intro listed
    refine ((members _).mp listed).2.2 ?_
    exact ⟨⟨"CRE"⟩, List.mem_singleton_self _, _, rfl, _, List.mem_singleton_self _, _, rfl,
      by decide +kernel⟩

end Scan
end Unreferenced
