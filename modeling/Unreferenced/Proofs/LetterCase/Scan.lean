import Unreferenced.Proofs.LetterCase.Store
import Unreferenced.Proofs.Scan.Completed
import Unreferenced.Report

/-!
# Letter case never matters to a scan

Two setups *agree* when they list equal candidates and their jobs see the same
references up to letter case (`Setup.Agrees`).  Scans of such setups that end without
being cancelled leave equal candidates, since a candidate is compared with references
only up to letter case, and they come to the same counters
(`Setup.Agrees.matches_of_ends`).  Alike stores with alike string tables give such
setups (`agrees_ofStore`), so they have matching results whatever the schedules are
(`letter_case_never_matters`).
-/

namespace Unreferenced

/-- The results are of one target kind, list equal identities position by position and
have the same counters. -/
structure UnusedResources.Matches (u v : UnusedResources) : Prop where
  target : u.target = v.target
  size : u.size = v.size
  resources : List.Forall₂ (fun i j => (i == j) = true) u.resources v.resources
  stats : u.stats = v.stats

namespace Scan

open Identity (folded)

variable {su su' : Setup} {s s' : State}

/-! ## Setups that differ in letter case -/

/-- The setups list equal candidates, and their jobs see the same. -/
structure Setup.Agrees (su su' : Setup) : Prop where
  target : su.target = su'.target
  targets : su.targets.map folded = su'.targets.map folded
  total : su.total = su'.total
  views : ∀ n, (su.found? n).map Extraction.view = (su'.found? n).map Extraction.view

/-- The candidates that are left when all jobs are completed. -/
def Setup.Left (su : Setup) (c : Identity) : Prop :=
  c ∈ (CandidateSet.seed su.target su.targets).members.members ∧
    ∀ n ∈ Finset.range su.total, ∀ found, su.found? n = some found →
      found.references.contains c = false

namespace Setup.Agrees

theorem symm (h : su.Agrees su') : su'.Agrees su :=
  ⟨h.target.symm, h.targets.symm, h.total.symm, fun n => (h.views n).symm⟩

/-- What a job finds, the job of that number in the other setup finds too, up to letter
case. -/
theorem exists_found (h : su.Agrees su') {n : Nat} {found : Extraction}
    (finds : su.found? n = some found) :
    ∃ found', su'.found? n = some found' ∧ found.view = found'.view := by
  have views := h.views n
  rw [finds, Option.map_some, eq_comm, Option.map_eq_some_iff] at views
  obtain ⟨found', finds', same⟩ := views
  exact ⟨found', finds', same.symm⟩

/-- A measure of what is seen of an extraction is the same for the jobs of a number. -/
theorem elim_found? (h : su.Agrees su') (f : List Identity × Nat → Nat) (n : Nat) :
    (su.found? n).elim 0 (f ∘ Extraction.view) = (su'.found? n).elim 0 (f ∘ Extraction.view) := by
  rw [← Option.elim_map, ← Option.elim_map, h.views n]

theorem content?_eq_none_iff (h : su.Agrees su') (n : Nat) :
    su.content? n = none ↔ su'.content? n = none := by
  have views := h.views n
  rw [Setup.found?, Setup.found?] at views
  rw [← Option.map_eq_none_iff, ← Option.map_eq_none_iff, views, Option.map_eq_none_iff,
    Option.map_eq_none_iff]

/-- The candidates at the start are equal in order. -/
theorem folded_seed (h : su.Agrees su') :
    (CandidateSet.seed su.target su.targets).members.members.map folded =
      (CandidateSet.seed su'.target su'.targets).members.members.map folded := by
  refine IdentitySet.folded_ofList ?_
  rw [Identity.map_folded_filter, Identity.map_folded_filter, h.target, h.targets]

/-- A candidate that is left has an equal that is left in the other setup. -/
theorem exists_left (h : su.Agrees su') {c : Identity} (left : su.Left c) :
    ∃ c', su'.Left c' ∧ c.folded = c'.folded := by
  have seeded := List.mem_map_of_mem (f := folded) left.1
  rw [h.folded_seed] at seeded
  obtain ⟨c', seeded', same⟩ := List.mem_map.mp seeded
  refine ⟨c', ⟨seeded', ?_⟩, same.symm⟩
  intro n inside found' finds'
  obtain ⟨found, finds, views⟩ := h.symm.exists_found finds'
  rw [IdentitySet.contains_congr (congrArg Prod.fst views) same]
  rw [← h.total] at inside
  exact left.2 n inside found finds

/-! ## Runs of such setups -/

/-- Candidates that are left by jobs of such setups have the same sorted list. -/
theorem folded_snapshot (h : su.Agrees su') {candidates candidates' : CandidateSet}
    (left : ∀ c, c ∈ candidates.members.members ↔ su.Left c)
    (left' : ∀ c, c ∈ candidates'.members.members ↔ su'.Left c) :
    candidates.snapshot.map folded = candidates'.snapshot.map folded := by
  have ascending (candidates : CandidateSet) :
      (candidates.snapshot.map folded).Pairwise fun a b => Identity.order a b = .lt := by
    rw [List.pairwise_map]
    simp only [Identity.order_folded]
    exact snapshot_ascending candidates
  refine Identity.eq_of_ascending (ascending _) (ascending _) ?_
  simp only [List.mem_map, mem_snapshot_iff, left, left']
  intro i
  constructor
  · rintro ⟨c, remains, rfl⟩
    obtain ⟨c', remains', same⟩ := h.exists_left remains
    exact ⟨c', remains', same.symm⟩
  · rintro ⟨c', remains', rfl⟩
    obtain ⟨c, remains, same⟩ := h.symm.exists_left remains'
    exact ⟨c, remains, same.symm⟩

/-- Scans of such setups that end without being cancelled have matching results. -/
theorem matches_of_ends (h : su.Agrees su') (ends : Ends su s) (ends' : Ends su' s') :
    (s.unused su).Matches (s'.unused su') := by
  obtain ⟨_, whole⟩ := ends.wholeJobs
  obtain ⟨_, whole'⟩ := ends'.wholeJobs
  have folded_snapshots := h.folded_snapshot whole.candidates whole'.candidates
  have size : s.candidates.snapshot.length = s'.candidates.snapshot.length := by
    have lengths := congrArg List.length folded_snapshots
    rwa [List.length_map, List.length_map] at lengths
  have initial : (s.stats su).initialCandidates = (s'.stats su').initialCandidates := by
    have lengths := congrArg List.length h.folded_seed
    rwa [List.length_map, List.length_map] at lengths
  refine ⟨h.target, size, Identity.forall₂_beq_iff.mpr folded_snapshots, ?_⟩
  show s.stats su = s'.stats su'
  rw [State.stats, State.stats, ScanStats.mk.injEq]
  refine ⟨h.total, ?jobs, ?lost, ?broken, ?given, ?struck, initial⟩
  case jobs => exact (whole.scanned.trans (by rw [h.total])).trans whole'.scanned.symm
  case lost =>
    refine whole.loadFailures.trans (Eq.trans ?_ whole'.loadFailures.symm)
    simp only [h.total, h.content?_eq_none_iff]
  case broken =>
    refine whole.scriptFailures.trans (Eq.trans ?_ whole'.scriptFailures.symm)
    rw [h.total]
    exact Finset.sum_congr rfl fun n _ => h.elim_found? Prod.snd n
  case given =>
    refine whole.referencesFound.trans (Eq.trans ?_ whole'.referencesFound.symm)
    rw [h.total]
    refine Finset.sum_congr rfl ?_
    intro n _
    have sizes := h.elim_found? (fun seen => seen.1.length) n
    have seen : (fun seen : List Identity × Nat => seen.1.length) ∘ Extraction.view =
        Extraction.size := funext fun found => List.length_map _
    rwa [seen] at sizes
  case struck =>
    have removed := whole.removed
    have removed' := whole'.removed
    rw [← length_snapshot] at removed removed'
    show (s.stats su).removed = (s'.stats su').removed
    omega

end Setup.Agrees

/-! ## Scans of stores -/

variable {store store' : Store} {audio audio' : Int32 → Option String} {config : Config}

/-- Alike stores with alike audio names give setups that agree. -/
theorem agrees_ofStore (stores : store.Alike store')
    (audios : StringTable.LookupsAlike audio audio') (config : Config)
    (processors processors' : Nat) :
    (Setup.ofStore store audio processors config).Agrees
      (Setup.ofStore store' audio' processors' config) := by
  have inspected : (config.scannable.map store.listing).flatten.map folded =
      (config.scannable.map store'.listing).flatten.map folded := by
    rw [List.map_flatten, List.map_flatten, List.map_map, List.map_map]
    refine congrArg (fun listing => (config.scannable.map listing).flatten) (funext ?_)
    exact stores.folded_listing
  refine ⟨rfl, stores.folded_listing config.target, ?_, ?_⟩
  · have lengths := congrArg List.length inspected
    rwa [List.length_map, List.length_map] at lengths
  · intro n
    have asked := congrArg (·[n]?) inspected
    simp only [List.getElem?_map] at asked
    have contents : Option.Rel Content.Alike
        ((Setup.ofStore store audio processors config).content? n)
        ((Setup.ofStore store' audio' processors' config).content? n) := by
      rw [Setup.content?, Setup.content?, Setup.ofStore, Setup.ofStore]
      generalize (config.scannable.map store.listing).flatten[n]? = x,
        (config.scannable.map store'.listing).flatten[n]? = y at asked ⊢
      cases x with
      | none =>
        rw [Option.map_none, eq_comm, Option.map_eq_none_iff] at asked
        rw [asked]
        exact .none
      | some r =>
        rw [Option.map_some, eq_comm, Option.map_eq_some_iff] at asked
        obtain ⟨r', rfl, same⟩ := asked
        exact stores.load same.symm
    rw [Setup.found?, Setup.found?, Option.map_map, Option.map_map]
    exact map_eq_of_rel contents fun _ _ => Extraction.view_ofContent audios config.target

/-! ## Letter case never matters -/

/-- Scans of the sources start, and all that end without being cancelled have results
that match, whatever their schedules and the numbers of processors are. -/
def Matching (config : Config) (source source' : Source) (audio audio' : Int32 → Option String) :
    Prop :=
  ∀ processors processors' : Nat,
    (∃ su su', Setup.ofConfig source audio processors config = .ok su ∧
      Setup.ofConfig source' audio' processors' config = .ok su' ∧
      ∀ s s', Ends su s → Ends su' s' → ∃ u v,
        s.outcome su = .completed u ∧ s'.outcome su' = .completed v ∧ u.Matches v) ∧
    ∃ u v, (run source audio processors config .never).result = .ok (.completed u) ∧
      (run source' audio' processors' config .never).result = .ok (.completed v) ∧ u.Matches v

theorem matching_of_alike (available : store.unavailable? = none) (stores : store.Alike store')
    (audios : StringTable.LookupsAlike audio audio') (valid : config.validate = .ok ()) :
    Matching config store.source store'.source audio audio' := by
  refine compared_of_ends available (stores.unavailable?.symm.trans available) valid ?_
  intro processors processors' s s' ends ends'
  exact (agrees_ofStore stores audios config processors processors').matches_of_ends ends ends'

/-- **Letter case never matters to a scan.**  Stores and string tables, or corpora, that
have the same structure and differ only in the letter case of resource names and kinds,
of reference names and kinds, of audio names, of script sources and of plain texts have
matching scans under every valid configuration: both scans start, and whenever they end
without being cancelled they have completed with equal counters and with lists that are
equal position by position. -/
theorem letter_case_never_matters (config : Config) (valid : config.validate = .ok ()) :
    (∀ (store store' : Store) (table table' : StringTable), store.unavailable? = none →
      store.Alike store' → table.Alike table' →
      Matching config store.source store'.source table.audio? table'.audio?) ∧
    ∀ c d : Corpus, c.Alike d →
      Matching config c.store.source d.store.source c.stringTable.audio? d.stringTable.audio? := by
  constructor
  · intro store store' table table' available stores tables
    exact matching_of_alike available stores tables.lookups valid
  · intro c d alike
    exact matching_of_alike c.unavailable?_store alike.store alike.stringTable.lookups valid

/-- Two sounds, and a creature, a dialogue and a note that name sounds. -/
def soundCorpus (sound other kind audio source text : String) : Corpus where
  strings := [⟨7, some audio⟩]
  resources := [
    ⟨⟨sound, Kind.ofText kind⟩, none, none, none⟩,
    ⟨⟨other, Kind.ofText kind⟩, none, none, none⟩,
    ⟨⟨"imp", Kind.ofText "cre"⟩, none, some (.structured ⟨[.group "lines" [.stringRef 7],
      .resourceRef (Kind.ofText kind) sound]⟩), none⟩,
    ⟨⟨"talk", Kind.ofText "dlg"⟩, none, some (.scriptBearing ⟨[], [⟨.action, source⟩], []⟩), none⟩,
    ⟨⟨"note", Kind.ofText "2da"⟩, none, some (.plainText text), none⟩]

theorem soundCorpus_alike {sound sound' other other' kind kind' audio audio' source source' text
    text' : String} (sounds : Text.Alike sound sound') (others : Text.Alike other other')
    (kinds : Text.Alike kind kind') (audios : Text.Alike audio audio')
    (sources : Text.Alike source source') (texts : Text.Alike text text') :
    (soundCorpus sound other kind audio source text).Alike
      (soundCorpus sound' other' kind' audio' source' text') := by
  have named (name kind : String) :
      Identity.Alike ⟨name, Kind.ofText kind⟩ ⟨name, Kind.ofText kind⟩ :=
    ⟨rfl, kind, kind, rfl, rfl, rfl⟩
  have spelled : Kind.Alike (Kind.ofText kind) (Kind.ofText kind') := ⟨kind, kind', kinds, rfl, rfl⟩
  have fields : Field.AllAlike
      [.group "lines" [.stringRef 7], .resourceRef (Kind.ofText kind) sound]
      [.group "lines" [.stringRef 7], .resourceRef (Kind.ofText kind') sound'] :=
    .cons (.group _ (.cons (.string 7) .nil)) (.cons (.reference spelled sounds) .nil)
  have fragments : List.Forall₂ ScriptFragment.Alike [⟨.action, source⟩] [⟨.action, source'⟩] :=
    .cons ⟨rfl, sources⟩ .nil
  exact ⟨.cons ⟨rfl, .some audios⟩ .nil,
    .cons ⟨⟨sounds, spelled⟩, rfl, .none, rfl⟩
      (.cons ⟨⟨others, spelled⟩, rfl, .none, rfl⟩
        (.cons ⟨named "imp" "cre", rfl, .some (.structured fields), rfl⟩
          (.cons ⟨named "talk" "dlg", rfl, .some (.scriptBearing .nil fragments .nil), rfl⟩
            (.cons ⟨named "note" "2da", rfl, .some (.plainText texts), rfl⟩ .nil))))⟩

/-- A corpus with two sounds, one of which its creature names. -/
def gongCorpus : Corpus :=
  soundCorpus "Horn" "Gong" "wav" "growl" "Play(\"BELL.WAV\")" "drum horn"

/-- The same corpus in other letters. -/
def gongCorpus' : Corpus :=
  soundCorpus "HORN" "gONG" "Wav" "Growl" "PLAY(\"Bell.wav\")" "DRUM Horn"

/-- In both spellings the other sound is the one that is found unused, with the string
tables of the corpora as without any. -/
theorem letter_case_never_matters_sounds :
    (Config.forTarget ⟨"WAV"⟩).validate = .ok () ∧ gongCorpus.Alike gongCorpus' ∧
      Matching (Config.forTarget ⟨"WAV"⟩) gongCorpus.store.source gongCorpus'.store.source
        gongCorpus.stringTable.audio? gongCorpus'.stringTable.audio? ∧
      gongCorpus.store.Alike gongCorpus'.store ∧ gongCorpus.store.unavailable? = none ∧
      Matching (Config.forTarget ⟨"WAV"⟩) gongCorpus.store.source gongCorpus'.store.source
        StringTable.empty.audio? StringTable.empty.audio? ∧
      (ScanStatus.ofResult gongCorpus.store.label? (run gongCorpus.store.source
        gongCorpus.stringTable.audio? 1 (Config.forTarget ⟨"WAV"⟩) .never).result).message =
          "1 unused WAVs found" := by
  have valid : (Config.forTarget ⟨"WAV"⟩).validate = .ok () := by decide
  have alike : gongCorpus.Alike gongCorpus' :=
    soundCorpus_alike (by decide) (by decide) (by decide) (by decide) (by decide) (by decide)
  have available := gongCorpus.unavailable?_store
  obtain ⟨ofStores, ofCorpora⟩ := letter_case_never_matters (Config.forTarget ⟨"WAV"⟩) valid
  exact ⟨valid, alike, ofCorpora _ _ alike, alike.store, available,
    ofStores _ _ _ _ available alike.store StringTable.Alike.empty, by decide +kernel⟩

end Scan
end Unreferenced
