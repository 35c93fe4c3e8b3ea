import Unreferenced.Proofs.Json.Tree
import Unreferenced.Proofs.Scan.Completed
import Unreferenced.Report

/-!
# Entries of a report

The result of a scan that has completed is in ascending order already, so the report has an
entry for each unused resource, in the order of the result (`entries_ofUnused`).
-/

namespace Unreferenced
namespace Report

/-! ## Entries of a result -/

variable (label? : Identity → Option String) {unused : UnusedResources}

/-- The entries of a report are the unused resources in their order, if that is ascending. -/
theorem entries_ofUnused
    (ascending : unused.resources.Pairwise fun a b => Identity.order a b = .lt) :
    (ofUnused label? unused).entries =
      unused.resources.map fun i => ⟨i, (label? i).getD ""⟩ := by
  rw [ofUnused, Identity.sorted_eq_self ascending]

theorem resources_ofUnused
    (ascending : unused.resources.Pairwise fun a b => Identity.order a b = .lt) :
    (ofUnused label? unused).entries.map (·.resource) = unused.resources := by
  rw [entries_ofUnused label? ascending, List.map_map]
  exact List.map_id _

/-! ## The report of a ring -/

/-- A corpus of one ring that nothing refers to, with a quote and a line feed in its label. -/
def ringJson : Json :=
  .obj [("resources", .arr [.obj [("id", .str "Ring.itm"), ("label", .str "\"Gold\"\nring")]])]

/-- The corpus that is described there. -/
def ringCorpus : Corpus :=
  ⟨[], [⟨⟨"Ring", ⟨"ITM"⟩⟩, some "\"Gold\"\nring", none, none⟩]⟩

theorem ofText_ring : Corpus.ofText ringJson.compact = .ok ringCorpus := by
  rw [Corpus.ofText, Json.Reader.run_compact]
  rfl

/-- The scan that looks for unused items in it. -/
def ringSetup : Scan.Setup :=
  .ofStore ringCorpus.store ringCorpus.stringTable.audio? 1 (Config.forTarget ⟨"ITM"⟩)

/-- The one job of the scan is done before the dispatcher closes it. -/
def ringRun : List Scan.Action :=
  List.replicate 3 .dispatch ++ List.replicate 8 (.work 0 0) ++ List.replicate 3 .dispatch

theorem ofConfig_ring :
    Scan.Setup.ofConfig ringCorpus.store.source ringCorpus.stringTable.audio? 1
      (Config.forTarget ⟨"ITM"⟩) = .ok ringSetup :=
  Scan.ofConfig_source ringCorpus.unavailable?_store rfl ringCorpus.stringTable.audio? 1

/-- The scan ends, finds the ring, and counts one resource that does not load. -/
theorem ends_ring : ∃ s, Scan.Ends ringSetup s ∧
    (s.unused ringSetup).resources = [⟨"Ring", ⟨"ITM"⟩⟩] ∧
    s.stats ringSetup = ⟨1, 1, 1, 0, 0, 0, 1⟩ := by
  have evaluated : (Scan.follow ringSetup (Scan.State.initial ringSetup false) ringRun).map
      (fun s => (s.dispatcher.isClosed, s.candidates.size, s.stats ringSetup)) =
        some (true, 1, ⟨1, 1, 1, 0, 0, 0, 1⟩) := by
    decide +kernel
  obtain ⟨s, run, seen⟩ := Option.map_eq_some_iff.mp evaluated
  obtain ⟨closed, seen⟩ := Prod.mk.inj seen
  obtain ⟨size, stats⟩ := Prod.mk.inj seen
  have ends : Scan.Ends ringSetup s := ⟨ringRun, run, by decide, closed⟩
  obtain ⟨i, only⟩ := List.length_eq_one_iff.mp ((Scan.length_snapshot s.candidates).trans size)
  have first := (ends.completes.isFirst_identities ofConfig_ring (i := i) (by
    show i ∈ s.candidates.snapshot
    rw [only]
    exact List.mem_singleton_self i)).1
  rcases Identity.isFirst_cons.mp first with rfl | ⟨-, later⟩
  · exact ⟨s, ends, only, stats⟩
  · exact absurd later (Identity.not_isFirst_nil i)

/-- The scan completes and finds the ring. -/
theorem completes_ring : ∃ unused, Scan.Completes ringSetup unused ∧
    unused.resources = [⟨"Ring", ⟨"ITM"⟩⟩] := by
  obtain ⟨s, ends, found, -⟩ := ends_ring
  exact ⟨_, ends.completes, found⟩

/-- The entry of the ring, which has its label from the store. -/
theorem entries_ring {unused : UnusedResources} (found : unused.resources = [⟨"Ring", ⟨"ITM"⟩⟩]) :
    (ofUnused ringCorpus.store.label? unused).entries =
      [⟨⟨"Ring", ⟨"ITM"⟩⟩, "\"Gold\"\nring"⟩] := by
  rw [entries_ofUnused _ (by rw [found]; exact List.pairwise_singleton _ _), found]
  rfl

end Report
end Unreferenced
