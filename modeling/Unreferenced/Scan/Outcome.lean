import Unreferenced.Duration
import Unreferenced.Identity

/-!
# Outcomes of a scan

The counters of a scan, the unused resources it found, and how it ended.
-/

namespace Unreferenced

/-- The counters of a scan. -/
structure ScanStats where
  /-- The resources to inspect. -/
  totalResources : Nat
  /-- The resources whose job ran to its end, those that failed to load included. -/
  scanned : Nat
  /-- The resources that could not be loaded. -/
  loadFailures : Nat
  /-- The scripts that did not pass through the tool chain. -/
  scriptFailures : Nat
  /-- The references to resources of the target kind. -/
  referencesFound : Nat
  /-- The candidates struck off. -/
  removed : Nat
  /-- The candidates at the start. -/
  initialCandidates : Nat
deriving DecidableEq, Repr

namespace ScanStats

/-- All counters at zero. -/
def zero : ScanStats := ⟨0, 0, 0, 0, 0, 0, 0⟩

/-- Whether some resource or script could not be inspected. -/
def hasFailures (s : ScanStats) : Bool := 0 < s.loadFailures || 0 < s.scriptFailures

end ScanStats

/-- The resources of the target kind that no scanned resource refers to. -/
structure UnusedResources where
  target : Kind
  resources : List Identity
  stats : ScanStats
  duration : Duration
deriving Repr

namespace UnusedResources

/-- The number of unused resources. -/
def size (u : UnusedResources) : Nat := u.resources.length

/-- Whether a resource is among them. -/
def contains (u : UnusedResources) (i : Identity) : Bool := u.resources.any (· == i)

end UnusedResources

/-- How a scan that could start has ended. -/
inductive ScanOutcome
  | completed (unused : UnusedResources)
  | cancelled
deriving Repr

/-! ## Written form -/

open Json (Reader Record Member)

namespace ScanStats

/-- The written form of the counters. -/
def toJson (s : ScanStats) : Json :=
  .obj [("total_resources", .nat s.totalResources), ("scanned", .nat s.scanned),
    ("load_failures", .nat s.loadFailures), ("script_failures", .nat s.scriptFailures),
    ("references_found", .nat s.referencesFound), ("removed", .nat s.removed),
    ("initial_candidates", .nat s.initialCandidates)]

/-- What is written of the counters. -/
def form : Record ScanStats :=
  ⟨zero,
    [.must "total_resources" Reader.count fun n v => { v with totalResources := n },
      .must "scanned" Reader.count fun n v => { v with scanned := n },
      .must "load_failures" Reader.count fun n v => { v with loadFailures := n },
      .must "script_failures" Reader.count fun n v => { v with scriptFailures := n },
      .must "references_found" Reader.count fun n v => { v with referencesFound := n },
      .must "removed" Reader.count fun n v => { v with removed := n },
      .must "initial_candidates" Reader.count fun n v => { v with initialCandidates := n }], true⟩

end ScanStats

namespace UnusedResources

/-- The written form of the result of a scan. -/
def toJson (u : UnusedResources) : Json :=
  .obj [("target_kind", .str u.target.text),
    ("resources", .arr (u.resources.map fun i => .str i.fileName)),
    ("stats", u.stats.toJson), ("scan_duration", u.duration.toJson)]

/-- What is written of the result of a scan. -/
def form : Record UnusedResources :=
  ⟨⟨⟨""⟩, [], ScanStats.zero, Duration.zero⟩,
    [.must "target_kind" Reader.kind fun k v => { v with target := k },
      .must "resources" (Reader.listOf Reader.identity) fun r v => { v with resources := r },
      .must "stats" ScanStats.form.read fun s v => { v with stats := s },
      .must "scan_duration" Duration.read fun d v => { v with duration := d }], true⟩

/-- The result that a text describes. -/
def ofText (text : String) : Except Json.ReadError UnusedResources :=
  Reader.run form.read text

end UnusedResources
end Unreferenced
