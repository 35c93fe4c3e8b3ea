import Unreferenced.IdentitySet

/-!
# Candidates

The candidates of a scan are the resources of the target kind that nothing is
known to refer to yet.  The set is seeded once, and from then on it only
shrinks.
-/

namespace Unreferenced

/-- Resources of one kind. -/
structure CandidateSet where
  kind : Kind
  members : IdentitySet
  ofKind : ∀ m ∈ members.members, (m.kind == kind) = true

namespace CandidateSet

/-- The candidates among some resources: those of the kind. -/
def seed (kind : Kind) (resources : List Identity) : CandidateSet :=
  ⟨kind, IdentitySet.ofList (resources.filter (·.kind == kind)), by
    intro m h
    have := IdentitySet.mem_ofList h
    simp only [List.mem_filter] at this
    exact this.2⟩

/-- Whether a resource is still a candidate. -/
def contains (c : CandidateSet) (i : Identity) : Bool := c.members.contains i

/-- The set without a resource. -/
def erase (c : CandidateSet) (i : Identity) : CandidateSet :=
  ⟨c.kind, c.members.erase i, by
    intro m h
    simp only [IdentitySet.erase, List.mem_filter] at h
    exact c.ofKind m h.1⟩

/-- Strikes a resource off.  The answer says whether it was a candidate. -/
def remove (c : CandidateSet) (i : Identity) : CandidateSet × Bool :=
  if i.kind == c.kind && c.contains i then (c.erase i, true) else (c, false)

/-- The number of candidates. -/
def size (c : CandidateSet) : Nat := c.members.size

/-- The candidates in ascending order. -/
def snapshot (c : CandidateSet) : List Identity := c.members.sorted

end CandidateSet
end Unreferenced
