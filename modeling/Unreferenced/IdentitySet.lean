import Unreferenced.Identity

/-!
# Sets of identities

A set of identities holds no two that are equal up to letter case.  It keeps
its members in the order of insertion, and of several equal identities the one
inserted first.
-/

namespace Unreferenced

/-- A list of identities no two of which are equal. -/
structure IdentitySet where
  members : List Identity
  distinct : members.Pairwise fun a b => (a == b) = false

namespace IdentitySet

/-- The set without members. -/
def empty : IdentitySet := ⟨[], .nil⟩

/-- Whether a member equal to this identity is in the set. -/
def contains (s : IdentitySet) (i : Identity) : Bool :=
  s.members.any (· == i)

/-- The set with one more member; an equal member that is there already stays. -/
def insert (s : IdentitySet) (i : Identity) : IdentitySet :=
  if h : s.contains i then s
  else
    ⟨s.members ++ [i], by
      refine List.pairwise_append.mpr ⟨s.distinct, by simp, ?_⟩
      intro a ha b hb
      simp only [List.mem_singleton] at hb
      subst hb
      simp only [contains, List.any_eq_true, not_exists, not_and, Bool.not_eq_true] at h
      exact h a ha⟩

/-- The set without the members equal to this identity. -/
def erase (s : IdentitySet) (i : Identity) : IdentitySet :=
  ⟨s.members.filter fun m => !(m == i), s.distinct.filter _⟩

/-- The set of the identities of a list. -/
def ofList (identities : List Identity) : IdentitySet :=
  identities.foldl insert empty

/-- The members in the order of insertion. -/
def toList (s : IdentitySet) : List Identity := s.members

/-- The number of members. -/
def size (s : IdentitySet) : Nat := s.members.length

/-- The members in ascending order. -/
def sorted (s : IdentitySet) : List Identity := Identity.sorted s.members

/-! ## Members come from what was inserted -/

theorem mem_insert {s : IdentitySet} {i m : Identity} (h : m ∈ (s.insert i).members) :
    m ∈ s.members ∨ m = i := by
  unfold insert at h
  split at h
  · exact .inl h
  · simpa using h

theorem mem_ofList {identities : List Identity} {m : Identity}
    (h : m ∈ (ofList identities).members) : m ∈ identities := by
  have all : ∀ (l : List Identity) (s : IdentitySet),
      m ∈ (l.foldl insert s).members → m ∈ s.members ∨ m ∈ l := by
    intro l
    induction l with
    | nil => intro s h; exact .inl h
    | cons i l ih =>
      intro s h
      rcases ih _ h with h | h
      · rcases mem_insert h with h | h
        · exact .inl h
        · exact .inr (by simp [h])
      · exact .inr (by simp [h])
  rcases all identities empty h with h | h
  · simp [empty] at h
  · exact h

end IdentitySet
end Unreferenced
