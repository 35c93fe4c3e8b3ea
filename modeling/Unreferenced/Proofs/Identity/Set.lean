import Mathlib.Data.List.Induction
import Unreferenced.CandidateSet
import Unreferenced.Proofs.Identity.Order

/-!
# Sets of identities and of candidates

What the sets hold, seen through their members.  The set made from a list has
of each class of equal identities the one listed first (`mem_ofList_iff`), and
the candidates are those of them that have the kind of the set
(`CandidateSet.mem_seed_iff`).  Striking an identity off takes away the members
equal to it and nothing else (`CandidateSet.members_remove`); there is at most
one, and the answer says whether there was one (`CandidateSet.size_remove`).
-/

namespace Unreferenced

/-! ## The first of its class -/

namespace Identity

/-- The identity stands in the list, and no equal one stands before it. -/
def IsFirst (l : List Identity) (i : Identity) : Prop :=
  ∃ before after, l = before ++ i :: after ∧ ∀ b ∈ before, (b == i) = false

theorem not_isFirst_nil (i : Identity) : ¬ IsFirst [] i := by
  rintro ⟨before, after, h, -⟩
  cases before <;> cases h

theorem IsFirst.mem {l : List Identity} {i : Identity} (h : IsFirst l i) : i ∈ l := by
  obtain ⟨before, after, rfl, -⟩ := h
  exact List.mem_append_right _ List.mem_cons_self

theorem isFirst_cons {j : Identity} {l : List Identity} {i : Identity} :
    IsFirst (j :: l) i ↔ i = j ∨ (j == i) = false ∧ IsFirst l i := by
  constructor
  · rintro ⟨before, after, h, first⟩
    cases before with
    | nil =>
      cases h
      exact .inl rfl
    | cons b before =>
      cases h
      refine .inr ⟨first j (by simp), before, after, rfl, ?_⟩
      intro b hb
      exact first b (by simp [hb])
  · rintro (rfl | ⟨different, before, after, rfl, first⟩)
    · exact ⟨[], l, rfl, by simp⟩
    · refine ⟨j :: before, after, rfl, ?_⟩
      intro b hb
      rcases List.mem_cons.mp hb with rfl | hb
      · exact different
      · exact first b hb

/-- Filtering by something on which equal identities agree keeps who is first. -/
theorem isFirst_filter {p : Identity → Bool} (agree : ∀ a b, (a == b) = true → p a = p b)
    (l : List Identity) (i : Identity) : IsFirst (l.filter p) i ↔ IsFirst l i ∧ p i = true := by
  induction l with
  | nil => simp [not_isFirst_nil]
  | cons j l ih =>
    rw [isFirst_cons]
    cases hj : p j with
    | true =>
      rw [List.filter_cons_of_pos hj, isFirst_cons, ih]
      constructor
      · rintro (rfl | ⟨different, first, hi⟩)
        · exact ⟨.inl rfl, hj⟩
        · exact ⟨.inr ⟨different, first⟩, hi⟩
      · rintro ⟨rfl | ⟨different, first⟩, hi⟩
        · exact .inl rfl
        · exact .inr ⟨different, first, hi⟩
    | false =>
      rw [List.filter_cons_of_neg (by simp [hj]), ih]
      constructor
      · rintro ⟨first, hi⟩
        refine ⟨.inr ⟨?_, first⟩, hi⟩
        cases same : j == i with
        | false => rfl
        | true =>
          rw [agree j i same, hi] at hj
          cases hj
      · rintro ⟨rfl | ⟨-, first⟩, hi⟩
        · rw [hi] at hj
          cases hj
        · exact ⟨first, hi⟩

end Identity

/-! ## Sets of identities -/

namespace IdentitySet

open Identity (IsFirst isFirst_cons)

/-- The members are listed once each. -/
theorem nodup (s : IdentitySet) : s.members.Nodup := by
  refine s.distinct.imp ?_
  rintro a b different rfl
  rw [BEq.rfl] at different
  cases different

theorem contains_iff {s : IdentitySet} {i : Identity} :
    s.contains i = true ↔ ∃ m ∈ s.members, (m == i) = true :=
  List.any_eq_true

theorem contains_insert (s : IdentitySet) (i j : Identity) :
    (s.insert i).contains j = (s.contains j || i == j) := by
  unfold insert
  split
  · rename_i h
    obtain ⟨m, hm, same⟩ := contains_iff.mp h
    cases hij : i == j with
    | false => rw [Bool.or_false]
    | true =>
      rw [Bool.or_true]
      exact contains_iff.mpr ⟨m, hm, BEq.trans same hij⟩
  · simp [contains]

theorem contains_foldl_insert (l : List Identity) (s : IdentitySet) (j : Identity) :
    (l.foldl insert s).contains j = (s.contains j || l.any (· == j)) := by
  induction l generalizing s with
  | nil => simp
  | cons i l ih => rw [List.foldl_cons, ih, contains_insert, List.any_cons, Bool.or_assoc]

/-- The set made from a list has exactly the identities equal to a listed one. -/
theorem contains_ofList (l : List Identity) (j : Identity) :
    (ofList l).contains j = l.any (· == j) := by
  rw [ofList, contains_foldl_insert]
  rfl

theorem mem_insert_iff {s : IdentitySet} {i m : Identity} :
    m ∈ (s.insert i).members ↔ m ∈ s.members ∨ s.contains i = false ∧ m = i := by
  unfold insert
  split
  · rename_i h
    simp [h]
  · rename_i h
    simp [h]

theorem mem_foldl_insert_iff (l : List Identity) (s : IdentitySet) (m : Identity) :
    m ∈ (l.foldl insert s).members ↔ m ∈ s.members ∨ s.contains m = false ∧ IsFirst l m := by
  induction l generalizing s with
  | nil => simp [Identity.not_isFirst_nil]
  | cons i l ih =>
    rw [List.foldl_cons, ih, mem_insert_iff, contains_insert, Bool.or_eq_false_iff, isFirst_cons]
    constructor
    · rintro ((member | ⟨new, rfl⟩) | ⟨⟨new, different⟩, first⟩)
      · exact .inl member
      · exact .inr ⟨new, .inl rfl⟩
      · exact .inr ⟨new, .inr ⟨different, first⟩⟩
    · rintro (member | ⟨new, rfl | ⟨different, first⟩⟩)
      · exact .inl (.inl member)
      · exact .inl (.inr ⟨new, rfl⟩)
      · exact .inr ⟨⟨new, different⟩, first⟩

/-- The members of the set made from a list are the first of their class. -/
theorem mem_ofList_iff {l : List Identity} {m : Identity} :
    m ∈ (ofList l).members ↔ IsFirst l m := by
  rw [ofList, mem_foldl_insert_iff]
  simp [empty, contains]

theorem members_foldl_insert (l : List Identity) (s : IdentitySet) :
    (l.foldl insert s).members = s.members ++ (l.filter fun i => !s.contains i).eraseDups := by
  induction l generalizing s with
  | nil => simp
  | cons i l ih =>
    rw [List.foldl_cons, ih]
    by_cases there : s.contains i = true
    · rw [List.filter_cons_of_neg (by simp [there]), insert, dif_pos there]
    · have grown : (s.insert i).members = s.members ++ [i] := by rw [insert, dif_neg there]
      have others : (l.filter fun j => !(s.insert i).contains j) =
          (l.filter fun j => !s.contains j).filter fun j => !(j == i) := by
        rw [List.filter_filter]
        refine List.filter_congr ?_
        intro j _
        rw [contains_insert, Bool.not_or, BEq.comm (a := i), Bool.and_comm]
      rw [List.filter_cons_of_pos (by simpa using there), List.eraseDups_cons, grown, others,
        List.append_assoc, List.singleton_append]

/-- The set made from a list has its members in their order, without the repetitions. -/
theorem members_ofList (l : List Identity) : (ofList l).members = l.eraseDups := by
  rw [ofList, members_foldl_insert, empty, List.nil_append, List.filter_eq_self.mpr]
  exact fun _ _ => rfl

theorem members_insert (s : IdentitySet) (i : Identity) :
    (s.insert i).members = if s.contains i then s.members else s.members ++ [i] := by
  unfold insert
  split <;> rfl

theorem ofList_concat (l : List Identity) (i : Identity) :
    ofList (l ++ [i]) = (ofList l).insert i := by
  rw [ofList, List.foldl_append]
  rfl

/-- Filtering by something on which equal identities agree can be done before or after the
repetitions are left out. -/
theorem members_ofList_filter {p : Identity → Bool}
    (agree : ∀ a b, (a == b) = true → p a = p b) (l : List Identity) :
    (ofList (l.filter p)).members = (ofList l).members.filter p := by
  induction l using List.reverseRecOn with
  | nil => rfl
  | append_singleton l i ih =>
    rw [ofList_concat, members_insert, List.filter_append]
    cases hi : p i with
    | false =>
      rw [List.filter_cons_of_neg (by simp [hi]), List.filter_nil, List.append_nil, ih]
      split <;> simp [hi]
    | true =>
      -- what is equal to the new member passes the filter as it does
      have same : (ofList (l.filter p)).contains i = (ofList l).contains i := by
        rw [contains_ofList, contains_ofList, List.any_filter]
        congr 1
        funext j
        cases equal : j == i with
        | false => rw [Bool.and_false]
        | true => rw [agree j i equal, hi, Bool.true_and]
      rw [List.filter_cons_of_pos hi, List.filter_nil, ofList_concat, members_insert, same, ih]
      split <;> simp [hi]

/-- Each member of a set is the first of its class. -/
theorem isFirst_members_iff {s : IdentitySet} {m : Identity} :
    IsFirst s.members m ↔ m ∈ s.members := by
  refine ⟨IsFirst.mem, ?_⟩
  intro member
  obtain ⟨before, after, members⟩ := List.append_of_mem member
  have distinct := s.distinct
  rw [members, List.pairwise_append] at distinct
  exact ⟨before, after, members, fun b among => distinct.2.2 b among m List.mem_cons_self⟩

/-- Of identities that differ from each other, at most one is equal to a given
one. -/
theorem length_filter_ne {l : List Identity} (distinct : l.Pairwise fun a b => (a == b) = false)
    {i : Identity} (h : l.any (· == i) = true) :
    (l.filter fun m => !(m == i)).length + 1 = l.length := by
  induction l with
  | nil => cases h
  | cons a l ih =>
    rw [List.pairwise_cons] at distinct
    cases ha : a == i with
    | true =>
      have others : l.filter (fun m => !(m == i)) = l := by
        refine List.filter_eq_self.mpr ?_
        intro m hm
        cases same : m == i with
        | false => rfl
        | true =>
          have different := distinct.1 m hm
          rw [BEq.trans ha (BEq.symm same)] at different
          cases different
      rw [List.filter_cons_of_neg (by simp [ha]), others, List.length_cons]
    | false =>
      rw [List.any_cons, ha, Bool.false_or] at h
      rw [List.filter_cons_of_pos (by simp [ha]), List.length_cons, ih distinct.2 h,
        List.length_cons]

end IdentitySet

/-! ## Candidates -/

namespace CandidateSet

/-- The candidates at the start are the resources listed first of their class
that have the kind. -/
theorem mem_seed_iff {kind : Kind} {resources : List Identity} {m : Identity} :
    m ∈ (seed kind resources).members.members ↔
      Identity.IsFirst resources m ∧ m.kind = kind := by
  have agree (a b : Identity) (h : (a == b) = true) : (a.kind == kind) = (b.kind == kind) := by
    rw [Identity.kind_eq_of_beq h]
  rw [seed, IdentitySet.mem_ofList_iff, Identity.isFirst_filter agree, beq_iff_eq]

/-- Only an identity of the kind of the set is equal to a candidate. -/
theorem kind_of_contains {c : CandidateSet} {i : Identity} (h : c.contains i = true) :
    (i.kind == c.kind) = true := by
  obtain ⟨m, hm, same⟩ := IdentitySet.contains_iff.mp h
  rw [← Identity.kind_eq_of_beq same]
  exact c.ofKind m hm

/-- Striking off says whether there was such a candidate. -/
theorem remove_snd (c : CandidateSet) (i : Identity) : (c.remove i).2 = c.contains i := by
  rw [remove]
  cases h : c.contains i with
  | true => rw [kind_of_contains h]; rfl
  | false => rw [Bool.and_false]; rfl

/-- Striking off takes away the candidates equal to the identity. -/
theorem members_remove (c : CandidateSet) (i : Identity) :
    (c.remove i).1.members.members = c.members.members.filter fun m => !(m == i) := by
  rw [remove]
  cases h : c.contains i with
  | true => rw [kind_of_contains h]; rfl
  | false =>
    rw [Bool.and_false]
    refine (List.filter_eq_self.mpr ?_).symm
    show ∀ m ∈ c.members.members, _
    intro m hm
    cases same : m == i with
    | false => rfl
    | true =>
      rw [contains, IdentitySet.contains_iff.mpr ⟨m, hm, same⟩] at h
      cases h

/-- At most one candidate is struck off at a time. -/
theorem size_remove (c : CandidateSet) (i : Identity) :
    (c.remove i).1.size + (if (c.remove i).2 then 1 else 0) = c.size := by
  rw [remove_snd, size, IdentitySet.size, members_remove]
  cases h : c.contains i with
  | true => exact IdentitySet.length_filter_ne c.members.distinct h
  | false =>
    have kept := members_remove c i
    rw [remove, h, Bool.and_false] at kept
    rw [← kept]
    rfl

end CandidateSet
end Unreferenced
