import Unreferenced.Proofs.Identity.Coherence

/-!
# Striking candidates off

Calls that strike identities off a set of candidates follow one another in some order,
whoever makes them.  The set that is left has the candidates of the start without those equal
to an identity of a call (`members_after`), and so the order of the calls does not matter
(`after_eq_of_perm`).  What a call answers depends on the calls before it: it is true exactly
if there was such a candidate at the start and none of these was for an equal identity
(`CandidateSet.candidates_struck_off_once`).
-/

namespace Unreferenced
namespace CandidateSet

variable (c : CandidateSet)

/-! ## Calls -/

/-- The set after some calls. -/
def after (calls : List Identity) : CandidateSet :=
  calls.foldl (fun c i => (c.remove i).1) c

/-- What the calls answer in turn. -/
def answers (c : CandidateSet) : List Identity → List Bool
  | [] => []
  | i :: rest => (c.remove i).2 :: (c.remove i).1.answers rest

@[simp]
theorem after_nil : c.after [] = c := rfl

@[simp]
theorem after_cons (i : Identity) (calls : List Identity) :
    c.after (i :: calls) = (c.remove i).1.after calls := rfl

theorem after_append (calls more : List Identity) :
    c.after (calls ++ more) = (c.after calls).after more :=
  List.foldl_append

/-- A call answers in the set that the calls before it have left. -/
theorem answers_append (calls more : List Identity) :
    c.answers (calls ++ more) = c.answers calls ++ (c.after calls).answers more := by
  induction calls generalizing c with
  | nil => rfl
  | cons i calls ih => rw [List.cons_append, answers, answers, ih, after_cons, List.cons_append]

theorem length_answers (calls : List Identity) : (c.answers calls).length = calls.length := by
  induction calls generalizing c with
  | nil => rfl
  | cons i calls ih => rw [answers, List.length_cons, List.length_cons, ih]

/-! ## What is left -/

theorem ext {c c' : CandidateSet} (kind : c.kind = c'.kind)
    (members : c.members.members = c'.members.members) : c = c' := by
  obtain ⟨k, ⟨l, _⟩, _⟩ := c
  obtain ⟨k', ⟨l', _⟩, _⟩ := c'
  cases kind
  cases members
  rfl

theorem kind_remove (i : Identity) : (c.remove i).1.kind = c.kind := by
  rw [remove]
  split <;> rfl

theorem kind_after (calls : List Identity) : (c.after calls).kind = c.kind := by
  induction calls generalizing c with
  | nil => rfl
  | cons i calls ih => rw [after_cons, ih, kind_remove]

/-- The candidates left are those that are equal to no identity of a call. -/
theorem members_after (calls : List Identity) : (c.after calls).members.members =
    c.members.members.filter fun m => calls.all fun i => !(m == i) := by
  induction calls generalizing c with
  | nil => exact (List.filter_eq_self.mpr fun _ _ => rfl).symm
  | cons i calls ih =>
    rw [after_cons, ih, members_remove, List.filter_filter]
    refine List.filter_congr ?_
    intro m _
    rw [List.all_cons, Bool.and_comm]

/-- The order of the calls does not matter for what is left. -/
theorem after_eq_of_perm {calls calls' : List Identity} (perm : calls'.Perm calls) :
    c.after calls' = c.after calls := by
  refine ext ?_ ?_
  · rw [kind_after, kind_after]
  · rw [members_after, members_after]
    refine List.filter_congr ?_
    intro m _
    exact perm.all_eq

/-- A call that finds no candidate changes nothing. -/
theorem remove_of_not_contains {i : Identity} (other : c.contains i = false) :
    c.remove i = (c, false) := by
  rw [remove, other, Bool.and_false]
  rfl

/-- An identity is equal to a candidate that is left if it was so before, and no call was for
an equal one. -/
theorem contains_after_iff {calls : List Identity} {i : Identity} :
    (c.after calls).contains i = true ↔
      c.contains i = true ∧ ∀ j ∈ calls, (j == i) = false := by
  rw [contains, contains, IdentitySet.contains_iff, IdentitySet.contains_iff, members_after]
  simp only [List.mem_filter, List.all_eq_true, Bool.not_eq_true']
  constructor
  · rintro ⟨m, ⟨member, left⟩, same⟩
    refine ⟨⟨m, member, same⟩, ?_⟩
    intro j called
    rw [← left j called, BEq.comm, BEq.congr_left same]
  · rintro ⟨⟨m, member, same⟩, uncalled⟩
    refine ⟨m, ⟨member, ?_⟩, same⟩
    intro j called
    rw [← uncalled j called, BEq.congr_left same, BEq.comm]

/-- Each candidate of the start is struck off by one call or left. -/
theorem count_answers_add_size (calls : List Identity) :
    (c.answers calls).count true + (c.after calls).size = c.size := by
  induction calls generalizing c with
  | nil => exact Nat.zero_add _
  | cons i calls ih =>
    have rest := ih (c.remove i).1
    have first := size_remove c i
    rw [answers, after_cons]
    cases answer : (c.remove i).2 with
    | true =>
      rw [answer, if_pos rfl] at first
      rw [List.count_cons_self]
      omega
    | false =>
      rw [answer, if_neg Bool.false_ne_true] at first
      rw [List.count_cons_of_ne Bool.false_ne_true]
      omega

/-! ## A set from its seed on -/

/-- An identity equal to this one was put into the set at the start. -/
def Seeded (kind : Kind) (seeds : List Identity) (i : Identity) : Prop :=
  i.kind = kind ∧ ∃ s ∈ seeds, (s == i) = true

theorem contains_seed_iff {kind : Kind} {seeds : List Identity} {i : Identity} :
    (seed kind seeds).contains i = true ↔ Seeded kind seeds i := by
  rw [contains, seed, IdentitySet.contains_ofList, List.any_eq_true, Seeded]
  simp only [List.mem_filter, beq_iff_eq]
  constructor
  · rintro ⟨s, ⟨member, ofKind⟩, same⟩
    exact ⟨(Identity.kind_eq_of_beq same).symm.trans ofKind, s, member, same⟩
  · rintro ⟨ofKind, s, member, same⟩
    exact ⟨s, ⟨member, (Identity.kind_eq_of_beq same).trans ofKind⟩, same⟩

variable {kind : Kind} {seeds calls : List Identity}

/-- What can be said of an identity after some calls: it was put into the set, and none of
the calls was for an equal one. -/
def IsLeft (kind : Kind) (seeds calls : List Identity) (i : Identity) : Prop :=
  Seeded kind seeds i ∧ ∀ j ∈ calls, (j == i) = false

theorem contains_iff_isLeft {i : Identity} :
    ((seed kind seeds).after calls).contains i = true ↔ IsLeft kind seeds calls i := by
  rw [contains_after_iff, contains_seed_iff, IsLeft]

/-- The members left are those seeded first of their class, if no call was for the class. -/
theorem mem_after_seed_iff {m : Identity} :
    m ∈ ((seed kind seeds).after calls).members.members ↔
      Identity.IsFirst seeds m ∧ m.kind = kind ∧ ∀ j ∈ calls, (j == m) = false := by
  rw [members_after, List.mem_filter, mem_seed_iff, and_assoc]
  simp only [List.all_eq_true, Bool.not_eq_true', BEq.comm (a := m)]

/-- **Each candidate is struck off once.**  Whatever a set is seeded with and whatever calls
are made on it, by whomever and in whatever order, the following holds after the calls.  A
call has answered true exactly if an identity equal to its own was seeded with the kind of
the set and no call before it was for an equal one, and otherwise it has changed nothing.  As
many calls have answered true as candidates are missing.  The set contains exactly the
identities that are equal to a seeded one and to that of no call.  In whatever order its
members are met, its snapshot lists them in strictly ascending order; they have the kind of
the set and are in the spelling that was seeded first.  The same calls in another order leave
the same set and answer true as often. -/
theorem candidates_struck_off_once (kind : Kind) (seeds calls : List Identity) :
    let start := seed kind seeds
    let left := start.after calls
    (∀ n i, calls[n]? = some i → ∃ answer, (start.answers calls)[n]? = some answer ∧
      (answer = true ↔ IsLeft kind seeds (calls.take n) i) ∧
      (answer = false → start.after (calls.take (n + 1)) = start.after (calls.take n))) ∧
    (start.answers calls).count true + left.size = start.size ∧
    (∀ i, left.contains i = true ↔ IsLeft kind seeds calls i) ∧
    left.snapshot.Pairwise (fun a b => Identity.order a b = .lt) ∧
    (∀ members, members.Perm left.members.members →
      Identity.sorted members = left.snapshot) ∧
    (∀ m, m ∈ left.snapshot ↔
      Identity.IsFirst seeds m ∧ m.kind = kind ∧ ∀ j ∈ calls, (j == m) = false) ∧
    ∀ calls', calls'.Perm calls → start.after calls' = left ∧
      (start.answers calls').count true = (start.answers calls).count true := by
  intro start left
  refine ⟨?_, count_answers_add_size start calls, fun i => contains_iff_isLeft,
    Identity.sorted_strict left.members.distinct, ?_, ?_, ?_⟩
  · intro n i call
    have inside := (List.getElem?_eq_some_iff.mp call).1
    have before : calls.take (n + 1) = calls.take n ++ [i] := by
      rw [List.take_add_one, call, Option.toList_some]
    have answered : (start.answers calls)[n]? = some ((start.after (calls.take n)).contains i) := by
      conv => lhs; rw [← List.take_append_drop (n + 1) calls, before, List.append_assoc]
      rw [answers_append, List.getElem?_append_right, length_answers, List.length_take,
        Nat.min_eq_left (Nat.le_of_lt inside), Nat.sub_self, List.singleton_append, answers,
        List.getElem?_cons_zero, remove_snd]
      rw [length_answers, List.length_take]
      exact Nat.min_le_left _ _
    refine ⟨_, answered, contains_iff_isLeft, ?_⟩
    intro other
    rw [before, after_append, after_cons, remove_of_not_contains _ other, after_nil]
  · intro members perm
    exact Identity.eq_sorted_of_perm left.members.distinct
      ((Identity.sorted_perm members).trans perm) (Identity.sorted_pairwise members)
  · intro m
    exact (Identity.sorted_perm left.members.members).mem_iff.trans mem_after_seed_iff
  · intro calls' perm
    have same : start.after calls' = left := after_eq_of_perm start perm
    have counted := count_answers_add_size start calls
    have counted' := count_answers_add_size start calls'
    rw [same] at counted'
    exact ⟨same, Nat.add_right_cancel (counted'.trans counted.symm)⟩

/-- Two spellings of a ring, an imp and an axe. -/
def hoard : List Identity :=
  [⟨"Ring", ⟨"ITM"⟩⟩, ⟨"RING", ⟨"ITM"⟩⟩, ⟨"imp", ⟨"CRE"⟩⟩, ⟨"Axe", ⟨"ITM"⟩⟩]

/-- Of two calls for the ring in the items of the hoard the first answers true and the second
false, and the axe is left. -/
theorem candidates_struck_off_once_hoard :
    ((seed ⟨"ITM"⟩ hoard).answers [⟨"RING", ⟨"ITM"⟩⟩, ⟨"ring", ⟨"ITM"⟩⟩])[0]? = some true ∧
    ((seed ⟨"ITM"⟩ hoard).answers [⟨"RING", ⟨"ITM"⟩⟩, ⟨"ring", ⟨"ITM"⟩⟩])[1]? = some false ∧
    ((seed ⟨"ITM"⟩ hoard).after [⟨"RING", ⟨"ITM"⟩⟩, ⟨"ring", ⟨"ITM"⟩⟩]).snapshot =
      [⟨"Axe", ⟨"ITM"⟩⟩] := by
  obtain ⟨calls, -, -, -, lists, -⟩ :=
    candidates_struck_off_once ⟨"ITM"⟩ hoard [⟨"RING", ⟨"ITM"⟩⟩, ⟨"ring", ⟨"ITM"⟩⟩]
  obtain ⟨first, answered, first_iff, -⟩ := calls 0 _ rfl
  obtain ⟨second, answered', second_iff, -⟩ := calls 1 _ rfl
  refine ⟨?_, ?_, ?_⟩
  · rw [answered, first_iff.mpr ⟨⟨rfl, _, List.mem_cons_self, by decide⟩, by decide⟩]
  · cases second with
    | false => exact answered'
    | true => exact absurd ((second_iff.mp rfl).2 _ List.mem_cons_self) (by decide)
  · exact (lists [⟨"Axe", ⟨"ITM"⟩⟩] (.refl _)).symm.trans (List.mergeSort_singleton _)

end CandidateSet
end Unreferenced
