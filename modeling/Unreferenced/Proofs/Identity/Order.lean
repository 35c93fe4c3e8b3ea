import Unreferenced.IdentitySet

/-!
# Equality and order of identities

Two identities are equal exactly when they have the same kind and their names
fold to the same text (`beq_iff`), so equality is an equivalence.  The order
goes by the folded name and then by the kind.  It is total and transitive, and
the identities that it finds equal are the equal ones (`order_eq_eq_iff`).
Sorting leaves equal identities in their order (`filter_sorted`), and a list
without equal identities is strictly ascending once sorted (`sorted_strict`).  A
strictly ascending list is determined by its members (`eq_of_ascending`).
-/

namespace Unreferenced

/-! ## Texts -/

namespace Text

/-- Texts agree up to letter case when they fold to the same text. -/
theorem sameFolded_iff {xs ys : List Char} : sameFolded xs ys = true ↔ upper xs = upper ys := by
  induction xs generalizing ys with
  | nil => cases ys <;> simp [sameFolded, upper]
  | cons x xs ih =>
    cases ys with
    | nil => simp [sameFolded, upper]
    | cons y ys =>
      have rest := @ih ys
      simp only [upper] at rest
      simp only [sameFolded, upper, Bool.and_eq_true, beq_iff_eq, List.map_cons, List.cons.injEq,
        rest]

/-- Texts are compared as the lists of their code points. -/
theorem compareChars_eq_compare (xs ys : List Char) :
    compareChars xs ys = compare (xs.map Char.toNat) (ys.map Char.toNat) := by
  induction xs generalizing ys with
  | nil => cases ys <;> rfl
  | cons x xs ih =>
    cases ys with
    | nil => rfl
    | cons y ys =>
      rw [compareChars, ih, List.map_cons, List.map_cons, List.compare_cons_cons]

theorem map_toNat_inj {xs ys : List Char} :
    xs.map Char.toNat = ys.map Char.toNat ↔ xs = ys :=
  List.map_inj_right fun _ _ => Char.toNat_inj.mp

end Text

namespace Identity

/-! ## Equality -/

/-- Equal identities have the same kind and names that fold to the same text. -/
theorem beq_iff {a b : Identity} :
    (a == b) = true ↔ a.kind = b.kind ∧ Text.upper a.name.toList = Text.upper b.name.toList := by
  show same a b = true ↔ _
  rw [same, Bool.and_eq_true, beq_iff_eq, Text.sameFolded_iff]

instance : EquivBEq Identity where
  rfl := beq_iff.mpr ⟨rfl, rfl⟩
  symm h := beq_iff.mpr ⟨(beq_iff.mp h).1.symm, (beq_iff.mp h).2.symm⟩
  trans h k := beq_iff.mpr
    ⟨(beq_iff.mp h).1.trans (beq_iff.mp k).1, (beq_iff.mp h).2.trans (beq_iff.mp k).2⟩

theorem kind_eq_of_beq {a b : Identity} (h : (a == b) = true) : a.kind = b.kind :=
  (beq_iff.mp h).1

/-! ## Order -/

/-- The order is that of the folded names, and of the kinds where they agree. -/
theorem order_eq_compareLex : order =
    compareLex (compareOn fun i => (Text.upper i.name.toList).map Char.toNat)
      (compareOn fun i => i.kind.text.toList.map Char.toNat) := by
  funext a b
  rw [order, Text.compareChars_eq_compare, Text.compareChars_eq_compare]
  rfl

instance : Std.TransCmp order := by
  rw [order_eq_compareLex]
  infer_instance

/-- The order finds exactly the equal identities equal. -/
theorem order_eq_eq_iff {a b : Identity} : order a b = .eq ↔ (a == b) = true := by
  rw [order_eq_compareLex, compareLex_eq_eq, compareOn, compareOn,
    Std.LawfulEqOrd.compare_eq_iff_eq, Std.LawfulEqOrd.compare_eq_iff_eq,
    Text.map_toNat_inj, Text.map_toNat_inj, String.toList_inj, Kind.text_inj, beq_iff, and_comm]

theorem order_swap (a b : Identity) : order b a = (order a b).swap :=
  Std.OrientedCmp.eq_swap

theorem order_trans (a b c : Identity) :
    (order a b).isLE = true → (order b c).isLE = true → (order a c).isLE = true :=
  Std.TransCmp.isLE_trans

theorem order_total (a b : Identity) : ((order a b).isLE || (order b a).isLE) = true := by
  rw [order_swap a b]
  cases order a b <;> rfl

/-! ## Sorting -/

theorem sorted_perm (l : List Identity) : (sorted l).Perm l :=
  List.mergeSort_perm l _

theorem sorted_pairwise (l : List Identity) :
    (sorted l).Pairwise fun a b => (order a b).isLE = true :=
  List.pairwise_mergeSort order_trans order_total l

/-- Sorting leaves equal identities in their order. -/
theorem filter_sorted (l : List Identity) (i : Identity) :
    (sorted l).filter (· == i) = l.filter (· == i) := by
  have level : (l.filter (· == i)).Pairwise fun a b => (order a b).isLE = true := by
    refine List.pairwise_of_forall_mem_list ?_
    intro a ha b hb
    have same : (a == b) = true :=
      BEq.trans (List.mem_filter.mp ha).2 (BEq.symm (List.mem_filter.mp hb).2)
    rw [order_eq_eq_iff.mpr same]
    rfl
  have within : (l.filter (· == i)).Sublist (sorted l) :=
    List.sublist_mergeSort order_trans order_total level List.filter_sublist
  have again : (l.filter (· == i)).Sublist ((sorted l).filter (· == i)) := by
    have inner := within.filter (· == i)
    simpa only [List.filter_filter, Bool.and_self] using inner
  exact (again.eq_of_length ((sorted_perm l).filter _).length_eq.symm).symm

/-- A list that is ascending already stays as it is. -/
theorem sorted_eq_self {l : List Identity} (ascending : l.Pairwise fun a b => order a b = .lt) :
    sorted l = l := by
  refine List.mergeSort_of_pairwise (ascending.imp ?_)
  intro a b less
  rw [less]
  rfl

/-- An ascending list without equal identities is strictly ascending. -/
theorem strictly_ascending {l : List Identity}
    (ascending : l.Pairwise fun a b => (order a b).isLE = true)
    (distinct : l.Pairwise fun a b => (a == b) = false) :
    l.Pairwise fun a b => order a b = .lt := by
  refine ascending.imp₂ ?_ distinct
  intro a b ordered different
  cases h : order a b with
  | lt => rfl
  | eq => rw [order_eq_eq_iff, different] at h; cases h
  | gt => rw [h] at ordered; cases ordered

/-- In another order, too, no two of the identities are equal. -/
theorem distinct_of_perm {l l' : List Identity} (perm : l'.Perm l)
    (distinct : l.Pairwise fun a b => (a == b) = false) :
    l'.Pairwise fun a b => (a == b) = false := by
  refine perm.symm.pairwise distinct ?_
  intro a b h
  rw [BEq.comm, h]

/-- Identities of which no two are equal are strictly ascending once sorted. -/
theorem sorted_strict {l : List Identity} (distinct : l.Pairwise fun a b => (a == b) = false) :
    (sorted l).Pairwise fun a b => order a b = .lt :=
  strictly_ascending (sorted_pairwise l) (distinct_of_perm (sorted_perm l) distinct)

/-! ## Ascending lists -/

theorem ne_of_order_lt {a b : Identity} (h : order a b = .lt) : a ≠ b := by
  rintro rfl
  rw [order_eq_eq_iff.mpr BEq.rfl] at h
  cases h

/-- Strictly ascending lists are equal if they have the same members. -/
theorem eq_of_ascending {l l' : List Identity} (ascending : l.Pairwise fun a b => order a b = .lt)
    (ascending' : l'.Pairwise fun a b => order a b = .lt) (same : ∀ i, i ∈ l ↔ i ∈ l') :
    l = l' := by
  have perm : l.Perm l' := by
    refine (List.perm_ext_iff_of_nodup ?_ ?_).mpr same
    · exact ascending.imp ne_of_order_lt
    · exact ascending'.imp ne_of_order_lt
  refine perm.eq_of_pairwise ?_ ascending ascending'
  intro a b _ _ less greater
  rw [order_swap a b, less] at greater
  cases greater

end Identity
end Unreferenced
