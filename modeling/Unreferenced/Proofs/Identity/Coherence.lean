import Unreferenced.Proofs.Identity.Set
import Unreferenced.Proofs.Text.Utf8

/-!
# Equality, order and hash agree

An identity is compared, ordered and hashed by the bytes of its name, folded to upper case,
and those of its kind (`Identity.order_eq_bytes`, `Identity.fed`).  The three ways to tell
identities apart agree (`Identity.coherent`), and those of references with them, because a
reference is told from others as the identity it names (`Coherent.comap`).

What equal identities have in common is what they feed to a hasher (`Identity.beq_iff_fed`).
So both a sorted list, by its runs of equal neighbours, and a hash set, by its size, count
the different values of it (`Identity.length_splitBy_eq_card`, `Identity.size_ofList_eq_card`).
-/

namespace Unreferenced

/-! ## Coherence -/

/-- An equality, an order and what is fed to a hasher, which go together. -/
structure Coherent {α β : Type} (eq : α → α → Bool) (order : α → α → Ordering) (fed : α → β) :
    Prop where
  eq_refl : ∀ a, eq a a = true
  eq_symm : ∀ a b, eq a b = true → eq b a = true
  eq_trans : ∀ a b c, eq a b = true → eq b c = true → eq a c = true
  order_refl : ∀ a, order a a = .eq
  order_swap : ∀ a b, order b a = (order a b).swap
  order_trans : ∀ a b c, (order a b).isLE = true → (order b c).isLE = true →
    (order a c).isLE = true
  order_total : ∀ a b, (order a b).isLE = true ∨ (order b a).isLE = true
  order_eq_iff : ∀ a b, order a b = .eq ↔ eq a b = true
  fed_eq : ∀ a b, eq a b = true → fed a = fed b

/-- What is compared as a part of it is compared coherently if its part is. -/
theorem Coherent.comap {α β γ : Type} {eq : α → α → Bool} {order : α → α → Ordering}
    {fed : α → β} (h : Coherent eq order fed) (part : γ → α) :
    Coherent (fun a b => eq (part a) (part b)) (fun a b => order (part a) (part b))
      (fun a => fed (part a)) where
  eq_refl _ := h.eq_refl _
  eq_symm _ _ := h.eq_symm _ _
  eq_trans _ _ _ := h.eq_trans _ _ _
  order_refl _ := h.order_refl _
  order_swap _ _ := h.order_swap _ _
  order_trans _ _ _ := h.order_trans _ _ _
  order_total _ _ := h.order_total _ _
  order_eq_iff _ _ := h.order_eq_iff _ _
  fed_eq _ _ := h.fed_eq _ _

namespace Identity

/-! ## Identities as bytes -/

/-- The bytes of the name, each of them folded to upper case. -/
def foldedBytes (i : Identity) : List UInt8 :=
  (Text.bytes i.name.toList).map Text.upperByte

/-- The bytes of the kind. -/
def kindBytes (i : Identity) : List UInt8 := Text.bytes i.kind.text.toList

/-- What an identity feeds to a hasher, in turn: the bytes of the kind, the byte that ends a
text, and each folded byte of the name for itself. -/
def fed (i : Identity) : List (List UInt8) :=
  i.kindBytes :: [0xFF] :: i.foldedBytes.map fun b => [b]

/-- Identities are ordered by the folded bytes of their names, and then by the bytes of their
kinds. -/
theorem order_eq_bytes (a b : Identity) :
    order a b = (compare a.foldedBytes b.foldedBytes).then (compare a.kindBytes b.kindBytes) := by
  rw [foldedBytes, foldedBytes, Text.map_upperByte_bytes, Text.map_upperByte_bytes, kindBytes,
    kindBytes, Text.compare_bytes, Text.compare_bytes, order]

theorem beq_iff_hashKey {a b : Identity} : (a == b) = true ↔ a.hashKey = b.hashKey := by
  rw [beq_iff, hashKey, hashKey, Prod.mk.injEq, Kind.text_inj, Text.uppercased, Text.uppercased,
    String.ofList_inj]

/-- So what is fed are the bytes of what a hash may depend on. -/
theorem fed_eq (i : Identity) : i.fed = Text.bytes i.hashKey.1.toList :: [0xFF] ::
    (Text.bytes i.hashKey.2.toList).map fun b => [b] := by
  rw [fed, foldedBytes, Text.map_upperByte_bytes, hashKey, Text.uppercased, String.toList_ofList,
    kindBytes]

/-- Identities are equal exactly if they feed the same to a hasher. -/
theorem beq_iff_fed {a b : Identity} : (a == b) = true ↔ a.fed = b.fed := by
  rw [beq_iff_hashKey, fed_eq, fed_eq, List.cons.injEq, List.cons.injEq, eq_self, true_and,
    List.map_inj_right fun _ _ => List.singleton_inj.mp, Text.bytes_inj, Text.bytes_inj,
    String.toList_inj, String.toList_inj, ← Prod.ext_iff]

/-- Equality, order and hash of identities go together. -/
theorem coherent : Coherent (fun a b : Identity => a == b) order fed where
  eq_refl _ := BEq.rfl
  eq_symm _ _ := BEq.symm
  eq_trans _ _ _ := BEq.trans
  order_refl _ := order_eq_eq_iff.mpr BEq.rfl
  order_swap := order_swap
  order_trans _ _ _ := Std.TransCmp.isLE_trans
  order_total a b := (Bool.or_eq_true ..).mp (order_total a b)
  order_eq_iff _ _ := order_eq_eq_iff
  fed_eq _ _ := beq_iff_fed.mp

/-! ## Sorting -/

/-- Identities of which no two are equal can be put in ascending order in one way only. -/
theorem eq_sorted_of_perm {l l' : List Identity}
    (distinct : l.Pairwise fun a b => (a == b) = false) (perm : l'.Perm l)
    (ascending : l'.Pairwise fun a b => (order a b).isLE = true) : l' = sorted l := by
  refine eq_of_ascending (strictly_ascending ascending (distinct_of_perm perm distinct))
    (sorted_strict distinct) ?_
  intro i
  exact (perm.trans (sorted_perm l).symm).mem_iff

/-! ## Counting -/

theorem length_loop_splitBy (r : Identity → Identity → Bool) (l : List Identity) (a : Identity)
    (run : List Identity) (runs : List (List Identity)) :
    (List.splitBy.loop r l a run runs).length =
      (List.splitBy.loop r l a [] []).length + runs.length := by
  induction l generalizing a run runs with
  | nil => simp [List.splitBy.loop, Nat.add_comm]
  | cons b l ih =>
    rw [List.splitBy.loop, List.splitBy.loop]
    cases r a b with
    | true => exact (ih b (a :: run) runs).trans (congrArg (· + runs.length) (ih b [a] []).symm)
    | false =>
      show (List.splitBy.loop r l b [] _).length = (List.splitBy.loop r l b [] _).length + _
      rw [ih, ih b [] [[a].reverse], List.length_cons, List.length_singleton]
      omega

/-- A new run begins where neighbours are not equal. -/
theorem length_splitBy_cons_cons (a b : Identity) (l : List Identity) :
    ((a :: b :: l).splitBy (· == ·)).length =
      ((b :: l).splitBy (· == ·)).length + if a == b then 0 else 1 := by
  rw [List.splitBy, List.splitBy, List.splitBy.loop]
  cases a == b with
  | true => exact length_loop_splitBy _ l b [a] []
  | false => exact length_loop_splitBy _ l b [] [[a].reverse]

/-- In an ascending list, what is equal to the first identity follows it. -/
theorem beq_of_ascending {a b c : Identity} {l : List Identity}
    (ascending : (a :: b :: l).Pairwise fun a b => (order a b).isLE = true)
    (member : c ∈ b :: l) (same : (a == c) = true) : (a == b) = true := by
  rcases List.mem_cons.mp member with rfl | later
  · exact same
  · have upward : (order a b).isLE = true :=
      (List.pairwise_cons.mp ascending).1 b List.mem_cons_self
    have further : (order b c).isLE = true :=
      (List.pairwise_cons.mp (List.pairwise_cons.mp ascending).2).1 c later
    have back : (order c a).isLE = true := by
      rw [order_eq_eq_iff.mpr (BEq.symm same)]
      rfl
    exact order_eq_eq_iff.mp
      (Std.OrientedCmp.isLE_antisymm upward (Std.TransCmp.isLE_trans further back))

/-- An ascending list has as many runs of equal neighbours as different values are fed. -/
theorem length_splitBy_eq_card {l : List Identity}
    (ascending : l.Pairwise fun a b => (order a b).isLE = true) :
    (l.splitBy (· == ·)).length = (l.map fed).toFinset.card := by
  induction l with
  | nil => rfl
  | cons a l ih =>
    cases l with
    | nil => rfl
    | cons b l =>
      have again : a.fed ∈ ((b :: l).map fed).toFinset ↔ (a == b) = true := by
        rw [List.mem_toFinset, List.mem_map]
        constructor
        · rintro ⟨c, member, same⟩
          exact beq_of_ascending ascending member (beq_iff_fed.mpr same.symm)
        · intro same
          exact ⟨b, List.mem_cons_self, (beq_iff_fed.mp same).symm⟩
      rw [length_splitBy_cons_cons, ih ascending.of_cons, List.map_cons (a := a),
        List.toFinset_cons, Finset.card_insert_eq_ite]
      simp only [again]
      split <;> rfl

/-- A set of identities made from a list has as many members. -/
theorem size_ofList_eq_card (l : List Identity) :
    (IdentitySet.ofList l).size = (l.map fed).toFinset.card := by
  have nodup : ((IdentitySet.ofList l).members.map fed).Nodup := by
    refine List.pairwise_map.mpr ((IdentitySet.ofList l).distinct.imp ?_)
    intro a b different same
    rw [beq_iff_fed.mpr same] at different
    cases different
  have all : ((IdentitySet.ofList l).members.map fed).toFinset = (l.map fed).toFinset := by
    ext x
    simp only [List.mem_toFinset, List.mem_map]
    constructor
    · rintro ⟨i, member, rfl⟩
      exact ⟨i, IdentitySet.mem_ofList member, rfl⟩
    · rintro ⟨i, member, rfl⟩
      have contained : (IdentitySet.ofList l).contains i = true := by
        rw [IdentitySet.contains_ofList]
        exact List.any_eq_true.mpr ⟨i, member, BEq.rfl⟩
      obtain ⟨m, kept, same⟩ := IdentitySet.contains_iff.mp contained
      exact ⟨m, kept, beq_iff_fed.mp same⟩
  rw [← all, List.toFinset_card_of_nodup nodup, List.length_map, IdentitySet.size]

/-- The hash of an identity is made from what it feeds to the hasher. -/
@[reducible] def hashedBy (hash : List (List UInt8) → UInt64) : Hashable Identity :=
  ⟨fun i => hash i.fed⟩

/-- A hash set into which the identities of a list are inserted grows as a set of identities
does. -/
theorem size_insertMany (hash : List (List UInt8) → UInt64) (l : List Identity)
    {m : @Std.HashSet Identity _ (hashedBy hash)} {s : IdentitySet}
    (contains : ∀ i, m.contains i = s.contains i) (size : m.size = s.size) :
    (m.insertMany l).size = (l.foldl IdentitySet.insert s).size := by
  let _ := hashedBy hash
  have : LawfulHashable Identity := ⟨fun a b same => congrArg hash (beq_iff_fed.mp same)⟩
  induction l generalizing m s with
  | nil => exact size
  | cons i l ih =>
    rw [Std.HashSet.insertMany_cons, List.foldl_cons]
    refine ih ?_ ?_
    · intro j
      rw [Std.HashSet.contains_insert, IdentitySet.contains_insert, contains, Bool.or_comm]
    · rw [Std.HashSet.size_insert, IdentitySet.size, IdentitySet.members_insert, size]
      simp only [← Std.HashSet.contains_iff_mem, contains]
      split
      · rfl
      · rw [List.length_append, List.length_singleton, IdentitySet.size]

theorem size_hashSet (hash : List (List UInt8) → UInt64) (l : List Identity) :
    (@Std.HashSet.ofList Identity _ (hashedBy hash) l).size = (IdentitySet.ofList l).size := by
  rw [Std.HashSet.ofList_eq_insertMany_empty, IdentitySet.ofList]
  exact size_insertMany hash l (fun _ => Std.HashSet.contains_empty) Std.HashSet.size_empty

end Identity

/-! ## References -/

/-- A reference that was found in a resource. -/
structure Reference where
  /-- The identity of the resource that it names. -/
  identity : Identity

namespace Reference

/-- Equality of references is that of the identities. -/
def same (a b : Reference) : Bool := a.identity == b.identity

/-- References are ordered as the identities are. -/
def order (a b : Reference) : Ordering := Identity.order a.identity b.identity

/-- A reference feeds to a hasher what the identity does. -/
def fed (r : Reference) : List (List UInt8) := r.identity.fed

theorem coherent : Coherent same order fed := Identity.coherent.comap identity

end Reference

namespace Identity

/-- **Equality, order and hash of identities agree.**  Equality is an equivalence.  The order,
which is that of the folded bytes of the names and then of the bytes of the kinds, is
reflexive, transitive and total, is swapped with its arguments, and finds exactly the equal
identities equal.  Equal identities feed the same to a hasher and have the same hash.  All
this is so of references, too.  So there is one ascending arrangement of identities of which
no two are equal, which is strictly ascending, and sorting finds it from any other one; and a
sorted list has as many runs of equal neighbours as a set made from the list has members,
whatever the hash is. -/
theorem equality_order_hash_agree :
    Coherent (fun a b : Identity => a == b) order fed ∧
    Coherent Reference.same Reference.order Reference.fed ∧
    (∀ a b : Identity, order a b =
      (compare a.foldedBytes b.foldedBytes).then (compare a.kindBytes b.kindBytes)) ∧
    (∀ a b : Identity, (a == b) = true → hash a = hash b) ∧
    (∀ l : List Identity, l.Pairwise (fun a b => (a == b) = false) →
      (sorted l).Pairwise (fun a b => order a b = .lt) ∧
      ∀ l', l'.Perm l → sorted l' = sorted l ∧
        (l'.Pairwise (fun a b => (order a b).isLE = true) → l' = sorted l)) ∧
    ∀ l : List Identity,
      ((sorted l).splitBy (· == ·)).length = (IdentitySet.ofList l).size ∧
      ∀ hash : List (List UInt8) → UInt64, ((sorted l).splitBy (· == ·)).length =
        (@Std.HashSet.ofList Identity _ (hashedBy hash) l).size := by
  refine ⟨coherent, Reference.coherent, order_eq_bytes, ?_, ?_, ?_⟩
  · intro a b same
    show hash a.hashKey = hash b.hashKey
    rw [beq_iff_hashKey.mp same]
  · intro l distinct
    refine ⟨sorted_strict distinct, ?_⟩
    intro l' perm
    exact ⟨eq_sorted_of_perm distinct ((sorted_perm l').trans perm) (sorted_pairwise l'),
      eq_sorted_of_perm distinct perm⟩
  · intro l
    have counted : ((sorted l).splitBy (· == ·)).length = (IdentitySet.ofList l).size := by
      rw [length_splitBy_eq_card (sorted_pairwise l), size_ofList_eq_card,
        List.toFinset_eq_of_perm _ _ ((sorted_perm l).map fed)]
    exact ⟨counted, fun hash => counted.trans (size_hashSet hash l).symm⟩

/-- Four identities in ascending order.  The names of the first two are equal, the next one
goes on where these end, and the last one has a letter of two bytes. -/
def rings : List Identity :=
  [⟨"ring", ⟨"CRE"⟩⟩, ⟨"RING", ⟨"ITM"⟩⟩, ⟨"Ring1", ⟨"CRE"⟩⟩, ⟨"rïng", ⟨"CRE"⟩⟩]

/-- Sorting finds this order from the opposite one. -/
theorem equality_order_hash_agree_rings : sorted rings.reverse = rings := by
  have distinct : rings.reverse.Pairwise fun a b => (a == b) = false := by decide +kernel
  have ascending : rings.Pairwise fun a b => (order a b).isLE = true := by decide +kernel
  obtain ⟨-, sorts⟩ := equality_order_hash_agree.2.2.2.2.1 rings.reverse distinct
  exact ((sorts rings rings.reverse_perm.symm).2 ascending).symm

end Identity
end Unreferenced
