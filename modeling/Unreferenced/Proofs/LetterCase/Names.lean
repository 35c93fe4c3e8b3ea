import Unreferenced.Proofs.Identity.Order
import Unreferenced.Proofs.Identity.Set
import Unreferenced.Proofs.Kind

/-!
# Names that differ in letter case

Texts are *alike* when they fold to the same text (`Text.Alike`), and kinds when
texts that are alike name them (`Kind.Alike`); such kinds are equal.  Identities are
equal exactly when they fold to the same identity (`Identity.beq_iff_folded`), so
lists of identities that are equal position by position are those that fold to the
same list.  Membership, sets and the order see an identity only as it is folded
(`Identity.any_beq_iff`, `IdentitySet.folded_ofList`, `Identity.order_folded`).
-/

namespace Unreferenced

/-! ## Texts and kinds -/

/-- The texts differ at most in the case of ASCII letters. -/
def Text.Alike (s t : String) : Prop := Text.uppercased s = Text.uppercased t

instance (s t : String) : Decidable (Text.Alike s t) :=
  inferInstanceAs (Decidable (Text.uppercased s = Text.uppercased t))

namespace Text

variable {s t : String}

theorem alike_iff : Alike s t ↔ upper s.toList = upper t.toList :=
  String.ofList_inj

theorem toList_uppercased (s : String) : (uppercased s).toList = upper s.toList :=
  String.toList_ofList

/-- A text is alike to what it is folded to. -/
theorem alike_upper (cs : List Char) : Alike (String.ofList (upper cs)) (String.ofList cs) := by
  rw [alike_iff, String.toList_ofList, String.toList_ofList, upper_upper]

theorem Alike.trimmed (h : Alike s t) : Alike (trimmed s) (trimmed t) := by
  rw [alike_iff] at h ⊢
  rw [Text.trimmed, Text.trimmed, String.toList_ofList, String.toList_ofList, ← trim_upper,
    ← trim_upper, h]

theorem Alike.isEmpty (h : Alike s t) : s.isEmpty = t.isEmpty := by
  have empty (s : String) : s.isEmpty = true ↔ upper s.toList = [] := by
    rw [String.isEmpty_iff, upper_eq_nil_iff, String.toList_eq_nil_iff]
  rw [Bool.eq_iff_iff, empty, empty, alike_iff.mp h]

end Text

namespace Kind

/-- Texts that differ in letter case name the same kind. -/
theorem ofText_congr {s t : String} (h : Text.Alike s t) : ofText s = ofText t := by
  have folded := Text.alike_iff.mp h
  show Kind.mk (String.ofList (Text.upper (bare s.toList))) = Kind.mk (String.ofList _)
  rw [← bare_upper, folded, bare_upper]
  rfl

/-- The kinds are named by texts that differ in letter case. -/
def Alike (k k' : Kind) : Prop := ∃ s t, Text.Alike s t ∧ k = ofText s ∧ k' = ofText t

theorem Alike.eq {k k' : Kind} (h : Alike k k') : k = k' := by
  obtain ⟨s, t, alike, rfl, rfl⟩ := h
  exact ofText_congr alike

end Kind

/-! ## Identities -/

namespace Identity

/-- The identity with the letters of its name in upper case. -/
def folded (i : Identity) : Identity := ⟨Text.uppercased i.name, i.kind⟩

/-- Identities are equal exactly when they fold to the same identity. -/
theorem beq_iff_folded {a b : Identity} : (a == b) = true ↔ a.folded = b.folded := by
  rw [beq_iff, folded, folded, Identity.mk.injEq, and_comm]
  exact and_congr_left' String.ofList_inj.symm

/-- The identities differ in the letter case of name and kind. -/
structure Alike (i j : Identity) : Prop where
  name : Text.Alike i.name j.name
  kind : Kind.Alike i.kind j.kind

/-- Identities that differ in letter case are equal. -/
theorem Alike.folded {i j : Identity} (h : i.Alike j) : i.folded = j.folded := by
  rw [Identity.folded, h.name, h.kind.eq, Identity.folded]

/-- Equality of identities does not depend on letter case. -/
theorem beq_congr {a b i j : Identity} (left : a.folded = b.folded) (right : i.folded = j.folded) :
    (a == i) = (b == j) := by
  rw [Bool.eq_iff_iff, beq_iff_folded, beq_iff_folded, left, right]

/-- Lists are equal position by position exactly when they fold to the same list. -/
theorem forall₂_beq_iff {l l' : List Identity} :
    List.Forall₂ (fun a b => (a == b) = true) l l' ↔ l.map folded = l'.map folded := by
  induction l generalizing l' with
  | nil => cases l' <;> simp
  | cons a l ih =>
    cases l' with
    | nil => simp
    | cons b l' => rw [List.forall₂_cons, ih, beq_iff_folded, List.map_cons, List.map_cons,
        List.cons.injEq]

/-- Names that are alike make equal identities. -/
theorem folded_ofParts {name name' : String} (h : Text.Alike name name') (kind : Kind) :
    (ofParts name kind).folded = (ofParts name' kind).folded :=
  congrArg (Identity.mk · kind) h.trimmed

/-- An identity is found in a list if the list, once folded, has it folded. -/
theorem any_beq_iff {l : List Identity} {i : Identity} :
    l.any (· == i) = true ↔ i.folded ∈ l.map folded := by
  simp only [List.any_eq_true, beq_iff_folded, List.mem_map]

/-- Choosing the identities of a kind commutes with folding. -/
theorem map_folded_filter (kind : Kind) (l : List Identity) :
    (l.filter (·.kind == kind)).map folded = (l.map folded).filter (·.kind == kind) := by
  rw [List.filter_map]
  rfl

theorem order_folded (a b : Identity) : order a.folded b.folded = order a b := by
  rw [order, order, folded, folded, Text.toList_uppercased, Text.toList_uppercased,
    Text.upper_upper, Text.upper_upper]

end Identity

/-! ## Sets -/

namespace IdentitySet

open Identity (folded)

theorem contains_iff_folded {s : IdentitySet} {i : Identity} :
    s.contains i = true ↔ i.folded ∈ s.members.map folded :=
  Identity.any_beq_iff

/-- Whether an identity is in a set does not depend on letter case. -/
theorem contains_congr {s t : IdentitySet} {i j : Identity}
    (sets : s.members.map folded = t.members.map folded) (names : i.folded = j.folded) :
    s.contains i = t.contains j := by
  rw [Bool.eq_iff_iff, contains_iff_folded, contains_iff_folded, sets, names]

theorem folded_insert {s t : IdentitySet} {i j : Identity}
    (sets : s.members.map folded = t.members.map folded) (names : i.folded = j.folded) :
    (s.insert i).members.map folded = (t.insert j).members.map folded := by
  have same := contains_congr sets names
  unfold insert
  split
  · next there =>
    rw [same] at there
    rw [dif_pos there, sets]
  · next new =>
    rw [same] at new
    rw [dif_neg new, List.map_append, List.map_append, sets, List.map_singleton,
      List.map_singleton, names]

/-- Lists that fold to the same list make sets that do. -/
theorem folded_ofList {l l' : List Identity} (h : l.map folded = l'.map folded) :
    (ofList l).members.map folded = (ofList l').members.map folded := by
  suffices all : ∀ s t : IdentitySet, s.members.map folded = t.members.map folded →
      (l.foldl insert s).members.map folded = (l'.foldl insert t).members.map folded from
    all empty empty rfl
  induction l generalizing l' with
  | nil =>
    rw [List.map_nil, eq_comm, List.map_eq_nil_iff] at h
    subst h
    exact fun s t sets => sets
  | cons i l ih =>
    cases l' with
    | nil => cases h
    | cons j l' =>
      rw [List.map_cons, List.map_cons, List.cons.injEq] at h
      intro s t sets
      exact ih h.2 _ _ (folded_insert sets h.1)

end IdentitySet
end Unreferenced
