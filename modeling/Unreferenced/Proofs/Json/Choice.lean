import Unreferenced.Proofs.Json.Records

/-!
# Records with a choice of members

A record need not be written with all its members; they may be written in any order, and among
others that the record does not have.  What is written of the record is a list of entries,
and a tree gives these entries if it is an object that lists them in their order, or an array of
the values of the first members (`Record.Gives`).

Either way the reader puts the entries into the blank record one after the other, unless a
required member is missing (`Record.Gives.read`).
-/

namespace Unreferenced
namespace Json

/-- A member of a record with its value: the tree of the value, and what it makes of a record. -/
structure Entry (α : Type) where
  name : String
  draft : Draft
  put : α → α

variable {α : Type}

namespace Record

variable {form : Record α} {entries : List (Entry α)}

/-- The record has the member of the entry and reads its value. -/
def Takes (form : Record α) (e : Entry α) : Prop :=
  ∃ m ∈ form.members, m.name = e.name ∧ ∀ v, m.read e.draft v = .ok (e.put v)

/-- The parts of an object list these entries in their order; members that the record does not
have may stand between them. -/
inductive Lists (form : Record α) : List (Entry α) → List (Option String × Draft) → Prop
  | nil : Lists form [] []
  | entry {entries : List (Entry α)} {parts : List (Option String × Draft)} (e : Entry α)
      (rest : Lists form entries parts) :
      Lists form (e :: entries) ((some e.name, e.draft) :: parts)
  | other {entries : List (Entry α)} {parts : List (Option String × Draft)} {name : String}
      {d : Draft} (foreign : name ∉ form.members.map Member.name) (whole : d.isWhole = true)
      (rest : Lists form entries parts) : Lists form entries ((some name, d) :: parts)

/-- The tree of an object or an array that gives these entries in their order. -/
inductive Gives (form : Record α) (entries : List (Entry α)) : Draft → Prop
  | object {parts : List (Option String × Draft)} (lists : Lists form entries parts) :
      Gives form entries (.obj parts)
  | array (leading : entries.map Entry.name <+: form.members.map Member.name) :
      Gives form entries (.arr (entries.map Entry.draft))

/-- Whether each of these members that is required is among these names. -/
def isComplete (members : List (Member α)) (names : List String) : Bool :=
  members.all fun m => !m.required || names.contains m.name

theorem isComplete_congr {members : List (Member α)} {names names' : List String}
    (same : ∀ m ∈ members, m.name ∈ names ↔ m.name ∈ names') :
    isComplete members names = isComplete members names' := by
  rw [Bool.eq_iff_iff]
  simp only [isComplete, List.all_eq_true, List.contains_eq_mem, Bool.or_eq_true,
    decide_eq_true_eq]
  exact forall₂_congr fun m member => by rw [same m member]

theorem isComplete_cons {m : Member α} {ms : List (Member α)} {names : List String}
    (new : m.name ∉ ms.map Member.name) :
    isComplete (m :: ms) (m.name :: names) = isComplete ms names := by
  have first : (!m.required || (m.name :: names).contains m.name) = true := by simp
  have rest : isComplete ms (m.name :: names) = isComplete ms names := by
    refine isComplete_congr fun x member => ?_
    have other : x.name ≠ m.name := fun same => new (same ▸ List.mem_map_of_mem member)
    rw [List.mem_cons, or_iff_right other]
  rw [← rest, isComplete, isComplete, List.all_cons, first, Bool.true_and]

/-- The entries alone are an object that lists them. -/
theorem lists_self (form : Record α) (entries : List (Entry α)) :
    form.Lists entries (entries.map fun e => (some e.name, e.draft)) := by
  induction entries with
  | nil => exact .nil
  | cons e entries ih => exact .entry e ih

/-! ## Reading -/

/-- Members that are listed are put into the record one after the other. -/
theorem readMembers_of_lists {parts : List (Option String × Draft)} (h : form.Lists entries parts)
    (isOpen : form.isOpen = true) (names : (form.members.map Member.name).Nodup)
    (taken : ∀ e ∈ entries, form.Takes e) (distinct : (entries.map Entry.name).Nodup)
    {seen : List String} (fresh : ∀ e ∈ entries, e.name ∉ seen) (v : α) :
    form.readMembers parts seen v =
      if isComplete form.members (seen ++ entries.map Entry.name) then
        .ok (entries.foldl (fun v e => e.put v) v)
      else .error .malformed := by
  induction h generalizing seen v with
  | nil =>
    rw [List.map_nil, List.append_nil]
    rfl
  | @entry entries parts e rest ih =>
    obtain ⟨m, member, named, reads⟩ := taken e List.mem_cons_self
    rw [List.map_cons, List.nodup_cons] at distinct
    have others : ∀ x ∈ entries, x.name ∉ e.name :: seen := by
      intro x inside seen
      rcases List.mem_cons.mp seen with same | seen
      · exact distinct.1 (same ▸ List.mem_map_of_mem inside)
      · exact fresh x (List.mem_cons_of_mem _ inside) seen
    have found := find?_name names member
    rw [named] at found
    rw [readMembers, found]
    simp only [List.contains_eq_mem, fresh e List.mem_cons_self, decide_false, Bool.false_eq_true,
      if_false, reads]
    show form.readMembers parts (e.name :: seen) (e.put v) = _
    rw [ih (fun x inside => taken x (List.mem_cons_of_mem _ inside)) distinct.2 others,
      List.foldl_cons]
    congr 2
    refine isComplete_congr fun m _ => ?_
    simp only [List.cons_append, List.map_cons, List.mem_cons, List.mem_append]
    tauto
  | @other entries parts name d foreign whole rest ih =>
    have unknown : form.members.find? (·.name == name) = none := by
      refine List.find?_eq_none.mpr fun m member same => foreign ?_
      rw [← beq_iff_eq.mp same]
      exact List.mem_map_of_mem member
    rw [readMembers, unknown]
    simp only [isOpen, whole, Bool.and_self, if_true]
    exact ih taken distinct fresh v

/-- Items that are the values of the first members are put into the record one after the other. -/
theorem readItems_of_leading {ms : List (Member α)} (inside : ∀ m ∈ ms, m ∈ form.members)
    (names : (form.members.map Member.name).Nodup) (distinct : (ms.map Member.name).Nodup)
    (taken : ∀ e ∈ entries, form.Takes e)
    (leading : entries.map Entry.name <+: ms.map Member.name) (v : α) :
    readItems ms (entries.map Entry.draft) v =
      if isComplete ms (entries.map Entry.name) then .ok (entries.foldl (fun v e => e.put v) v)
      else .error .malformed := by
  induction ms generalizing entries v with
  | nil =>
    rw [List.map_nil, List.prefix_nil, List.map_eq_nil_iff] at leading
    subst leading
    rfl
  | cons m ms ih =>
    have later : ∀ m ∈ ms, m ∈ form.members := fun m member =>
      inside m (List.mem_cons_of_mem _ member)
    rw [List.map_cons, List.nodup_cons] at distinct
    cases entries with
    | nil =>
      have rest := @ih [] later distinct.2 (by simp) List.nil_prefix v
      rw [List.map_nil, readItems]
      cases required : m.required with
      | true => simp [isComplete, required]
      | false => simpa [isComplete, required] using rest
    | cons e entries =>
      rw [List.map_cons, List.map_cons, List.cons_prefix_cons] at leading
      obtain ⟨same, leading⟩ := leading
      obtain ⟨m', member, named, reads⟩ := taken e List.mem_cons_self
      obtain rfl := List.inj_on_of_nodup_map names member (inside m List.mem_cons_self)
        (named.trans same)
      rw [List.map_cons, readItems, reads]
      show readItems ms (entries.map Entry.draft) (e.put v) = _
      rw [ih later distinct.2 (fun x hx => taken x (List.mem_cons_of_mem _ hx)) leading]
      rw [List.map_cons, same, isComplete_cons distinct.1, List.foldl_cons]

/-- A tree that gives entries is read by putting them into the blank record one after the other,
unless a required member is missing. -/
theorem Gives.read {d : Draft} (h : form.Gives entries d) (isOpen : form.isOpen = true)
    (names : (form.members.map Member.name).Nodup) (taken : ∀ e ∈ entries, form.Takes e)
    (distinct : (entries.map Entry.name).Nodup) :
    form.read d =
      if isComplete form.members (entries.map Entry.name) then
        .ok (entries.foldl (fun v e => e.put v) form.blank)
      else .error .malformed := by
  cases h with
  | object lists => exact readMembers_of_lists lists isOpen names taken distinct (by simp) form.blank
  | array leading => exact readItems_of_leading (fun _ => id) names names taken leading form.blank

end Record
end Json
end Unreferenced
