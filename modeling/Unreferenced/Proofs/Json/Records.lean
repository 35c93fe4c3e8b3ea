import Mathlib.Data.List.Nodup
import Unreferenced.Proofs.Json.Tree

/-!
# Reading records

What the readers of scalars, lists and records find in the draft of a written
value, and the other way round what can be said of a record from the parts of
the draft that it was read from.

A record written as an object with all members in their order reads like the
array of these members (`Record.read_members`), so that a written record is read
back member by member.  Conversely, a record that is read has been made in steps,
each of which reads one part as one member (`Record.read_eq_ok`).  So what holds
of the blank record and is kept by every member holds of the record
(`Record.read_keeps`), and so does what a required member brings about
(`Record.read_required`).
-/

namespace Unreferenced
namespace Json

/-! ## Scalars and lists -/

namespace Reader

/-- Two readings in turn give a value exactly if the first one does and the second
one does from there. -/
theorem bind_eq_ok {α β : Type} {x : Except ReadError α} {f : α → Except ReadError β} {b : β} :
    (x >>= f) = .ok b ↔ ∃ a, x = .ok a ∧ f a = .ok b := by
  cases x with
  | error e =>
    constructor
    · intro h
      cases h
    · rintro ⟨a, h, -⟩
      cases h
  | ok a =>
    constructor
    · intro h
      exact ⟨a, rfl, h⟩
    · rintro ⟨a', ⟨⟩, h⟩
      exact h

theorem intBetween_ofJson {low high i : Int} (h : low ≤ i ∧ i ≤ high) :
    intBetween low high (Draft.ofJson (.int i)) = .ok i := by
  rw [Draft.ofJson, intBetween, Numeral.toInt?_ofInt]
  exact if_pos h

/-- A number of 32 bits with sign is read back. -/
theorem int32_ofJson (i : Int32) : int32 (Draft.ofJson (.int i.toInt)) = .ok i := by
  have low := Int32.le_toInt i
  have high := Int32.toInt_lt i
  rw [int32, intBetween_ofJson (by omega)]
  show Except.ok (Int32.ofInt i.toInt) = _
  rw [Int32.ofInt_toInt]

/-- A natural number below a bound is read back. -/
theorem natBelow_ofJson {bound n : Nat} (small : n < bound) :
    natBelow bound (Draft.ofJson (.nat n)) = .ok n := by
  rw [natBelow, Json.nat, intBetween_ofJson (by omega)]
  rfl

/-- A count of 64 bits is read back. -/
theorem count_ofJson {n : Nat} (small : n < countBound) :
    count (Draft.ofJson (.nat n)) = .ok n :=
  natBelow_ofJson small

/-- A kind is made anew from its text. -/
theorem kind_ofJson (k : Kind) : kind (Draft.ofJson (.str k.text)) = .ok (Kind.ofText k.text) := rfl

theorem text_ofJson (s : String) : text (Draft.ofJson (.str s)) = .ok s := rfl

theorem bool_ofJson (b : Bool) : bool (Draft.ofJson (.bool b)) = .ok b := rfl

theorem optional_text_ofJson (s? : Option String) :
    optional text (Draft.ofJson (.optStr s?)) = .ok s? := by
  cases s? <;> rw [optStr, Draft.ofJson] <;> rfl

variable {α : Type} {r : Reader α} {d : Draft}

/-- What is read of a written list is what is read of its members. -/
theorem listOf_map_ofJson {β : Type} {f : β → Json} {g : β → α} {xs : List β}
    (members : ∀ x ∈ xs, r (Draft.ofJson (f x)) = .ok (g x)) :
    listOf r (Draft.ofJson (.arr (xs.map f))) = .ok (xs.map g) := by
  rw [Draft.ofJson, Draft.ofItems_eq_map, listOf]
  induction xs with
  | nil => rfl
  | cons x xs ih =>
    rw [List.map_cons, List.map_cons, List.mapM_cons, members x List.mem_cons_self,
      ih fun y hy => members y (List.mem_cons_of_mem _ hy)]
    rfl

/-- A list is read back if its members are. -/
theorem listOf_ofJson {f : α → Json} {xs : List α}
    (members : ∀ x ∈ xs, r (Draft.ofJson (f x)) = .ok x) :
    listOf r (Draft.ofJson (.arr (xs.map f))) = .ok xs := by
  rw [listOf_map_ofJson (g := id) members, List.map_id]

/-- The members of a list are read from the parts of an array. -/
theorem listOf_eq_ok {xs : List α} (h : listOf r d = .ok xs) :
    ∃ items, d = .arr items ∧ ∀ x ∈ xs, ∃ item ∈ items, r item = .ok x := by
  cases d with
  | arr items =>
    refine ⟨items, rfl, ?_⟩
    rw [listOf] at h
    induction items generalizing xs with
    | nil =>
      cases h
      simp
    | cons item items ih =>
      rw [List.mapM_cons] at h
      obtain ⟨y, first, h⟩ := bind_eq_ok.mp h
      obtain ⟨ys, others, ⟨⟩⟩ := bind_eq_ok.mp h
      intro x member
      rcases List.mem_cons.mp member with rfl | member
      · exact ⟨item, List.mem_cons_self, first⟩
      · obtain ⟨part, inside, reads⟩ := ih others x member
        exact ⟨part, List.mem_cons_of_mem _ inside, reads⟩
  | _ => cases h

/-- A value that may be null is read as one that may not, unless it is absent. -/
theorem optional_eq_some {x : α} (h : optional r d = .ok (some x)) : r d = .ok x := by
  cases d with
  | null => cases h
  | _ =>
    obtain ⟨y, reads, ⟨⟩⟩ := bind_eq_ok.mp h
    exact reads

/-- A value that may be null is read like one that may not, where it is an object. -/
theorem optional_obj {members : List (Option String × Draft)} {x : α}
    (h : r (.obj members) = .ok x) : optional r (.obj members) = .ok (some x) := by
  rw [optional.eq_2 _ _ (by nofun), h]
  rfl

end Reader

/-! ## Written records -/

section Written

variable {α β : Type}

theorem Member.must_read {name : String} {r : Reader β} {put : β → α → α} {d : Draft} {v w : α} :
    (must name r put).read d v = .ok w ↔ ∃ b, r d = .ok b ∧ put b v = w := by
  rw [must, Reader.bind_eq_ok]
  simp only [pure, Except.pure, Except.ok.injEq]

theorem Member.may_read {name : String} {r : Reader β} {put : β → α → α} {d : Draft} {v w : α} :
    (may name r put).read d v = .ok w ↔ ∃ b, r d = .ok b ∧ put b v = w := by
  rw [may, Reader.bind_eq_ok]
  simp only [pure, Except.pure, Except.ok.injEq]

theorem Record.readItems_must {name : String} {r : Reader β} {put : β → α → α}
    {ms : List (Member α)} {d : Draft} {ds : List Draft} {b : β} (h : r d = .ok b) (v : α) :
    readItems (.must name r put :: ms) (d :: ds) v = readItems ms ds (put b v) := by
  rw [readItems, Member.must_read.mpr ⟨b, h, rfl⟩]
  rfl

theorem Record.readItems_may {name : String} {r : Reader β} {put : β → α → α}
    {ms : List (Member α)} {d : Draft} {ds : List Draft} {b : β} (h : r d = .ok b) (v : α) :
    readItems (.may name r put :: ms) (d :: ds) v = readItems ms ds (put b v) := by
  rw [readItems, Member.may_read.mpr ⟨b, h, rfl⟩]
  rfl

theorem Record.find?_name {form : Record α} (names : (form.members.map Member.name).Nodup)
    {m : Member α} (h : m ∈ form.members) :
    form.members.find? (·.name == m.name) = some m := by
  cases found : form.members.find? (·.name == m.name) with
  | none => simpa using List.find?_eq_none.mp found m h
  | some other =>
    have same : other.name = m.name := by simpa using List.find?_some found
    rw [List.inj_on_of_nodup_map names (List.mem_of_find?_eq_some found) h same]

/-- The last members of an object, in their order, read like those of an array. -/
theorem Record.readMembers_zip {form : Record α} (names : (form.members.map Member.name).Nodup)
    (before : List (Member α)) {ms : List (Member α)} (split : form.members = before ++ ms)
    {ds : List Draft} (full : ds.length = ms.length) (v : α) :
    form.readMembers ((ms.map fun m => some m.name).zip ds) (before.map Member.name).reverse v =
      readItems ms ds v := by
  induction ms generalizing before ds v with
  | nil =>
    rw [List.length_nil, List.length_eq_zero_iff] at full
    rw [List.append_nil] at split
    subst full
    rw [List.map_nil, List.zip_nil_left, readMembers, readItems, if_pos]
    rw [split, List.all_eq_true]
    intro m member
    simp only [List.contains_eq_mem, List.mem_reverse, Bool.or_eq_true, decide_eq_true_eq]
    exact .inr (List.mem_map_of_mem member)
  | cons m ms ih =>
    cases ds with
    | nil => cases full
    | cons d ds =>
      have member : m ∈ form.members := by rw [split]; simp
      have fresh : m.name ∉ before.map Member.name := by
        rw [split, List.map_append, List.map_cons] at names
        exact fun seen => (List.nodup_append.mp names).2.2 _ seen _ List.mem_cons_self rfl
      rw [List.map_cons, List.zip_cons_cons, readMembers, find?_name names member, readItems]
      simp only [List.contains_eq_mem, List.mem_reverse, fresh, decide_false, Bool.false_eq_true,
        if_false]
      congr 1
      funext w
      have next := ih (before ++ [m]) (by simp [split]) (by simpa using full) w
      simpa using next

/-- An object with all members in their order reads like the array of them. -/
theorem Record.read_members {form : Record α} (names : (form.members.map Member.name).Nodup)
    (ds : List Draft) (full : ds.length = form.members.length) :
    form.read (.obj ((form.members.map fun m => some m.name).zip ds)) =
      readItems form.members ds form.blank :=
  readMembers_zip names [] (List.nil_append _).symm full form.blank

end Written

/-! ## Records that are read -/

/-- The parts of a draft: the items of an array, the values of an object. -/
def Draft.parts : Draft → List Draft
  | .arr items => items
  | .obj members => members.map (·.2)
  | _ => []

namespace Record

variable {α : Type}

/-- Reads parts in turn, each of them as a member. -/
def readSteps : List (Member α × Draft) → α → Except ReadError α
  | [], v => .ok v
  | (m, d) :: rest, v => do
    let v ← m.read d v
    readSteps rest v

theorem readMembers_eq_ok {form : Record α} {parts : List (Option String × Draft)}
    {seen : List String} {v w : α} (h : form.readMembers parts seen v = .ok w) :
    ∃ steps, readSteps steps v = .ok w ∧
      (∀ s ∈ steps, s.1 ∈ form.members ∧ s.2 ∈ parts.map (·.2)) ∧
      ∀ m ∈ form.members, m.required = true →
        m.name ∈ seen ∨ ∃ s ∈ steps, s.1.name = m.name := by
  induction parts generalizing seen v with
  | nil =>
    rw [readMembers] at h
    split at h
    · next complete =>
      cases h
      refine ⟨[], rfl, by simp, ?_⟩
      intro m member required
      have := List.all_eq_true.mp complete m member
      rw [required] at this
      exact .inl (by simpa using this)
    · cases h
  | cons part parts ih =>
    obtain ⟨key, d⟩ := part
    cases key with
    | none => cases h
    | some name =>
      rw [readMembers] at h
      split at h
      · -- a name that no member has leaves the record as it is
        split at h
        · obtain ⟨steps, reads, inside, complete⟩ := ih h
          refine ⟨steps, reads, ?_, complete⟩
          intro s member
          exact ⟨(inside s member).1, List.mem_cons_of_mem _ (inside s member).2⟩
        · cases h
      · next m found =>
        split at h
        · cases h
        · obtain ⟨u, first, h⟩ := Reader.bind_eq_ok.mp h
          obtain ⟨steps, reads, inside, complete⟩ := ih h
          have named : m.name = name := by simpa using List.find?_some found
          refine ⟨(m, d) :: steps, Reader.bind_eq_ok.mpr ⟨u, first, reads⟩, ?_, ?_⟩
          · intro s hs
            rcases List.mem_cons.mp hs with rfl | hs
            · exact ⟨List.mem_of_find?_eq_some found, List.mem_cons_self⟩
            · exact ⟨(inside s hs).1, List.mem_cons_of_mem _ (inside s hs).2⟩
          · intro m' member required
            rcases complete m' member required with hm | ⟨s, hs, same⟩
            · rcases List.mem_cons.mp hm with hm | hm
              · exact .inr ⟨(m, d), List.mem_cons_self, named.trans hm.symm⟩
              · exact .inl hm
            · exact .inr ⟨s, List.mem_cons_of_mem _ hs, same⟩

theorem readItems_eq_ok {ms : List (Member α)} {ds : List Draft} {v w : α}
    (h : readItems ms ds v = .ok w) :
    ∃ steps, readSteps steps v = .ok w ∧ (∀ s ∈ steps, s.1 ∈ ms ∧ s.2 ∈ ds) ∧
      ∀ m ∈ ms, m.required = true → ∃ s ∈ steps, s.1.name = m.name := by
  induction ms generalizing ds v with
  | nil =>
    cases ds with
    | nil => exact ⟨[], h, by simp, by simp⟩
    | cons d ds => cases h
  | cons m ms ih =>
    cases ds with
    | nil =>
      rw [readItems] at h
      split at h
      · cases h
      · next optional =>
        obtain ⟨steps, reads, inside, complete⟩ := ih h
        refine ⟨steps, reads, fun s hs => ⟨List.mem_cons_of_mem _ (inside s hs).1, (inside s hs).2⟩,
          ?_⟩
        intro m' member required
        rcases List.mem_cons.mp member with rfl | member
        · exact absurd required optional
        · exact complete m' member required
    | cons d ds =>
      obtain ⟨u, first, h⟩ := Reader.bind_eq_ok.mp h
      obtain ⟨steps, reads, inside, complete⟩ := ih h
      refine ⟨(m, d) :: steps, Reader.bind_eq_ok.mpr ⟨u, first, reads⟩, ?_, ?_⟩
      · intro s hs
        rcases List.mem_cons.mp hs with rfl | hs
        · exact ⟨List.mem_cons_self, List.mem_cons_self⟩
        · exact ⟨List.mem_cons_of_mem _ (inside s hs).1, List.mem_cons_of_mem _ (inside s hs).2⟩
      · intro m' member required
        rcases List.mem_cons.mp member with rfl | member
        · exact ⟨(m', d), List.mem_cons_self, rfl⟩
        · obtain ⟨s, hs, same⟩ := complete m' member required
          exact ⟨s, List.mem_cons_of_mem _ hs, same⟩

/-- A record that is read is made in steps: each reads a part of the draft as a
member, and no required member is left out. -/
theorem read_eq_ok {form : Record α} {d : Draft} {v : α} (h : form.read d = .ok v) :
    ∃ steps, readSteps steps form.blank = .ok v ∧
      (∀ s ∈ steps, s.1 ∈ form.members ∧ s.2 ∈ d.parts) ∧
      ∀ m ∈ form.members, m.required = true → ∃ s ∈ steps, s.1.name = m.name := by
  cases d with
  | obj parts =>
    obtain ⟨steps, reads, inside, complete⟩ := readMembers_eq_ok h
    refine ⟨steps, reads, inside, ?_⟩
    intro m member required
    exact (complete m member required).resolve_left (by simp)
  | arr items => exact readItems_eq_ok h
  | _ => cases h

/-- What every step keeps, all of them keep. -/
theorem readSteps_keeps {P : α → Prop} {steps : List (Member α × Draft)}
    (keeps : ∀ s ∈ steps, ∀ v w, s.1.read s.2 v = .ok w → P v → P w) {v w : α}
    (h : readSteps steps v = .ok w) (start : P v) : P w := by
  induction steps generalizing v with
  | nil =>
    cases h
    exact start
  | cons s steps ih =>
    obtain ⟨u, first, h⟩ := Reader.bind_eq_ok.mp h
    exact ih (fun s hs => keeps s (List.mem_cons_of_mem _ hs)) h
      (keeps s List.mem_cons_self v u first start)

/-- What holds of the blank record and is kept by every member holds of every
record that is read. -/
theorem read_keeps {form : Record α} {d : Draft} {v : α} (h : form.read d = .ok v)
    {P : α → Prop} (blank : P form.blank)
    (keeps : ∀ m ∈ form.members, ∀ part ∈ d.parts, ∀ v w, m.read part v = .ok w → P v → P w) :
    P v := by
  obtain ⟨steps, reads, inside, -⟩ := read_eq_ok h
  exact readSteps_keeps (fun s hs => keeps s.1 (inside s hs).1 s.2 (inside s hs).2) reads blank

/-- What the steps of one member bring about and all other steps keep is there at
the end, if the member is read at all. -/
theorem readSteps_makes {Q : α → Prop} {name : String} {steps : List (Member α × Draft)}
    (makes : ∀ s ∈ steps, s.1.name = name → ∀ v w, s.1.read s.2 v = .ok w → Q w)
    (keeps : ∀ s ∈ steps, s.1.name ≠ name → ∀ v w, s.1.read s.2 v = .ok w → Q v → Q w)
    (named : ∃ s ∈ steps, s.1.name = name) {v w : α} (h : readSteps steps v = .ok w) : Q w := by
  induction steps generalizing v with
  | nil =>
    obtain ⟨s, hs, -⟩ := named
    cases hs
  | cons first steps ih =>
    obtain ⟨u, read, h⟩ := Reader.bind_eq_ok.mp h
    have makesLater := fun s hs => makes s (List.mem_cons_of_mem first hs)
    have keepsLater := fun s hs => keeps s (List.mem_cons_of_mem first hs)
    by_cases here : first.1.name = name
    · refine readSteps_keeps ?_ h (makes first List.mem_cons_self here v u read)
      intro s hs v w step before
      by_cases again : s.1.name = name
      · exact makesLater s hs again v w step
      · exact keepsLater s hs again v w step before
    · obtain ⟨s, hs, same⟩ := named
      rcases List.mem_cons.mp hs with rfl | hs
      · exact absurd same here
      · exact ih makesLater keepsLater ⟨s, hs, same⟩ h

/-- What a required member brings about and every other member keeps holds of
every record that is read. -/
theorem read_required {form : Record α} {d : Draft} {v : α} (h : form.read d = .ok v)
    {Q : α → Prop} (name : String)
    (required : ∃ m ∈ form.members, m.name = name ∧ m.required = true)
    (makes : ∀ m ∈ form.members, m.name = name →
      ∀ part ∈ d.parts, ∀ v w, m.read part v = .ok w → Q w)
    (keeps : ∀ m ∈ form.members, m.name ≠ name →
      ∀ part ∈ d.parts, ∀ v w, m.read part v = .ok w → Q v → Q w) : Q v := by
  obtain ⟨steps, reads, inside, complete⟩ := read_eq_ok h
  obtain ⟨m, member, rfl, must⟩ := required
  exact readSteps_makes (fun s hs same => makes s.1 (inside s hs).1 same s.2 (inside s hs).2)
    (fun s hs other => keeps s.1 (inside s hs).1 other s.2 (inside s hs).2)
    (complete m member must) reads

end Record
end Json
end Unreferenced
