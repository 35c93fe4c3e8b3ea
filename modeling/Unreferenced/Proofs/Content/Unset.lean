import Unreferenced.Proofs.Content.Format

/-!
# Names that are unset

The test for an unset name looks at the stored name, and the identity is made from
the trimmed one.  For a name that is unset but for blanks around it
(`Field.Padded`) the two differ.  A reference field made from parts never stores
such a name (`Field.not_padded_trimmed`), but one that is read from a text can
(`Field.readList_toJson`).  It is then emitted as a reference without a name
(`Field.emits_unset_iff`), and so `Content.emits_unset_iff_padded` says for which
contents the rule that unset references are not emitted holds.
-/

namespace Unreferenced

theorem Text.trimmed_trimmed (s : String) : trimmed (trimmed s) = trimmed s := by
  rw [trimmed, trimmed, String.toList_ofList, trim_eq_self (trimmed_trim s.toList)]

namespace Field

open Json (Draft Reader)

/-! ## Padded names -/

/-- The name is unset once it is trimmed, and not before. -/
def Padded (name : String) : Prop :=
  isUnset name = false ∧ isUnset (Text.trimmed name) = true

instance : DecidablePred Padded := fun name =>
  inferInstanceAs (Decidable (isUnset name = false ∧ isUnset (Text.trimmed name) = true))

/-- No blank is in a name that is unset. -/
theorem trimmed_of_isUnset {name : String} (h : isUnset name = true) :
    Text.trimmed name = name := by
  rcases isUnset_iff.mp h with rfl | sentinel
  · rfl
  · have visible : ("NONE".toList.all fun c => !Text.isBlank c) = true := by rfl
    have letters : ∀ c ∈ name.toList, Text.isBlank c = false := by
      intro c member
      have folded : c.toUpper ∈ "NONE".toList := sentinel ▸ List.mem_map_of_mem member
      have := List.all_eq_true.mp visible _ folded
      rwa [Text.isBlank_toUpper, Bool.not_eq_true'] at this
    have whole : Text.Trimmed name.toList :=
      ⟨fun c first => letters c (List.mem_of_mem_head? first),
        fun c last => letters c (List.mem_of_getLast? last)⟩
    rw [Text.trimmed, Text.trim_eq_self whole, String.ofList_toList]

/-- A name that is not padded is unset exactly if it is once trimmed. -/
theorem not_padded_iff {name : String} :
    ¬Padded name ↔ isUnset name = isUnset (Text.trimmed name) := by
  rw [Padded]
  cases stored : isUnset name with
  | false => cases isUnset (Text.trimmed name) <;> simp
  | true => simp [trimmed_of_isUnset stored, stored]

theorem not_padded_trimmed (name : String) : ¬Padded (Text.trimmed name) := by
  rw [not_padded_iff, Text.trimmed_trimmed]

/-! ## What is emitted -/

/-- A reference field that is made from parts is emitted unless its name, once
trimmed, is unset. -/
theorem reference?_toResource (name : String) (kind : Kind) :
    (toResource name kind).reference? =
      if isUnset (Text.trimmed name) then none else some (Identity.ofParts name kind) := by
  rw [toResource, reference?, Identity.ofParts, Text.trimmed_trimmed]
  rfl

/-- A field emits a reference without a name exactly if its name is padded. -/
theorem emits_unset_iff {leaf : Field} :
    (∃ i, leaf.reference? = some i ∧ isUnset i.name = true) ↔
      ∃ kind name, leaf = .resourceRef kind name ∧ Padded name := by
  constructor
  · rintro ⟨i, emitted, unset⟩
    cases leaf with
    | resourceRef kind name =>
      rw [reference?] at emitted
      split at emitted
      · cases emitted
      · next set =>
        cases emitted
        exact ⟨kind, name, rfl, Bool.eq_false_iff.mpr set, unset⟩
    | _ => cases emitted
  · rintro ⟨kind, name, rfl, set, unset⟩
    refine ⟨Identity.ofParts name kind, ?_, unset⟩
    rw [reference?, set]
    rfl

/-- The two ways of making a reference field from a name agree unless the name is
padded. -/
theorem reference?_eq_iff (name : String) (kind : Kind) :
    (resourceRef kind name).reference? = (toResource name kind).reference? ↔ ¬Padded name := by
  rw [not_padded_iff, reference?_toResource, reference?]
  cases isUnset name <;> cases isUnset (Text.trimmed name) <;> simp

/-- Whatever names the fields have, they can be read from a text that is not too
deep. -/
theorem readList_toJson {fields : List Field} (low : heights fields < Json.maxDepth)
    (stable : Stable fields) :
    Reader.run readList (Json.arr (listToJson fields)).compact = .ok fields := by
  rw [Reader.run_compact, readList]
  exact listOf_read_toJson false (Nat.le_pred_of_lt low) stable

end Field

namespace Content

open Unreferenced.Field (Padded isUnset)

/-- A content emits an unset reference exactly if one of its names is padded.  The two
ways of making a field agree exactly for the names that are not: a field that is made
from parts is never emitted with an unset name, but a field that is read from a text
keeps whatever name is written there. -/
theorem emits_unset_iff_padded (content : Content) (name : String) (kind : Kind) :
    ((∃ leaf i, content.HasLeaf leaf ∧ leaf.reference? = some i ∧ isUnset i.name = true) ↔
      ∃ kind name, content.HasLeaf (.resourceRef kind name) ∧ Padded name) ∧
    ((Field.toResource name kind).reference? =
      if isUnset (Text.trimmed name) then none else some (Identity.ofParts name kind)) ∧
    ((Field.resourceRef kind name).reference? = (Field.toResource name kind).reference? ↔
      ¬Padded name) ∧
    ∀ fields, Field.heights fields < Json.maxDepth → Field.Stable fields →
      Json.Reader.run Field.readList (Json.arr (Field.listToJson fields)).compact = .ok fields := by
  refine ⟨?_, Field.reference?_toResource name kind, Field.reference?_eq_iff name kind,
    fun _ => Field.readList_toJson⟩
  constructor
  · rintro ⟨leaf, i, among, emitted⟩
    obtain ⟨kind, name, rfl, padded⟩ := Field.emits_unset_iff.mp ⟨i, emitted⟩
    exact ⟨kind, name, among, padded⟩
  · rintro ⟨kind, name, among, padded⟩
    obtain ⟨i, emitted⟩ := Field.emits_unset_iff.mpr ⟨kind, name, rfl, padded⟩
    exact ⟨_, i, among, emitted⟩

theorem emits_unset_iff_padded_in_group :
    Json.Reader.run Field.readList (Json.arr (Field.listToJson
        [.group "slot" [.resourceRef ⟨"ITM"⟩ " none"]])).compact =
          .ok [.group "slot" [.resourceRef ⟨"ITM"⟩ " none"]] ∧
      ∃ leaf i, (structured ⟨[.group "slot" [.resourceRef ⟨"ITM"⟩ " none"]]⟩).HasLeaf leaf ∧
        leaf.reference? = some i ∧ isUnset i.name = true := by
  obtain ⟨emits, -, -, readBack⟩ := emits_unset_iff_padded
    (.structured ⟨[.group "slot" [.resourceRef ⟨"ITM"⟩ " none"]]⟩) " none" ⟨"ITM"⟩
  refine ⟨readBack _ (by decide) ?_, emits.mpr ⟨⟨"ITM"⟩, " none", .inside (.here rfl), by decide⟩⟩
  intro kind name leaf
  cases leaf with
  | inside leaf =>
    cases leaf with
    | here => decide
    | later none => cases none
  | later none => cases none

/-- A blank in front of the word NONE makes a text emit a reference to that name;
a field that is made from the same name and kind emits none. -/
theorem padded_name_emitted :
    ∃ field i, Json.Reader.run Field.readList
        (Json.arr (Field.listToJson [.resourceRef ⟨"ITM"⟩ " none"])).compact = .ok [field] ∧
      field.reference? = some i ∧ isUnset i.name = true ∧
      (Field.toResource " none" ⟨"ITM"⟩).reference? = none := by
  refine ⟨.resourceRef ⟨"ITM"⟩ " none", ⟨"none", ⟨"ITM"⟩⟩, ?_, by rfl, by decide, by rfl⟩
  rw [Json.Reader.run_compact]
  rfl

end Content
end Unreferenced
