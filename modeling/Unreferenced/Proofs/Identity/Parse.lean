import Unreferenced.Identity
import Unreferenced.Proofs.Kind

/-!
# File names of identities

A file name is cut at its last dot into two pieces, which are trimmed and must not be
blank (`Identity.parse_eq_ok_iff_cut`).  The identity that it gives is *proper*
(`Identity.proper_of_parse`): name and kind are not empty, the name is trimmed, the
kind is stable and without a dot.  The display form of a proper identity names the
identity itself, spelling included (`Identity.Proper.parse_fileName`).
-/

namespace Unreferenced
namespace Text

/-! ## Blank texts -/

theorem trimStart_eq_nil_iff {cs : List Char} :
    trimStart cs = [] ↔ ∀ c ∈ cs, isBlank c = true :=
  List.dropWhile_eq_nil_iff

theorem trimEnd_eq_nil_iff {cs : List Char} : trimEnd cs = [] ↔ ∀ c ∈ cs, isBlank c = true := by
  rw [trimEnd, List.reverse_eq_nil_iff, List.dropWhile_eq_nil_iff]
  simp only [List.mem_reverse]

theorem trim_eq_nil_iff {cs : List Char} : trim cs = [] ↔ ∀ c ∈ cs, isBlank c = true := by
  constructor
  · intro none c member
    by_contra visible
    exact trim_ne_nil member (Bool.eq_false_iff.mpr visible) none
  · intro blank
    rw [trim, trimStart_eq_nil_iff.mpr blank]
    rfl

/-! ## The last separator -/

theorem splitLast?_eq_none_iff {sep : Char} {cs : List Char} :
    splitLast? sep cs = none ↔ sep ∉ cs := by
  induction cs with
  | nil => simp [splitLast?]
  | cons c cs ih =>
    rw [splitLast?, List.mem_cons, not_or, ← ih]
    cases splitLast? sep cs with
    | some pieces => simp
    | none =>
      by_cases here : c = sep
      · simp [here]
      · simp [here, Ne.symm here]

/-- A text is cut into the pieces around its last separator. -/
theorem splitLast?_eq_some_iff {sep : Char} {cs before after : List Char} :
    splitLast? sep cs = some (before, after) ↔ cs = before ++ sep :: after ∧ sep ∉ after := by
  constructor
  · intro h
    induction cs generalizing before with
    | nil => cases h
    | cons c cs ih =>
      rw [splitLast?] at h
      split at h
      · next found =>
        cases h
        obtain ⟨eq, last⟩ := ih found
        exact ⟨congrArg (c :: ·) eq, last⟩
      · next none =>
        split at h
        · next here =>
          cases h
          subst here
          exact ⟨rfl, splitLast?_eq_none_iff.mp none⟩
        · cases h
  · rintro ⟨rfl, last⟩
    induction before with
    | nil =>
      rw [List.nil_append, splitLast?, splitLast?_eq_none_iff.mpr last]
      exact if_pos rfl
    | cons c cs ih => rw [List.cons_append, splitLast?, ih]

/-- Cutting and then trimming the outer sides is trimming and then cutting. -/
theorem splitLast?_trim {sep : Char} (visible : isBlank sep = false) (cs : List Char) :
    splitLast? sep (trim cs) = (splitLast? sep cs).map (Prod.map trimStart trimEnd) := by
  cases cut : splitLast? sep cs with
  | none =>
    rw [splitLast?_eq_none_iff] at cut
    exact splitLast?_eq_none_iff.mpr (mt mem_of_mem_trim cut)
  | some pieces =>
    obtain ⟨before, after⟩ := pieces
    obtain ⟨rfl, last⟩ := splitLast?_eq_some_iff.mp cut
    refine splitLast?_eq_some_iff.mpr ⟨trim_append_cons visible before after, ?_⟩
    intro member
    exact last (List.mem_reverse.mp ((List.dropWhile_suffix _).subset (List.mem_reverse.mp member)))

/-- What stands after the last separator of a text is determined by the text. -/
theorem eq_of_append_cons_eq {sep : Char} {front front' back back' : List Char}
    (last : sep ∉ back) (last' : sep ∉ back')
    (same : front ++ sep :: back = front' ++ sep :: back') : back = back' := by
  have cut : splitLast? sep (front ++ sep :: back) = some (front, back) :=
    splitLast?_eq_some_iff.mpr ⟨rfl, last⟩
  rw [splitLast?_eq_some_iff.mpr ⟨same, last'⟩] at cut
  cases cut
  rfl

end Text

namespace Identity

/-- A text names an identity if, trimmed and cut at its last dot, it has a name and
an extension. -/
theorem parse_eq_ok_iff {text : String} {i : Identity} :
    parse text = .ok i ↔
      ∃ name extension, Text.trim text.toList = name ++ '.' :: extension ∧ '.' ∉ extension ∧
        name ≠ [] ∧ extension ≠ [] ∧
        i = ofParts (String.ofList name) (Kind.ofText (String.ofList extension)) := by
  simp only [parse]
  constructor
  · intro h
    split at h
    · cases h
    · cases h
    · cases h
    · next name extension hasName hasExtension cut =>
      cases h
      obtain ⟨eq, last⟩ := Text.splitLast?_eq_some_iff.mp cut
      exact ⟨name, extension, eq, last, hasName, hasExtension, rfl⟩
  · rintro ⟨name, extension, eq, last, hasName, hasExtension, rfl⟩
    rw [Text.splitLast?_eq_some_iff.mpr ⟨eq, last⟩]
    split
    · next none => cases none
    · next none => cases none; exact absurd rfl hasName
    · next none => cases none; exact absurd rfl hasExtension
    · next same => cases same; rfl

/-- What is made of two pieces without a dot in the second one is made of the pieces trimmed. -/
theorem ofParts_eq_of_not_mem {name extension : List Char} (last : '.' ∉ extension) :
    ofParts (String.ofList name) (Kind.ofText (String.ofList extension)) =
      ⟨String.ofList (Text.trim name), ⟨String.ofList (Text.upper (Text.trim extension))⟩⟩ := by
  rw [ofParts, Text.trimmed, String.toList_ofList, ← Kind.bare_of_not_mem last, Kind.ofText,
    String.toList_ofList]
  rfl

/-- A text names an identity if it has, around its last dot, a name and an extension that are
not blank.  They are trimmed. -/
theorem parse_eq_ok_iff_cut {f : String} {j : Identity} :
    parse f = .ok j ↔ ∃ name extension, f.toList = name ++ '.' :: extension ∧ '.' ∉ extension ∧
      Text.trim name ≠ [] ∧ Text.trim extension ≠ [] ∧
      j = ⟨String.ofList (Text.trim name), ⟨String.ofList (Text.upper (Text.trim extension))⟩⟩ := by
  have visible : Text.isBlank '.' = false := by decide
  rw [parse_eq_ok_iff]
  constructor
  · rintro ⟨name, extension, cut, last, hasName, hasExtension, rfl⟩
    have pieces := Text.splitLast?_eq_some_iff.mpr ⟨cut, last⟩
    rw [Text.splitLast?_trim visible, Option.map_eq_some_iff] at pieces
    obtain ⟨⟨before, after⟩, whole, same⟩ := pieces
    cases same
    obtain ⟨eq, final⟩ := Text.splitLast?_eq_some_iff.mp whole
    refine ⟨before, after, eq, final, ?_, ?_, ?_⟩
    · rwa [Ne, Text.trim_eq_nil_iff, ← Text.trimStart_eq_nil_iff]
    · rwa [Ne, Text.trim_eq_nil_iff, ← Text.trimEnd_eq_nil_iff]
    · rw [ofParts_eq_of_not_mem last, Text.trim_trimStart, Text.trim_trimEnd]
  · rintro ⟨before, after, eq, final, hasName, hasExtension, rfl⟩
    have pieces := Text.splitLast?_trim visible f.toList
    rw [Text.splitLast?_eq_some_iff.mpr ⟨eq, final⟩, Option.map_some, Prod.map_apply,
      Text.splitLast?_eq_some_iff] at pieces
    obtain ⟨cut, last⟩ := pieces
    refine ⟨Text.trimStart before, Text.trimEnd after, cut, last, ?_, ?_, ?_⟩
    · rwa [Ne, Text.trimStart_eq_nil_iff, ← Text.trim_eq_nil_iff]
    · rwa [Ne, Text.trimEnd_eq_nil_iff, ← Text.trim_eq_nil_iff]
    · rw [ofParts_eq_of_not_mem last, Text.trim_trimStart, Text.trim_trimEnd]

/-- The name is trimmed and not empty, and the kind is stable, has a name and no dot
in it. -/
structure Proper (i : Identity) : Prop where
  name_trimmed : Text.Trimmed i.name.toList
  name_ne_nil : i.name.toList ≠ []
  stable : i.kind.IsStable
  kind_ne_nil : i.kind.text.toList ≠ []
  no_dot : '.' ∉ i.kind.text.toList

theorem toList_fileName (i : Identity) :
    i.fileName.toList = i.name.toList ++ '.' :: i.kind.text.toList := by
  rw [fileName, String.toList_append, String.toList_append, List.append_assoc]
  rfl

/-- The display form of a proper identity names the identity. -/
theorem Proper.parse_fileName {i : Identity} (h : i.Proper) : parse i.fileName = .ok i := by
  obtain ⟨bare, capital⟩ := Kind.isStable_iff.mp h.stable
  have name := Text.trim_eq_self h.name_trimmed
  have kind := Text.trim_eq_self (Kind.bare_eq_self_iff.mp bare).1
  refine parse_eq_ok_iff_cut.mpr ⟨i.name.toList, i.kind.text.toList, toList_fileName i, h.no_dot,
    ?_, ?_, ?_⟩
  · rw [name]
    exact h.name_ne_nil
  · rw [kind]
    exact h.kind_ne_nil
  · rw [name, kind, capital, String.ofList_toList, String.ofList_toList]

/-- A file name gives a proper identity. -/
theorem proper_of_parse {text : String} {i : Identity} (h : parse text = .ok i) : i.Proper := by
  obtain ⟨name, extension, -, last, hasName, hasExtension, made⟩ := parse_eq_ok_iff_cut.mp h
  have nameText : i.name.toList = Text.trim name := by rw [made, String.toList_ofList]
  have kindText : i.kind.text.toList = Text.upper (Text.trim extension) := by
    rw [made, String.toList_ofList]
  have noDot : '.' ∉ i.kind.text.toList := by
    rw [kindText, Text.mem_upper_iff (by decide)]
    exact mt Text.mem_of_mem_trim last
  refine ⟨?_, ?_, ?_, ?_, noDot⟩
  · rw [nameText]
    exact Text.trimmed_trim name
  · rwa [nameText]
  · refine Kind.isStable_iff.mpr ⟨?_, ?_⟩
    · rw [Kind.bare_of_not_mem noDot, kindText, Text.trim_upper,
        Text.trim_eq_self (Text.trimmed_trim extension)]
    · rw [kindText, Text.upper_upper]
  · rwa [kindText, Ne, Text.upper_eq_nil_iff]

end Identity
end Unreferenced
