import Unreferenced.Proofs.Identity.Parse
import Unreferenced.Proofs.Json.Records

/-!
# The text form of identities

An identity is displayed, and written in JSON, as `NAME.KIND`, and the text is read by
cutting it at its last dot.  What is read is proper, and what is proper is read back, so the
form of an identity is read back exactly if the identity is proper (`parse_fileName_iff`).
Of an identity that is made from texts, name and kind are trimmed and the kind is folded
already; what is left of being proper is that it is *separable* (`proper_ofParts_iff`).
-/

namespace Unreferenced
namespace Identity

open Json (Draft Reader)

/-- Name and kind are not empty, and the kind has no dot in it and does not begin with a
blank character. -/
def Separable (i : Identity) : Prop :=
  i.name ≠ "" ∧ i.kind.text ≠ "" ∧ '.' ∉ i.kind.text.toList ∧
    ∀ c, i.kind.text.toList.head? = some c → Text.isBlank c = false

instance (i : Identity) : Decidable i.Separable :=
  have : Decidable (∀ c, i.kind.text.toList.head? = some c → Text.isBlank c = false) :=
    decidable_of_iff ((i.kind.text.toList.head?.all fun c => !Text.isBlank c) = true) (by
      cases i.kind.text.toList.head? <;> simp)
  inferInstanceAs (Decidable (_ ∧ _ ∧ _ ∧ _))

/-- A text names an identity exactly if, trimmed, it has something before and after its last
dot. -/
theorem exists_parse_iff {text : String} : (∃ i, parse text = .ok i) ↔
    ∃ before after, Text.trim text.toList = before ++ '.' :: after ∧ '.' ∉ after ∧
      before ≠ [] ∧ after ≠ [] := by
  simp only [parse_eq_ok_iff]
  constructor
  · rintro ⟨i, before, after, cut, last, name, extension, -⟩
    exact ⟨before, after, cut, last, name, extension⟩
  · rintro ⟨before, after, cut, last, name, extension⟩
    exact ⟨_, before, after, cut, last, name, extension, rfl⟩

/-- The display form of an identity names the identity exactly if it is proper. -/
theorem parse_fileName_iff {i : Identity} : parse i.fileName = .ok i ↔ i.Proper :=
  ⟨proper_of_parse, Proper.parse_fileName⟩

theorem Proper.separable {i : Identity} (h : i.Proper) : i.Separable := by
  have bare := Kind.bare_eq_self_iff.mp (Kind.isStable_iff.mp h.stable).1
  exact ⟨mt String.toList_eq_nil_iff.mpr h.name_ne_nil,
    mt String.toList_eq_nil_iff.mpr h.kind_ne_nil, h.no_dot, bare.1.1⟩

/-- The kind that a text names is stable if it does not begin with a blank character. -/
theorem isStable_of_head? {text : String}
    (visible : ∀ c, (Kind.ofText text).text.toList.head? = some c → Text.isBlank c = false) :
    (Kind.ofText text).IsStable := by
  refine Kind.isStable_ofText_iff.mpr ?_
  intro c first
  rw [← Text.isBlank_toUpper]
  refine visible c.toUpper ?_
  rw [Kind.toList_ofText, Text.upper, List.head?_map, first]
  rfl

/-- An identity that is made from texts is proper exactly if it is separable. -/
theorem proper_ofParts_iff {name kind : String} :
    (ofParts name (Kind.ofText kind)).Proper ↔ (ofParts name (Kind.ofText kind)).Separable := by
  constructor
  · exact Proper.separable
  · rintro ⟨hasName, hasKind, noDot, visible⟩
    refine ⟨?_, mt String.toList_eq_nil_iff.mp hasName, isStable_of_head? visible,
      mt String.toList_eq_nil_iff.mp hasKind, noDot⟩
    rw [ofParts, Text.trimmed, String.toList_ofList]
    exact Text.trimmed_trim name.toList

/-- In JSON, an identity is read from a string that names it. -/
theorem run_identity_iff {s : String} {i : Identity} :
    Reader.run Reader.identity (Json.str s).compact = .ok i ↔ parse s = .ok i := by
  rw [Reader.run_compact]
  constructor
  · intro reads
    obtain ⟨s', isText, reads⟩ := Reader.bind_eq_ok.mp reads
    cases isText
    split at reads
    · next found =>
      cases reads
      exact found
    · cases reads
  · intro names
    refine Reader.bind_eq_ok.mpr ⟨s, rfl, ?_⟩
    rw [names]
    rfl

/-- **The text form of identities.**  A text names an identity exactly if, trimmed, it has a
dot with something before and after its last dot.  The identity has a name, which is trimmed,
and a kind, which has no dot and is in upper case, and its own display form names it again,
in the same spelling.  Of an identity that is made from any name and any kind, the display
form names the identity, and in JSON is read as the identity, exactly if name and kind are
not empty and the kind has no dot and does not begin with a blank character. -/
theorem text_form_parses_back :
    (∀ text : String,
      ((∃ i, parse text = .ok i) ↔
        ∃ before after, Text.trim text.toList = before ++ '.' :: after ∧ '.' ∉ after ∧
          before ≠ [] ∧ after ≠ []) ∧
      ∀ i, parse text = .ok i →
        i.name ≠ "" ∧ Text.Trimmed i.name.toList ∧ i.kind.text ≠ "" ∧
        '.' ∉ i.kind.text.toList ∧ Text.upper i.kind.text.toList = i.kind.text.toList ∧
        parse i.fileName = .ok i) ∧
    ∀ name kind : String,
      (parse (ofParts name (Kind.ofText kind)).fileName = .ok (ofParts name (Kind.ofText kind)) ↔
        (ofParts name (Kind.ofText kind)).Separable) ∧
      (Reader.run Reader.identity (Json.str (ofParts name (Kind.ofText kind)).fileName).compact =
          .ok (ofParts name (Kind.ofText kind)) ↔
        (ofParts name (Kind.ofText kind)).Separable) := by
  constructor
  · intro text
    refine ⟨exists_parse_iff, ?_⟩
    intro i names
    have proper := proper_of_parse names
    obtain ⟨hasName, hasKind, noDot, -⟩ := proper.separable
    exact ⟨hasName, proper.name_trimmed, hasKind, noDot, (Kind.isStable_iff.mp proper.stable).2,
      proper.parse_fileName⟩
  · intro name kind
    have back : parse (ofParts name (Kind.ofText kind)).fileName =
        .ok (ofParts name (Kind.ofText kind)) ↔ (ofParts name (Kind.ofText kind)).Separable :=
      parse_fileName_iff.trans proper_ofParts_iff
    exact ⟨back, run_identity_iff.trans back⟩

/-- Around the last dot of a text blank characters do not count.  But a kind that is made from
a text with a blank character after its dots begins with this character, and the display
form of such a kind names another one. -/
theorem text_form_parses_back_blank :
    parse " Sword .1. itm\u00a0" = .ok ⟨"Sword .1", ⟨"ITM"⟩⟩ ∧
      parse (⟨"Sword .1", ⟨"ITM"⟩⟩ : Identity).fileName = .ok ⟨"Sword .1", ⟨"ITM"⟩⟩ ∧
      parse (ofParts "Sword" (Kind.ofText ". itm")).fileName ≠
        .ok (ofParts "Sword" (Kind.ofText ". itm")) := by
  have names : parse " Sword .1. itm\u00a0" = .ok ⟨"Sword .1", ⟨"ITM"⟩⟩ := by rfl
  obtain ⟨-, -, -, -, -, back⟩ := (text_form_parses_back.1 _).2 _ names
  refine ⟨names, back, ?_⟩
  rw [Ne, (text_form_parses_back.2 "Sword" ". itm").1]
  decide +kernel

end Identity
end Unreferenced
