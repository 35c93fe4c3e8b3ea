import Unreferenced.Proofs.Identity.Parse
import Unreferenced.Proofs.LetterCase.Names

/-!
# File names that match

Both matching a file name against an identity and parsing it cut the file name at its last
dot, but only parsing trims the two pieces.  So an identity matches its own display form, in
any letter case, and nothing else (`Identity.matchesFileName_iff_alike`), while the file names
that parse to it may have blank characters around their two pieces
(`Identity.exists_parse_beq_iff`).  The latter match if they have none
(`Identity.matchesFileName_iff_parse`).
-/

namespace Unreferenced

/-! ## Trimming and letter case -/

namespace Text

/-- Trimming changes a text in more than letter case unless the text is trimmed already. -/
theorem upper_trim_eq_iff {cs : List Char} : upper (trim cs) = upper cs ↔ Trimmed cs := by
  constructor
  · intro same
    have length := congrArg List.length same
    rw [length_upper, length_upper] at length
    exact trimmed_iff.mpr ((Kind.trim_sublist cs).eq_of_length length)
  · intro trimmed
    rw [trim_eq_self trimmed]

/-- Of two texts that fold to the same text, either both are trimmed or none is. -/
theorem trimmed_congr {cs ds : List Char} (same : upper cs = upper ds) :
    Trimmed cs ↔ Trimmed ds := by
  rw [← upper_trim_eq_iff, ← trim_upper, same, trim_upper, upper_trim_eq_iff]

end Text

namespace Identity

/-! ## Matching -/

theorem upper_fileName (i : Identity) : Text.upper i.fileName.toList =
    Text.upper i.name.toList ++ '.' :: Text.upper i.kind.text.toList := by
  rw [toList_fileName, Text.upper, List.map_append, List.map_cons]
  rfl

/-- A file name matches if its two pieces are the name and the kind up to letter case. -/
theorem matchesFileName_iff {i : Identity} {f : String} : i.matchesFileName f = true ↔
    ∃ name extension, f.toList = name ++ '.' :: extension ∧ '.' ∉ extension ∧
      Text.upper name = Text.upper i.name.toList ∧
      Text.upper extension = Text.upper i.kind.text.toList := by
  simp only [← and_assoc, ← Text.splitLast?_eq_some_iff, matchesFileName]
  cases Text.splitLast? '.' f.toList with
  | none => simp
  | some pieces =>
    obtain ⟨name, extension⟩ := pieces
    simp [Text.sameFolded_iff]

/-- An identity matches its display form in any letter case, and nothing else.  If its kind
has a dot in it, the display form is cut at another place, and nothing matches. -/
theorem matchesFileName_iff_alike {i : Identity} {f : String} :
    i.matchesFileName f = true ↔ '.' ∉ i.kind.text.toList ∧ Text.Alike f i.fileName := by
  have mark : ('.' : Char).isAlpha = false := by decide
  rw [matchesFileName_iff, Text.alike_iff, upper_fileName]
  constructor
  · rintro ⟨name, extension, cut, last, sameName, sameKind⟩
    constructor
    · rwa [← Text.mem_upper_iff mark, ← sameKind, Text.mem_upper_iff mark]
    · rw [cut, Text.upper, List.map_append, List.map_cons, ← sameName, ← sameKind]
      rfl
  · rintro ⟨noDot, alike⟩
    have cut : Text.splitLast? '.' (Text.upper f.toList) =
        some (Text.upper i.name.toList, Text.upper i.kind.text.toList) :=
      Text.splitLast?_eq_some_iff.mpr ⟨alike, mt (Text.mem_upper_iff mark).mp noDot⟩
    rw [Text.splitLast?_upper mark, Option.map_eq_some_iff] at cut
    obtain ⟨⟨name, extension⟩, cut, same⟩ := cut
    obtain ⟨eq, last⟩ := Text.splitLast?_eq_some_iff.mp cut
    exact ⟨name, extension, eq, last, congrArg Prod.fst same, congrArg Prod.snd same⟩

/-! ## Parsing -/

/-- The file names that parse to a proper identity, up to equality, have its name and its kind
around the last dot, up to letter case and to blank characters around the two pieces. -/
theorem exists_parse_beq_iff {i : Identity} (proper : i.Proper) {f : String} :
    (∃ j, parse f = .ok j ∧ (j == i) = true) ↔
      ∃ name extension, f.toList = name ++ '.' :: extension ∧ '.' ∉ extension ∧
        Text.upper (Text.trim name) = Text.upper i.name.toList ∧
        Text.upper (Text.trim extension) = Text.upper i.kind.text.toList := by
  have capital : Text.upper i.kind.text.toList = i.kind.text.toList :=
    (Kind.isStable_iff.mp proper.stable).2
  simp only [parse_eq_ok_iff_cut, beq_iff, capital]
  constructor
  · rintro ⟨-, ⟨name, extension, cut, last, -, -, rfl⟩, sameKind, sameName⟩
    rw [String.toList_ofList] at sameName
    refine ⟨name, extension, cut, last, sameName, ?_⟩
    rw [← sameKind, String.toList_ofList]
  · rintro ⟨name, extension, cut, last, sameName, sameKind⟩
    refine ⟨_, ⟨name, extension, cut, last, ?_, ?_, rfl⟩, ?_, ?_⟩
    · intro none
      rw [none, eq_comm, Text.upper_eq_nil_iff.mpr rfl, Text.upper_eq_nil_iff] at sameName
      exact proper.name_ne_nil sameName
    · intro none
      rw [none, Text.upper_eq_nil_iff.mpr rfl] at sameKind
      exact proper.kind_ne_nil sameKind.symm
    · rw [sameKind, String.ofList_toList]
    · rw [String.toList_ofList, sameName]

/-! ## Agreement -/

/-- No blank character stands around the name or around the extension of a file name, which is
cut at its last dot. -/
def Unpadded (f : String) : Prop :=
  ∃ name extension, f.toList = name ++ '.' :: extension ∧ '.' ∉ extension ∧
    Text.Trimmed name ∧ Text.Trimmed extension

theorem unpadded_iff {f : String} {name extension : List Char}
    (cut : f.toList = name ++ '.' :: extension) (last : '.' ∉ extension) :
    Unpadded f ↔ Text.Trimmed name ∧ Text.Trimmed extension := by
  constructor
  · rintro ⟨name', extension', cut', last', trimmed⟩
    have pieces := Text.splitLast?_eq_some_iff.mpr ⟨cut', last'⟩
    rw [Text.splitLast?_eq_some_iff.mpr ⟨cut, last⟩] at pieces
    cases pieces
    exact trimmed
  · intro trimmed
    exact ⟨name, extension, cut, last, trimmed⟩

/-- The file names that match a proper identity are those that parse to an equal one and have
no blank characters around their two pieces. -/
theorem matchesFileName_iff_parse {i : Identity} (proper : i.Proper) {f : String} :
    i.matchesFileName f = true ↔ (∃ j, parse f = .ok j ∧ (j == i) = true) ∧ Unpadded f := by
  have trimmedKind : Text.Trimmed i.kind.text.toList :=
    (Kind.bare_eq_self_iff.mp (Kind.isStable_iff.mp proper.stable).1).1
  rw [matchesFileName_iff, exists_parse_beq_iff proper]
  constructor
  · rintro ⟨name, extension, cut, last, sameName, sameKind⟩
    have trimmed : Text.Trimmed name ∧ Text.Trimmed extension :=
      ⟨(Text.trimmed_congr sameName).mpr proper.name_trimmed,
        (Text.trimmed_congr sameKind).mpr trimmedKind⟩
    refine ⟨⟨name, extension, cut, last, ?_, ?_⟩, (unpadded_iff cut last).mpr trimmed⟩
    · rwa [Text.trim_eq_self trimmed.1]
    · rwa [Text.trim_eq_self trimmed.2]
  · rintro ⟨⟨name, extension, cut, last, sameName, sameKind⟩, unpadded⟩
    obtain ⟨trimmedName, trimmedExtension⟩ := (unpadded_iff cut last).mp unpadded
    rw [Text.trim_eq_self trimmedName] at sameName
    rw [Text.trim_eq_self trimmedExtension] at sameKind
    exact ⟨name, extension, cut, last, sameName, sameKind⟩

/-- **Matching agrees with the text form.**  A file name matches an identity exactly if it is
the display form of the identity up to letter case and the kind has no dot in it, as the kind
of every identity that is parsed.  What matches an identity that is parsed from a text parses
to an equal identity, and what parses to an equal identity matches exactly if there are no
blank characters around its name and its extension. -/
theorem matching_agrees_with_text_form :
    (∀ (i : Identity) (f : String), i.matchesFileName f = true ↔
      '.' ∉ i.kind.text.toList ∧ Text.Alike f i.fileName) ∧
    ∀ (text : String) (i : Identity), parse text = .ok i →
      '.' ∉ i.kind.text.toList ∧ ∀ f : String,
        (i.matchesFileName f = true ↔ Text.Alike f i.fileName) ∧
        (i.matchesFileName f = true → ∃ j, parse f = .ok j ∧ (j == i) = true) ∧
        ∀ j, parse f = .ok j → (j == i) = true → (i.matchesFileName f = true ↔ Unpadded f) := by
  refine ⟨fun i f => matchesFileName_iff_alike, ?_⟩
  intro text i parses
  have proper := proper_of_parse parses
  refine ⟨proper.no_dot, fun f => ⟨?_, ?_, ?_⟩⟩
  · rw [matchesFileName_iff_alike, and_iff_right proper.no_dot]
  · intro found
    exact ((matchesFileName_iff_parse proper).mp found).1
  · intro j parsesToo same
    rw [matchesFileName_iff_parse proper, and_iff_right ⟨j, parsesToo, same⟩]

/-- The name has a dot, a blank character and letters beyond ASCII in it.  In another letter
case it matches and parses.  With a blank character before the last dot it parses, too, but
does not match. -/
theorem matching_agrees_with_text_form_rapier :
    parse " Épée .1. itm" = .ok ⟨"Épée .1", ⟨"ITM"⟩⟩ ∧
      (⟨"Épée .1", ⟨"ITM"⟩⟩ : Identity).matchesFileName "ÉPéE .1.itm" = true ∧
      (∃ j, parse "ÉPéE .1.itm" = .ok j ∧ (j == ⟨"Épée .1", ⟨"ITM"⟩⟩) = true) ∧
      (∃ j, parse "ÉPéE .1 .itm" = .ok j ∧ (j == ⟨"Épée .1", ⟨"ITM"⟩⟩) = true) ∧
      (⟨"Épée .1", ⟨"ITM"⟩⟩ : Identity).matchesFileName "ÉPéE .1 .itm" = false := by
  have parses : parse " Épée .1. itm" = .ok ⟨"Épée .1", ⟨"ITM"⟩⟩ := by rfl
  have padded : parse "ÉPéE .1 .itm" = .ok ⟨"ÉPéE .1", ⟨"ITM"⟩⟩ := by rfl
  have same : ((⟨"ÉPéE .1", ⟨"ITM"⟩⟩ : Identity) == ⟨"Épée .1", ⟨"ITM"⟩⟩) = true := by decide
  obtain ⟨-, agrees⟩ := matching_agrees_with_text_form.2 _ _ parses
  have found := (agrees "ÉPéE .1.itm").1.mpr (by decide)
  refine ⟨parses, found, (agrees _).2.1 found, ⟨_, padded, same⟩, Bool.eq_false_iff.mpr ?_⟩
  have cut : "ÉPéE .1 .itm".toList = "ÉPéE .1 ".toList ++ '.' :: "itm".toList := by rfl
  rw [Ne, (agrees _).2.2 _ padded same, unpadded_iff cut (by decide)]
  rintro ⟨⟨-, last⟩, -⟩
  exact absurd (last ' ' (by rfl)) (by decide)

end Identity
end Unreferenced
