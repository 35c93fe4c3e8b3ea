import Unreferenced.Proofs.Identity.Parse
import Unreferenced.Proofs.LetterCase.Script
import Unreferenced.Proofs.Script.Quotes

/-!
# What a script refers to

A stretch in quotes refers to a resource exactly if it is a name of one to eight word
characters, a dot and a known kind in any letter case (`reference?_eq_some_iff`); trimming
and normalizing take nothing more away from such a text.  So code that decompiles refers to
what stands in the quotes of its lines, also where quotes do not match, and code that was
compiled refers to what the check of the source has walked with a quote open
(`references_are_quoted_names`).
-/

namespace Unreferenced

namespace Script

/-! ## File names in quotes -/

/-- The stretch is a file name of this identity: one to eight word characters, a dot, and a
known kind in any letter case. -/
def IsFileNameOf (i : Identity) (stretch : List Char) : Prop :=
  ∃ extension, stretch = i.name.toList ++ '.' :: extension ∧
    1 ≤ i.name.toList.length ∧ i.name.toList.length ≤ 8 ∧
    (∀ c ∈ i.name.toList, Text.isWord c = true) ∧
    i.kind.isKnown = true ∧ Text.upper extension = i.kind.text.toList

theorem isResourceName_iff {cs : List Char} : isResourceName cs = true ↔
    1 ≤ cs.length ∧ cs.length ≤ 8 ∧ ∀ c ∈ cs, Text.isWord c = true := by
  simp [isResourceName, and_assoc]

/-- Naming a resource by such a text takes nothing away from it. -/
theorem ofParts_of_isResourceName {cs : List Char} (named : isResourceName cs = true)
    (kind : Kind) : Identity.ofParts (String.ofList cs) kind = ⟨String.ofList cs, kind⟩ := by
  rw [Identity.ofParts, Text.trimmed, String.toList_ofList, Text.trim_of_visible]
  intro c member
  exact Text.isBlank_of_isWord ((isResourceName_iff.mp named).2.2 c member)

/-- An extension is the name of a kind, up to letter case. -/
theorem toList_ofText_of_isExtension {cs : List Char} (extension : isExtension cs = true) :
    '.' ∉ cs ∧ (Kind.ofText (String.ofList cs)).text.toList = Text.upper cs := by
  have alphanumeric : ∀ c ∈ cs, c.isAlphanum = true := by
    simp only [isExtension, Bool.and_eq_true] at extension
    exact List.all_eq_true.mp extension.2
  have dotless : '.' ∉ cs := fun dot => absurd (alphanumeric '.' dot) (by decide)
  refine ⟨dotless, ?_⟩
  rw [Kind.toList_ofText, String.toList_ofList, Kind.bare_of_not_mem dotless,
    Text.trim_of_visible]
  intro c member
  exact Text.isBlank_of_isWord (Text.isWord_of_isAlphanum c (alphanumeric c member))

theorem isExtension_of_isKnown {kind : Kind} (known : kind.isKnown = true) :
    isExtension kind.text.toList = true :=
  Kind.of_isKnown (P := fun kind => isExtension kind.text.toList = true) (by decide) known

/-- A stretch refers to the identity of which it is a file name. -/
theorem reference?_eq_some_iff {stretch : List Char} {i : Identity} :
    reference? stretch = some i ↔ IsFileNameOf i stretch := by
  unfold reference?
  constructor
  · intro found
    cases cut : Text.splitLast? '.' stretch with
    | none =>
      rw [cut] at found
      cases found
    | some pieces =>
      obtain ⟨name, extension⟩ := pieces
      obtain ⟨rfl, -⟩ := Text.splitLast?_eq_some_iff.mp cut
      rw [cut] at found
      simp only [Option.ite_none_right_eq_some, Bool.and_eq_true] at found
      obtain ⟨⟨⟨named, extended⟩, known⟩, same⟩ := found
      rw [ofParts_of_isResourceName named] at same
      obtain rfl := (Option.some.inj same).symm
      obtain ⟨few, many, words⟩ := isResourceName_iff.mp named
      have text := (toList_ofText_of_isExtension extended).2
      refine ⟨extension, ?_, ?_, ?_, ?_, known, text.symm⟩ <;> rw [String.toList_ofList]
      all_goals assumption
  · rintro ⟨extension, rfl, few, many, words, known, upper⟩
    have named := isResourceName_iff.mpr ⟨few, many, words⟩
    have extended : isExtension extension = true := by
      rw [← isExtension_upper, upper]
      exact isExtension_of_isKnown known
    obtain ⟨dotless, text⟩ := toList_ofText_of_isExtension extended
    have kind : Kind.ofText (String.ofList extension) = i.kind :=
      Kind.text_inj.mp (String.toList_inj.mp (text.trans upper))
    rw [Text.splitLast?_eq_some_iff.mpr ⟨rfl, dotless⟩]
    simp only [named, extended, kind, known, Bool.and_self, if_true, Option.some.injEq]
    rw [ofParts_of_isResourceName named, String.ofList_toList]

/-! ## References of lines -/

/-- The line has a file name of the identity in its quotes. -/
def Cites (line : List Char) (i : Identity) : Prop :=
  ∃ stretch, InQuotes false line stretch ∧ IsFileNameOf i stretch

theorem mem_filterMap_reference?_iff {lines : List (List Char)} {i : Identity} :
    i ∈ (lines.flatMap quoted).filterMap reference? ↔ ∃ line ∈ lines, Cites line i := by
  simp only [List.mem_filterMap, List.mem_flatMap, mem_quoted_iff, reference?_eq_some_iff, Cites]
  constructor
  · rintro ⟨stretch, ⟨line, member, quotes⟩, names⟩
    exact ⟨line, member, stretch, quotes, names⟩
  · rintro ⟨line, member, stretch, quotes, names⟩
    exact ⟨stretch, ⟨line, member, quotes⟩, names⟩

/-- Lines refer to the identities that they cite, and to those equal to them. -/
theorem contains_references_iff {lines : List (List Char)} {j : Identity} :
    (references lines).contains j = true ↔
      ∃ line ∈ lines, ∃ i, Cites line i ∧ (i == j) = true := by
  rw [references, IdentitySet.contains_ofList, List.any_eq_true]
  simp only [mem_filterMap_reference?_iff]
  constructor
  · rintro ⟨i, ⟨line, member, cites⟩, same⟩
    exact ⟨line, member, i, cites, same⟩
  · rintro ⟨line, member, i, cites, same⟩
    exact ⟨i, ⟨line, member, cites⟩, same⟩

/-- The references of lines are spelled as they are there. -/
theorem cites_of_mem_references {lines : List (List Char)} {i : Identity}
    (member : i ∈ (references lines).members) : ∃ line ∈ lines, Cites line i :=
  mem_filterMap_reference?_iff.mp (IdentitySet.mem_ofList member)

/-- The statements of a source cite what its lines cite. -/
theorem contains_references_statements_iff {cs : List Char} {j : Identity} :
    (references (statements cs)).contains j = true ↔
      ∃ line ∈ Text.lines cs, ∃ i, Cites line i ∧ (i == j) = true := by
  have same : references (statements cs) = references (Text.lines cs) := by
    rw [references, flatMap_quoted_statements, references]
  rw [same, contains_references_iff]

/-! ## Decompiling -/

/-- Code decompiles if its first line is the header, its last line the end marker, and the
two are not one line. -/
theorem exists_decompile_iff {code : String} {kind : ScriptKind} :
    (∃ d, decompile code kind = .ok d) ↔
      (statements code.toList).head? = some ("SC " ++ kind.word).toList ∧
        2 ≤ (statements code.toList).length ∧
        (statements code.toList).getLast? = some "SC".toList := by
  have opens : ("SC " ++ kind.word).toList = header kind := String.toList_append
  have closes : "SC".toList = marker := rfl
  rw [opens, closes]
  constructor
  · rintro ⟨d, decompiled⟩
    obtain ⟨body, split, -⟩ := decompile_eq_ok_iff.mp decompiled
    rw [split]
    refine ⟨rfl, by simp, ?_⟩
    rw [← List.cons_append, List.getLast?_concat]
  · rintro ⟨first, two, last⟩
    obtain ⟨body, split⟩ := List.getLast?_eq_some_iff.mp last
    rw [split] at first two
    cases body with
    | nil => exact absurd two (by decide)
    | cons line body =>
      obtain rfl : line = header kind := Option.some.inj first
      exact ⟨_, decompile_eq_ok_iff.mpr ⟨body, split, rfl⟩⟩

/-- **What a script refers to.**  Code decompiles for a kind exactly if the first of its lines
that are not blank, trimmed, is the header of this kind and the last one, which must be
another one, the end marker; and then it refers to exactly the resources of which a file
name stands in quotes on a line between these two.  Take any source that compiles.  What
stands in quotes between these two lines of the code is, in order, what stands in quotes
on the lines of the source, and these are exactly the texts that the check of the source
walks with a quote open; and the source is found to refer to the same resources whatever
the kind of the script is. -/
theorem references_are_quoted_names :
    (∀ (code : String) (kind : ScriptKind),
      ((∃ d, decompile code kind = .ok d) ↔
        (statements code.toList).head? = some ("SC " ++ kind.word).toList ∧
          2 ≤ (statements code.toList).length ∧
          (statements code.toList).getLast? = some "SC".toList) ∧
      ∀ d, decompile code kind = .ok d → ∃ body,
        statements code.toList = ("SC " ++ kind.word).toList :: (body ++ ["SC".toList]) ∧
          (∀ j, d.references.contains j = true ↔
            ∃ line ∈ body, ∃ i, Cites line i ∧ (i == j) = true) ∧
          ∀ i ∈ d.references.members, ∃ line ∈ body, Cites line i) ∧
    (∀ source : String, (walk source.toList).2 = checkBalanced source.toList) ∧
    ∀ (source : String) (kind : ScriptKind) (code : String), compile source kind = .ok code →
      ∃ body, statements code.toList = ("SC " ++ kind.word).toList :: (body ++ ["SC".toList]) ∧
        body.flatMap quoted = (Text.lines source.toList).flatMap quoted ∧
        (∀ text, (∃ line ∈ body, InQuotes false line text) ↔
          ∃ walked ∈ (walk source.toList).1, Stretch walked text) ∧
        ∃ found, (∀ other, recover source other = .ok found) ∧
          ∀ j, found.contains j = true ↔ ∃ walked ∈ (walk source.toList).1, ∃ text,
            Stretch walked text ∧ ∃ i, IsFileNameOf i text ∧ (i == j) = true := by
  have opens (kind : ScriptKind) : ("SC " ++ kind.word).toList = header kind := String.toList_append
  refine ⟨?_, fun source => walk_result source.toList, ?_⟩
  · intro code kind
    refine ⟨exists_decompile_iff, ?_⟩
    intro d decompiled
    obtain ⟨body, split, rfl⟩ := decompile_eq_ok_iff.mp decompiled
    rw [opens]
    exact ⟨body, split, fun j => contains_references_iff, fun i => cites_of_mem_references⟩
  · intro source kind code compiled
    have accepted := (compile_eq_ok_iff.mp compiled).1
    have kept := flatMap_quoted_statements source.toList
    rw [opens]
    have walked (text : List Char) : (∃ line ∈ statements source.toList, InQuotes false line text) ↔
        ∃ walked ∈ (walk source.toList).1, Stretch walked text := by
      rw [stretch_walk_iff accepted, ← kept, List.mem_flatMap]
      simp only [mem_quoted_iff]
    refine ⟨_, statements_of_compile compiled, kept, walked, references (statements source.toList),
      ?_, ?_⟩
    · intro other
      exact recover_of_compile (compile_eq_ok_iff.mpr ⟨accepted, rfl⟩)
    · intro j
      rw [contains_references_iff]
      constructor
      · rintro ⟨line, member, i, ⟨text, quotes, names⟩, same⟩
        obtain ⟨marks, among, stretch⟩ := (walked text).mp ⟨line, member, quotes⟩
        exact ⟨marks, among, text, stretch, i, names, same⟩
      · rintro ⟨marks, among, text, stretch, i, names, same⟩
        obtain ⟨line, member, quotes⟩ := (walked text).mpr ⟨marks, among, stretch⟩
        exact ⟨line, member, i, ⟨text, quotes, names⟩, same⟩

/-- A line with three quotes: the first two make a pair, and the third one opens nothing. -/
def oddLine : List Char := "Give(\"rInG_1.iTm\", \"Axe.itm".toList

/-- Code with this line refers to the ring and not to the axe. -/
theorem references_are_quoted_names_odd : ∃ d,
    decompile "SC action\n \tGive(\"rInG_1.iTm\", \"Axe.itm\nSC\n" .action = .ok d ∧
      d.references.contains ⟨"RING_1", ⟨"ITM"⟩⟩ = true ∧
      d.references.contains ⟨"Axe", ⟨"ITM"⟩⟩ = false := by
  have lines : statements "SC action\n \tGive(\"rInG_1.iTm\", \"Axe.itm\nSC\n".toList =
      ["SC action".toList, oddLine, "SC".toList] := by decide +kernel
  obtain ⟨decompiles, refers⟩ := references_are_quoted_names.1
    "SC action\n \tGive(\"rInG_1.iTm\", \"Axe.itm\nSC\n" .action
  obtain ⟨d, decompiled⟩ := decompiles.mpr (by rw [lines]; decide +kernel)
  obtain ⟨body, split, contains, -⟩ := refers d decompiled
  obtain rfl : body = [oddLine] := by
    rw [lines] at split
    exact (List.append_inj_left' (List.cons.inj split).2 rfl).symm
  have ring : reference? "rInG_1.iTm".toList = some ⟨"rInG_1", ⟨"ITM"⟩⟩ := rfl
  have quotes : InQuotes false oddLine "rInG_1.iTm".toList :=
    ⟨"Give(".toList, ", \"Axe.itm".toList, rfl, by decide, by decide⟩
  refine ⟨d, decompiled, (contains _).mpr ⟨_, List.mem_singleton_self _, ⟨"rInG_1", ⟨"ITM"⟩⟩,
    ⟨_, quotes, reference?_eq_some_iff.mp ring⟩, by decide +kernel⟩, ?_⟩
  rw [Bool.eq_false_iff]
  intro found
  obtain ⟨line, member, i, ⟨stretch, quotes, names⟩, same⟩ := (contains _).mp found
  rw [List.mem_singleton] at member
  subst member
  have only : stretch ∈ ["rInG_1.iTm".toList] := mem_quoted_iff.mpr quotes
  rw [List.mem_singleton] at only
  subst only
  rw [reference?_eq_some_iff.mpr names] at ring
  obtain rfl := Option.some.inj ring
  exact absurd same (by decide +kernel)

end Script
end Unreferenced
