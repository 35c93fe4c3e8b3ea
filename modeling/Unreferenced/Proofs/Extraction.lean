import Unreferenced.Extraction
import Unreferenced.Proofs.Script.References
import Unreferenced.Proofs.Text.Words

/-!
# What a content refers to

`Content.RefersTo` says, shape by shape, when a content refers to an identity.
It speaks of the leaves of a record (`Field.HasLeaf`), of names that are set
(`Field.Names`), of spoken lines (`Field.Speaks`), of file names in the quotes of
a script (`Script.Cites`) and of the pieces of a text (`Text.IsPiece`).  The main
theorem is `extract_iff_refersTo`: the references found in a content are exactly
these, up to letter case and restricted to the target kind, each once, and the
scripts counted as failed are exactly those that do not compile or decompile
(`Content.brokenScripts`).

Another compiler may be given to the extraction.  Then the scripts that fail are
those that do not pass through it (`Content.Passes`), and plain text does not
change (`ofContent_plainText`).
-/

namespace Unreferenced

/-! ## Leaves of a record -/

namespace Field

/-- Whether a field is a group. -/
def isGroup : Field → Bool
  | .group _ _ => true
  | _ => false

/-- The field is no group, and stands among some fields or inside one of their
groups, at any depth. -/
inductive HasLeaf : List Field → Field → Prop
  | here {leaf : Field} {rest : List Field} (single : leaf.isGroup = false) :
      HasLeaf (leaf :: rest) leaf
  | inside {label : String} {fields rest : List Field} {leaf : Field} (h : HasLeaf fields leaf) :
      HasLeaf (.group label fields :: rest) leaf
  | later {field : Field} {rest : List Field} {leaf : Field} (h : HasLeaf rest leaf) :
      HasLeaf (field :: rest) leaf

mutual

theorem hasLeaf_of_mem_leaves : ∀ {field leaf : Field} (rest : List Field),
    leaf ∈ leaves field → HasLeaf (field :: rest) leaf
  | .resourceRef _ _, _, _, h => by
    rw [leaves, List.mem_singleton] at h
    subst h
    exact .here rfl
  | .stringRef _, _, _, h => by
    rw [leaves, List.mem_singleton] at h
    subst h
    exact .here rfl
  | .group _ _, _, _, h => by
    rw [leaves] at h
    exact .inside (hasLeaf_of_mem_flatten h)
  | .other, _, _, h => by
    rw [leaves, List.mem_singleton] at h
    subst h
    exact .here rfl

theorem hasLeaf_of_mem_flatten : ∀ {fields : List Field} {leaf : Field},
    leaf ∈ flatten fields → HasLeaf fields leaf
  | [], _, h => by
    rw [flatten] at h
    cases h
  | field :: rest, _, h => by
    rw [flatten, List.mem_append] at h
    rcases h with h | h
    · exact hasLeaf_of_mem_leaves rest h
    · exact .later (hasLeaf_of_mem_flatten h)

end

theorem leaves_of_not_isGroup {leaf : Field} (single : leaf.isGroup = false) :
    leaves leaf = [leaf] := by
  cases leaf with
  | group label fields => cases single
  | _ => rw [leaves]

/-- Flattening lists exactly the leaves. -/
theorem mem_flatten_iff {fields : List Field} {leaf : Field} :
    leaf ∈ flatten fields ↔ HasLeaf fields leaf := by
  refine ⟨hasLeaf_of_mem_flatten, ?_⟩
  intro h
  induction h with
  | here single => rw [flatten, leaves_of_not_isGroup single]; simp
  | inside _ ih => rw [flatten, leaves]; exact List.mem_append_left _ ih
  | later _ ih => rw [flatten]; exact List.mem_append_right _ ih

/-! ## What a leaf refers to -/

/-- The field is a reference with a name that is set, neither empty nor NONE in
any letter case, and this name, trimmed, names the identity. -/
def Names : Field → Identity → Prop
  | .resourceRef kind name, i =>
    name ≠ "" ∧ Text.upper name.toList ≠ "NONE".toList ∧ (Identity.ofParts name kind == i) = true
  | _, _ => False

/-- The field is a string reference that is set, and the audio resource attached
to it is the identity. -/
def Speaks (lookup : Int32 → Option String) : Field → Identity → Prop
  | .stringRef index, i =>
    0 ≤ index ∧ ∃ name, lookup index = some name ∧ (Identity.ofParts name Kind.audio == i) = true
  | _, _ => False

theorem isUnset_iff {name : String} :
    isUnset name = true ↔ name = "" ∨ Text.upper name.toList = "NONE".toList := by
  rw [isUnset, Bool.or_eq_true, Text.sameFolded_iff, String.isEmpty_iff]
  rfl

/-- A field gives a reference exactly to what it names. -/
theorem reference?_iff {leaf : Field} {i : Identity} :
    (∃ j, leaf.reference? = some j ∧ (j == i) = true) ↔ leaf.Names i := by
  cases leaf with
  | resourceRef kind name =>
    rw [reference?, Names]
    by_cases unset : isUnset name = true
    · rw [if_pos unset]
      constructor
      · rintro ⟨j, ⟨⟩, -⟩
      · rintro ⟨ne, notNone, -⟩
        rcases isUnset_iff.mp unset with h | h
        · exact absurd h ne
        · exact absurd h notNone
    · rw [if_neg unset]
      have set := mt isUnset_iff.mpr unset
      rw [not_or] at set
      constructor
      · rintro ⟨j, ⟨⟩, same⟩
        exact ⟨set.1, set.2, same⟩
      · rintro ⟨-, -, same⟩
        exact ⟨_, rfl, same⟩
  | _ => simp [reference?, Names]

end Field

theorem Kind.isAudio_iff {k : Kind} : k.isAudio = true ↔ k = Kind.audio := by
  rw [isAudio, beq_iff_eq]
  constructor
  · intro h
    cases k
    cases h
    rfl
  · rintro rfl
    rfl

namespace Extraction

open Unreferenced.Field (HasLeaf)

/-- A spoken line gives a reference exactly to the audio resource attached to it,
when audio is looked for. -/
theorem spoken_iff {lookup : Int32 → Option String} {target : Kind} {leaf : Field}
    {i : Identity} :
    (∃ j, leaf.stringIndex?.bind (spoken lookup target) = some j ∧ (j == i) = true) ↔
      target = Kind.audio ∧ leaf.Speaks lookup i := by
  cases leaf with
  | stringRef index =>
    rw [Field.stringIndex?, Option.bind_some, spoken, Field.Speaks]
    by_cases audio : target = Kind.audio
    · rw [if_pos (Kind.isAudio_iff.mpr audio), StringTable.resolve]
      by_cases negative : index < 0
      · rw [if_pos negative]
        simp [Int32.not_le.mpr negative]
      · rw [if_neg negative]
        constructor
        · rintro ⟨j, h, same⟩
          obtain ⟨name, found, rfl⟩ := Option.map_eq_some_iff.mp h
          exact ⟨audio, Int32.not_lt.mp negative, name, found, same⟩
        · rintro ⟨-, -, name, found, same⟩
          exact ⟨_, by rw [found]; rfl, same⟩
    · rw [if_neg (mt Kind.isAudio_iff.mp audio)]
      simp [audio]
  | _ => simp [Field.stringIndex?, Field.Speaks]

/-- What a leaf contributes: the resource it names, or else the spoken line it
stands for. -/
theorem fieldReference?_iff {audio : Int32 → Option Identity} {leaf : Field} {i : Identity} :
    (∃ j, fieldReference? audio leaf = some j ∧ (j == i) = true) ↔
      leaf.Names i ∨ ∃ j, leaf.stringIndex?.bind audio = some j ∧ (j == i) = true := by
  rw [← Field.reference?_iff, fieldReference?]
  cases leaf with
  | resourceRef kind name => cases h : (Field.resourceRef kind name).reference? <;>
      simp [Field.stringIndex?]
  | _ => simp [Field.reference?]

theorem any_fieldReferences {audio : Int32 → Option Identity} {fields : List Field}
    {i : Identity} :
    (∃ j ∈ fieldReferences audio fields, (j == i) = true) ↔
      ∃ leaf, HasLeaf fields leaf ∧
        (leaf.Names i ∨ ∃ j, leaf.stringIndex?.bind audio = some j ∧ (j == i) = true) := by
  constructor
  · rintro ⟨j, member, same⟩
    obtain ⟨leaf, flat, found⟩ := List.mem_filterMap.mp member
    exact ⟨leaf, Field.mem_flatten_iff.mp flat, fieldReference?_iff.mp ⟨j, found, same⟩⟩
  · rintro ⟨leaf, isLeaf, refers⟩
    obtain ⟨j, found, same⟩ := fieldReference?_iff.mpr refers
    exact ⟨j, List.mem_filterMap.mpr ⟨leaf, Field.mem_flatten_iff.mpr isLeaf, found⟩, same⟩

/-- Fields of which the string references are not spoken refer to what they
name. -/
theorem any_fieldReferences_silent {fields : List Field} {i : Identity} :
    (∃ j ∈ fieldReferences (fun _ => none) fields, (j == i) = true) ↔
      ∃ leaf, HasLeaf fields leaf ∧ leaf.Names i := by
  rw [any_fieldReferences]
  simp

/-- Fields of which the string references are spoken refer to what they name and,
when audio is looked for, to what they speak. -/
theorem any_fieldReferences_spoken {lookup : Int32 → Option String} {target : Kind}
    {fields : List Field} {i : Identity} :
    (∃ j ∈ fieldReferences (spoken lookup target) fields, (j == i) = true) ↔
      (∃ leaf, HasLeaf fields leaf ∧ leaf.Names i) ∨
        target = Kind.audio ∧ ∃ leaf, HasLeaf fields leaf ∧ leaf.Speaks lookup i := by
  rw [any_fieldReferences]
  simp only [spoken_iff]
  constructor
  · rintro ⟨leaf, isLeaf, names | ⟨audio, speaks⟩⟩
    · exact .inl ⟨leaf, isLeaf, names⟩
    · exact .inr ⟨audio, leaf, isLeaf, speaks⟩
  · rintro (⟨leaf, isLeaf, names⟩ | ⟨audio, leaf, isLeaf, speaks⟩)
    · exact ⟨leaf, isLeaf, .inl names⟩
    · exact ⟨leaf, isLeaf, .inr ⟨audio, speaks⟩⟩

/-! ## Words of free text -/

theorem isAsciiWord_of_mem_words {cs w : List Char} (h : w ∈ Text.words cs) :
    ∀ c ∈ w, Text.isAsciiWord c = true := by
  fun_induction Text.words cs with
  | case1 => cases h
  | case2 c rest w' long ih =>
    rcases List.mem_cons.mp h with rfl | h
    · exact List.all_eq_true.mp List.all_takeWhile
    · exact ih h
  | case3 c rest w' short ih => exact ih h

/-- A word keeps its spelling when it becomes a name. -/
theorem ofParts_word {cs w : List Char} (h : w ∈ Text.words cs) (kind : Kind) :
    Identity.ofParts (String.ofList w) kind = ⟨String.ofList w, kind⟩ := by
  rw [Identity.ofParts, Text.trimmed, String.toList_ofList, Text.trim_of_visible]
  intro c member
  exact Text.isBlank_of_isWord (Text.isWord_of_isAsciiWord (isAsciiWord_of_mem_words h c member))

end Extraction

/-! ## What a content refers to -/

namespace Content

open Unreferenced.Field (HasLeaf)

/-- When a content refers to an identity of the target kind.

* A structured record refers to what its leaves name, and for audio to what they
  speak.
* A resource with scripts refers to what the leaves of its own fields and of its
  sections name, for audio to what the leaves of its sections speak, and to what
  the lines of those of its fragments that compile cite.
* A compiled script refers to what the lines between its header and its end
  marker cite, if it has both.
* A plain text refers to the pieces of its runs. -/
def RefersTo (lookup : Int32 → Option String) (target : Kind) : Content → Identity → Prop
  | .structured record, i =>
    (∃ leaf, HasLeaf record.fields leaf ∧ leaf.Names i) ∨
      target = Kind.audio ∧ ∃ leaf, HasLeaf record.fields leaf ∧ leaf.Speaks lookup i
  | .scriptBearing bearing, i =>
    (∃ leaf, (HasLeaf bearing.fields leaf ∨ ∃ s ∈ bearing.sections, HasLeaf s.fields leaf) ∧
        leaf.Names i) ∨
      (target = Kind.audio ∧
        ∃ s ∈ bearing.sections, ∃ leaf, HasLeaf s.fields leaf ∧ leaf.Speaks lookup i) ∨
      ∃ f ∈ bearing.fragments, (∃ code, Script.compile f.source f.kind = .ok code) ∧
        ∃ line ∈ Text.lines f.source.toList, ∃ j, Script.Cites line j ∧ (j == i) = true
  | .compiledScript bytecode, i =>
    ∃ body, Script.statements bytecode.toList = "SC script".toList :: (body ++ ["SC".toList]) ∧
      ∃ line ∈ body, ∃ j, Script.Cites line j ∧ (j == i) = true
  | .plainText text, i =>
    ∃ w, Text.IsPiece text.toList w ∧ Text.upper w = Text.upper i.name.toList

/-- The number of scripts in a content that do not compile or decompile. -/
def brokenScripts : Content → Nat
  | .scriptBearing bearing =>
    bearing.fragments.countP fun f => !(Script.compile f.source f.kind).isOk
  | .compiledScript bytecode => if (Script.decompile bytecode .script).isOk then 0 else 1
  | _ => 0

/-- Every script in a content passes through a compiler: each fragment is compiled to code
that is decompiled, and compiled code is decompiled. -/
def Passes (compiler : Script.Compiler) : Content → Prop
  | .scriptBearing bearing => ∀ f ∈ bearing.fragments, ∃ code d,
      compiler.compile f.source f.kind = .ok code ∧ compiler.decompile code f.kind = .ok d
  | .compiledScript bytecode => ∃ d, compiler.decompile bytecode .script = .ok d
  | _ => True

end Content

namespace Extraction

/-! ## Scripts -/

/-- What is recovered with a compiler is what it finds in the code that it makes. -/
theorem recover_eq_ok_iff {compiler : Script.Compiler} {source : String} {kind : ScriptKind}
    {found : IdentitySet} : compiler.recover source kind = .ok found ↔ ∃ code d,
      compiler.compile source kind = .ok code ∧ compiler.decompile code kind = .ok d ∧
        d.references = found := by
  rw [Script.Compiler.recover]
  cases compiler.compile source kind with
  | error e => exact iff_of_false nofun (by simp)
  | ok code =>
    show (compiler.decompile code kind >>= fun d => pure d.references) = _ ↔ _
    cases decompiled : compiler.decompile code kind with
    | error e => exact iff_of_false nofun (by simp [decompiled])
    | ok d =>
      show Except.ok d.references = Except.ok found ↔ _
      simp [decompiled]

/-- Fragments refer to what is recovered from those that pass through the compiler. -/
theorem any_fragmentReferences {compiler : Script.Compiler} {fragments : List ScriptFragment}
    {i : Identity} : (∃ j ∈ fragmentReferences compiler fragments, (j == i) = true) ↔
      ∃ f ∈ fragments, ∃ found, compiler.recover f.source f.kind = .ok found ∧
        found.contains i = true := by
  simp only [fragmentReferences, List.mem_flatMap]
  constructor
  · rintro ⟨j, ⟨f, member, inside⟩, same⟩
    cases recovered : compiler.recover f.source f.kind with
    | error e =>
      rw [recovered] at inside
      cases inside
    | ok found =>
      rw [recovered] at inside
      exact ⟨f, member, found, recovered, IdentitySet.contains_iff.mpr ⟨j, inside, same⟩⟩
  · rintro ⟨f, member, found, recovered, contained⟩
    obtain ⟨j, inside, same⟩ := IdentitySet.contains_iff.mp contained
    refine ⟨j, ⟨f, member, ?_⟩, same⟩
    rw [recovered]
    exact inside

/-- The fragments counted as failed are those from which nothing is recovered. -/
theorem fragmentFailures_eq (compiler : Script.Compiler) (fragments : List ScriptFragment) :
    fragmentFailures compiler fragments =
      fragments.countP fun f => !(compiler.recover f.source f.kind).isOk := by
  refine List.countP_congr ?_
  intro f _
  cases compiler.recover f.source f.kind <;> simp [Except.isOk, Except.toBool]

/-- No script is counted as failed exactly if all pass through the compiler. -/
theorem scriptFailures_eq_zero_iff {lookup : Int32 → Option String} {target : Kind}
    {content : Content} {compiler : Script.Compiler} :
    (ofContent lookup target content compiler).scriptFailures = 0 ↔ content.Passes compiler := by
  show (collect compiler lookup target content).2 = 0 ↔ _
  cases content with
  | scriptBearing bearing =>
    show fragmentFailures compiler bearing.fragments = 0 ↔ _
    rw [fragmentFailures_eq, List.countP_eq_zero, Content.Passes]
    refine forall₂_congr ?_
    intro f _
    cases recovered : compiler.recover f.source f.kind with
    | ok found =>
      obtain ⟨code, d, compiled, decompiled, -⟩ := recover_eq_ok_iff.mp recovered
      exact iff_of_true (by simp [Except.isOk, Except.toBool]) ⟨code, d, compiled, decompiled⟩
    | error e =>
      refine iff_of_false (by simp [Except.isOk, Except.toBool]) ?_
      rintro ⟨code, d, compiled, decompiled⟩
      rw [recover_eq_ok_iff.mpr ⟨code, d, compiled, decompiled, rfl⟩] at recovered
      cases recovered
  | compiledScript bytecode =>
    rw [collect, Content.Passes]
    cases compiler.decompile bytecode .script <;> simp
  | _ => exact iff_of_true rfl trivial

/-- A source that compiles refers to what its lines cite. -/
theorem recover_literal_iff {source : String} {kind : ScriptKind} {i : Identity} :
    (∃ found, Script.literal.recover source kind = .ok found ∧ found.contains i = true) ↔
      (∃ code, Script.compile source kind = .ok code) ∧
        ∃ line ∈ Text.lines source.toList, ∃ j, Script.Cites line j ∧ (j == i) = true := by
  cases compiled : Script.compile source kind with
  | error e =>
    have failed : Script.literal.recover source kind = .error e :=
      Script.recover_of_compile_error compiled
    simp [failed]
  | ok code =>
    have recovered : Script.literal.recover source kind = .ok _ :=
      Script.recover_of_compile compiled
    rw [recovered]
    simp only [Except.ok.injEq, exists_eq_left', exists_eq', true_and]
    exact Script.contains_references_statements_iff

/-- Compiled code refers to what the lines between its header and its end marker cite. -/
theorem decompile_literal_iff {bytecode : String} {i : Identity} :
    (∃ d, Script.decompile bytecode .script = .ok d ∧ d.references.contains i = true) ↔
      ∃ body, Script.statements bytecode.toList = "SC script".toList :: (body ++ ["SC".toList]) ∧
        ∃ line ∈ body, ∃ j, Script.Cites line j ∧ (j == i) = true := by
  simp only [Script.decompile_eq_ok_iff, ← Script.contains_references_iff]
  constructor
  · rintro ⟨_, ⟨body, split, rfl⟩, contained⟩
    exact ⟨body, split, contained⟩
  · rintro ⟨body, split, contained⟩
    exact ⟨_, ⟨body, split, rfl⟩, contained⟩

/-- What a compiled script refers to, if it decompiles. -/
theorem collect_of_decompile {compiler : Script.Compiler} {bytecode : String}
    {d : Script.Decompiled} (decompiles : compiler.decompile bytecode .script = .ok d)
    (lookup : Int32 → Option String) (target : Kind) :
    collect compiler lookup target (.compiledScript bytecode) = (d.references.toList, 0) := by
  rw [collect, decompiles]

theorem collect_of_decompile_error {compiler : Script.Compiler} {bytecode : String}
    {e : ScriptError} (fails : compiler.decompile bytecode .script = .error e)
    (lookup : Int32 → Option String) (target : Kind) :
    collect compiler lookup target (.compiledScript bytecode) = ([], 1) := by
  rw [collect, fails]

/-- The scripts counted as failed are those that do not compile or decompile. -/
theorem scriptFailures_ofContent (lookup : Int32 → Option String) (target : Kind)
    (content : Content) :
    (ofContent lookup target content).scriptFailures = content.brokenScripts := by
  show (collect Script.literal lookup target content).2 = content.brokenScripts
  cases content with
  | scriptBearing bearing =>
    show fragmentFailures Script.literal bearing.fragments = _
    rw [fragmentFailures_eq, Content.brokenScripts]
    refine List.countP_congr ?_
    intro f _
    cases compiled : Script.compile f.source f.kind with
    | ok code =>
      have recovered : Script.literal.recover f.source f.kind = .ok _ :=
        Script.recover_of_compile compiled
      rw [recovered]
      exact Iff.rfl
    | error e =>
      have failed : Script.literal.recover f.source f.kind = .error e :=
        Script.recover_of_compile_error compiled
      rw [failed]
      exact Iff.rfl
  | compiledScript bytecode =>
    rw [Content.brokenScripts]
    cases decompiled : Script.literal.decompile bytecode .script with
    | ok d =>
      have decompiles : Script.decompile bytecode .script = .ok d := decompiled
      rw [collect_of_decompile decompiled, decompiles]
      rfl
    | error e =>
      have fails : Script.decompile bytecode .script = .error e := decompiled
      rw [collect_of_decompile_error decompiled, fails]
      rfl
  | _ => rfl

/-! ## Contents -/

/-- Plain text has nothing to do with the compiler. -/
theorem ofContent_plainText (compiler : Script.Compiler) (lookup : Int32 → Option String)
    (target : Kind) (text : String) : ofContent lookup target (.plainText text) compiler =
      ofContent lookup target (.plainText text) := rfl

/-- Everything collected from a content, seen up to letter case, is what the
content refers to. -/
theorem any_collect {lookup : Int32 → Option String} {target : Kind} {content : Content}
    {i : Identity} (kind : i.kind = target) :
    (∃ j ∈ (collect Script.literal lookup target content).1, (j == i) = true) ↔
      content.RefersTo lookup target i := by
  cases content with
  | structured record => exact any_fieldReferences_spoken
  | scriptBearing bearing =>
    have fragments : (∃ j ∈ fragmentReferences Script.literal bearing.fragments, (j == i) = true) ↔
        ∃ f ∈ bearing.fragments, (∃ code, Script.compile f.source f.kind = .ok code) ∧
          ∃ line ∈ Text.lines f.source.toList, ∃ j, Script.Cites line j ∧ (j == i) = true := by
      rw [any_fragmentReferences]
      simp only [recover_literal_iff]
    simp only [collect, List.mem_append, List.mem_flatMap]
    constructor
    · rintro ⟨j, (own | fragment) | ⟨s, hs, spoken⟩, same⟩
      · obtain ⟨leaf, isLeaf, names⟩ := any_fieldReferences_silent.mp ⟨j, own, same⟩
        exact .inl ⟨leaf, .inl isLeaf, names⟩
      · exact .inr (.inr (fragments.mp ⟨j, fragment, same⟩))
      · rcases any_fieldReferences_spoken.mp ⟨j, spoken, same⟩ with
          ⟨leaf, isLeaf, names⟩ | ⟨audio, leaf, isLeaf, speaks⟩
        · exact .inl ⟨leaf, .inr ⟨s, hs, isLeaf⟩, names⟩
        · exact .inr (.inl ⟨audio, s, hs, leaf, isLeaf, speaks⟩)
    · rintro (⟨leaf, isLeaf | ⟨s, hs, isLeaf⟩, names⟩ |
        ⟨audio, s, hs, leaf, isLeaf, speaks⟩ | fragment)
      · obtain ⟨j, own, same⟩ := any_fieldReferences_silent.mpr ⟨leaf, isLeaf, names⟩
        exact ⟨j, .inl (.inl own), same⟩
      · obtain ⟨j, spoken, same⟩ := any_fieldReferences_spoken.mpr (.inl ⟨leaf, isLeaf, names⟩)
        exact ⟨j, .inr ⟨s, hs, spoken⟩, same⟩
      · obtain ⟨j, spoken, same⟩ :=
          any_fieldReferences_spoken.mpr (.inr ⟨audio, leaf, isLeaf, speaks⟩)
        exact ⟨j, .inr ⟨s, hs, spoken⟩, same⟩
      · obtain ⟨j, inside, same⟩ := fragments.mpr fragment
        exact ⟨j, .inl (.inr inside), same⟩
  | compiledScript bytecode =>
    rw [Content.RefersTo, ← decompile_literal_iff]
    cases decompiled : Script.literal.decompile bytecode .script with
    | error e =>
      have fails : Script.decompile bytecode .script = .error e := decompiled
      rw [collect_of_decompile_error decompiled, fails]
      simp
    | ok d =>
      have decompiles : Script.decompile bytecode .script = .ok d := decompiled
      rw [collect_of_decompile decompiled, decompiles]
      simp only [Except.ok.injEq, exists_eq_left']
      exact IdentitySet.contains_iff.symm
  | plainText text =>
    simp only [collect, Content.RefersTo, List.mem_map, ← Text.mem_words_iff]
    constructor
    · rintro ⟨_, ⟨w, word, rfl⟩, same⟩
      rw [ofParts_word word, Identity.beq_iff, String.toList_ofList] at same
      exact ⟨w, word, same.2⟩
    · rintro ⟨w, word, name⟩
      refine ⟨_, ⟨w, word, rfl⟩, ?_⟩
      rw [ofParts_word word, Identity.beq_iff, String.toList_ofList]
      exact ⟨kind.symm, name⟩

/-- The references found are those to the target kind that the content makes. -/
theorem contains_ofContent {lookup : Int32 → Option String} {target : Kind} {content : Content}
    {i : Identity} : (ofContent lookup target content).references.contains i = true ↔
      i.kind = target ∧ content.RefersTo lookup target i := by
  show (IdentitySet.ofList _).contains i = true ↔ _
  rw [IdentitySet.contains_ofList, List.any_eq_true]
  constructor
  · rintro ⟨j, member, same⟩
    rw [List.mem_filter, beq_iff_eq] at member
    have kind : i.kind = target := by rw [← Identity.kind_eq_of_beq same, member.2]
    exact ⟨kind, (any_collect kind).mp ⟨j, member.1, same⟩⟩
  · rintro ⟨kind, refers⟩
    obtain ⟨j, member, same⟩ := (any_collect kind).mpr refers
    refine ⟨j, ?_, same⟩
    rw [List.mem_filter, beq_iff_eq, Identity.kind_eq_of_beq same]
    exact ⟨member, kind⟩

/-- **Extraction is sound and complete.**  The references found in a content are,
up to letter case, exactly the identities of the target kind that the content
refers to; no two of them are equal; and the scripts counted as failed are those
that do not compile or decompile, whatever the target and the string table. -/
theorem extract_iff_refersTo (lookup : Int32 → Option String) (target : Kind)
    (content : Content) :
    (∀ i, (ofContent lookup target content).references.contains i = true ↔
      i.kind = target ∧ content.RefersTo lookup target i) ∧
    (ofContent lookup target content).references.members.Pairwise
      (fun a b => (a == b) = false) ∧
    (ofContent lookup target content).scriptFailures = content.brokenScripts :=
  ⟨fun _ => contains_ofContent, (ofContent lookup target content).references.distinct,
    scriptFailures_ofContent lookup target content⟩

end Extraction
end Unreferenced
