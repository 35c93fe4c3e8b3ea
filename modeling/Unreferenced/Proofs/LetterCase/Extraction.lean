import Unreferenced.Proofs.Extraction
import Unreferenced.Proofs.LetterCase.Script

/-!
# Letter case in contents

Contents are *alike* when they differ only in the letter case of reference names and
kinds, script sources and plain texts (`Content.Alike`); compiled code is the same.
What a scan sees of the references in a content is their folded list and the number
of broken scripts (`Extraction.view`).  Every part of alike contents gives the same
view, and so do the contents, as long as the audio names are alike
(`Extraction.view_ofContent`).
-/

namespace Unreferenced

/-- Lists that are related position by position are mapped to one list by functions
that agree on related members. -/
theorem map_eq_of_forall₂ {α β γ : Type} {R : α → β → Prop} {f : α → γ} {g : β → γ}
    {l : List α} {l' : List β} (h : List.Forall₂ R l l') (agree : ∀ a b, R a b → f a = g b) :
    l.map f = l'.map g := by
  rw [← List.forall₂_eq_eq_eq, List.forall₂_map_left_iff, List.forall₂_map_right_iff]
  exact h.imp agree

/-- Related options are mapped to one option by such functions. -/
theorem map_eq_of_rel {α β γ : Type} {R : α → β → Prop} {f : α → γ} {g : β → γ}
    {x : Option α} {y : Option β} (h : Option.Rel R x y) (agree : ∀ a b, R a b → f a = g b) :
    x.map f = y.map g := by
  cases h with
  | none => rfl
  | some related => exact congrArg some (agree _ _ related)

/-! ## Contents that differ in letter case -/

mutual

/-- The fields differ in the letter case of reference names and kinds. -/
inductive Field.Alike : Field → Field → Prop
  | reference {kind kind' : Kind} {name name' : String} (kinds : Kind.Alike kind kind')
      (names : Text.Alike name name') : Alike (.resourceRef kind name) (.resourceRef kind' name')
  | string (index : Int32) : Alike (.stringRef index) (.stringRef index)
  | group (label : String) {fields fields' : List Field} (members : AllAlike fields fields') :
      Alike (.group label fields) (.group label fields')
  | other : Alike .other .other

/-- The fields of two lists differ in letter case, position by position. -/
inductive Field.AllAlike : List Field → List Field → Prop
  | nil : AllAlike [] []
  | cons {field field' : Field} {rest rest' : List Field} (first : Alike field field')
      (others : AllAlike rest rest') : AllAlike (field :: rest) (field' :: rest')

end

/-- The fragments are of one kind and differ in the letter case of the source. -/
structure ScriptFragment.Alike (f g : ScriptFragment) : Prop where
  kind : f.kind = g.kind
  source : Text.Alike f.source g.source

/-- The sections are of one kind and differ in the letter case of their fields. -/
structure Section.Alike (s t : Section) : Prop where
  kind : s.kind = t.kind
  fields : Field.AllAlike s.fields t.fields

/-- The contents have one shape and differ in letter case; compiled code does not
differ. -/
inductive Content.Alike : Content → Content → Prop
  | structured {r r' : StructuredRecord} (fields : Field.AllAlike r.fields r'.fields) :
      Alike (.structured r) (.structured r')
  | scriptBearing {b b' : ScriptBearing} (fields : Field.AllAlike b.fields b'.fields)
      (fragments : List.Forall₂ ScriptFragment.Alike b.fragments b'.fragments)
      (sections : List.Forall₂ Section.Alike b.sections b'.sections) :
      Alike (.scriptBearing b) (.scriptBearing b')
  | compiledScript (bytecode : String) : Alike (.compiledScript bytecode) (.compiledScript bytecode)
  | plainText {text text' : String} (h : Text.Alike text text') :
      Alike (.plainText text) (.plainText text')

/-- Every index has audio names that differ in letter case, or none in both. -/
def StringTable.LookupsAlike (lookup lookup' : Int32 → Option String) : Prop :=
  ∀ index, Option.Rel Text.Alike (lookup index) (lookup' index)

/-! ## Leaves -/

namespace Field

theorem isUnset_congr {name name' : String} (h : Text.Alike name name') :
    isUnset name = isUnset name' := by
  have same : Text.sameFolded name.toList "NONE".toList =
      Text.sameFolded name'.toList "NONE".toList := by
    rw [Bool.eq_iff_iff, Text.sameFolded_iff, Text.sameFolded_iff, Text.alike_iff.mp h]
  rw [isUnset, isUnset, h.isEmpty, same]

theorem folded_reference? {kind kind' : Kind} {name name' : String}
    (kinds : Kind.Alike kind kind') (names : Text.Alike name name') :
    (resourceRef kind name).reference?.map Identity.folded =
      (resourceRef kind' name').reference?.map Identity.folded := by
  rw [reference?, reference?, isUnset_congr names, kinds.eq]
  split
  · rfl
  · exact congrArg some (Identity.folded_ofParts names kind')

mutual

/-- What alike leaves have in common, alike fields have in common leaf by leaf. -/
theorem map_leaves {β : Type} {view view' : Field → β}
    (agree : ∀ leaf leaf', Alike leaf leaf' → view leaf = view' leaf') :
    ∀ {field field' : Field}, Alike field field' →
      (leaves field).map view = (leaves field').map view'
  | _, _, .reference kinds names => by
    rw [leaves, leaves, List.map_singleton, List.map_singleton,
      agree _ _ (.reference kinds names)]
  | _, _, .string index => by
    rw [leaves, List.map_singleton, List.map_singleton, agree _ _ (.string index)]
  | _, _, .group _ members => by
    rw [leaves, leaves]
    exact map_flatten agree members
  | _, _, .other => by
    rw [leaves, List.map_singleton, List.map_singleton, agree _ _ .other]

theorem map_flatten {β : Type} {view view' : Field → β}
    (agree : ∀ leaf leaf', Alike leaf leaf' → view leaf = view' leaf') :
    ∀ {fields fields' : List Field}, AllAlike fields fields' →
      (flatten fields).map view = (flatten fields').map view'
  | _, _, .nil => by rw [flatten, List.map_nil, List.map_nil]
  | _, _, .cons first others => by
    rw [flatten, flatten, List.map_append, List.map_append, map_leaves agree first,
      map_flatten agree others]

end

end Field

namespace Extraction

open Identity (folded)

/-! ## References of fields -/

theorem fieldReference?_resourceRef (audio : Int32 → Option Identity) (kind : Kind)
    (name : String) : fieldReference? audio (.resourceRef kind name) =
      (Field.resourceRef kind name).reference? := by
  rw [fieldReference?]
  cases (Field.resourceRef kind name).reference? <;> rfl

/-- Alike fields refer to equal identities, or both to none. -/
theorem folded_fieldReference? {audio audio' : Int32 → Option Identity}
    (audios : ∀ index, (audio index).map folded = (audio' index).map folded)
    {leaf leaf' : Field} (h : Field.Alike leaf leaf') :
    (fieldReference? audio leaf).map folded = (fieldReference? audio' leaf').map folded := by
  cases h with
  | reference kinds names =>
    rw [fieldReference?_resourceRef, fieldReference?_resourceRef,
      Field.folded_reference? kinds names]
  | string index => exact audios index
  | group label members => rfl
  | other => rfl

theorem folded_fieldReferences {audio audio' : Int32 → Option Identity}
    (audios : ∀ index, (audio index).map folded = (audio' index).map folded)
    {fields fields' : List Field} (h : Field.AllAlike fields fields') :
    (fieldReferences audio fields).map folded = (fieldReferences audio' fields').map folded := by
  have leaves := Field.map_flatten (fun _ _ => folded_fieldReference? audios) h
  have seen (audio : Int32 → Option Identity) (fields : List Field) :
      (fieldReferences audio fields).map folded =
        ((Field.flatten fields).map fun leaf =>
          (fieldReference? audio leaf).map folded).filterMap id := by
    rw [fieldReferences, List.map_filterMap, List.filterMap_map]
    rfl
  rw [seen, seen, leaves]

/-- Audio names that are alike make the spoken lines refer to equal identities. -/
theorem folded_spoken {lookup lookup' : Int32 → Option String}
    (lookups : StringTable.LookupsAlike lookup lookup') (target : Kind) (index : Int32) :
    (spoken lookup target index).map folded = (spoken lookup' target index).map folded := by
  have resolved : (StringTable.resolve lookup index).map folded =
      (StringTable.resolve lookup' index).map folded := by
    rw [StringTable.resolve, StringTable.resolve]
    split
    · rfl
    · rw [Option.map_map, Option.map_map]
      exact map_eq_of_rel (lookups index) fun _ _ names =>
        Identity.folded_ofParts names Kind.audio
  rw [spoken, spoken]
  split
  · exact resolved
  · rfl

/-! ## References of scripts and words -/

/-- What a script fragment refers to, up to letter case, unless it fails. -/
def fragmentView (f : ScriptFragment) : Option (List Identity) :=
  ((Script.recover f.source f.kind).map (·.members.map folded)).toOption

theorem fragmentView_congr {f g : ScriptFragment} (h : f.Alike g) :
    fragmentView f = fragmentView g := by
  rw [fragmentView, Script.folded_recover h.source, h.kind, fragmentView]

theorem folded_fragmentReferences_eq (fragments : List ScriptFragment) :
    (fragmentReferences Script.literal fragments).map folded =
      (fragments.map fragmentView).flatMap (·.getD []) := by
  rw [fragmentReferences, List.map_flatMap, List.flatMap_map]
  refine congrArg fragments.flatMap (funext ?_)
  intro f
  rw [fragmentView, Script.recover]
  cases Script.literal.recover f.source f.kind <;> rfl

theorem fragmentFailures_eq_countP (fragments : List ScriptFragment) :
    fragmentFailures Script.literal fragments = (fragments.map fragmentView).countP (·.isNone) := by
  rw [fragmentFailures, List.countP_map]
  refine congrArg (List.countP · fragments) (funext ?_)
  intro f
  rw [Function.comp_apply, fragmentView, Script.recover]
  cases Script.literal.recover f.source f.kind <;> rfl

/-- Texts that are alike have the same words up to letter case. -/
theorem folded_words {text text' : String} (h : Text.Alike text text') (kind : Kind) :
    ((Text.words text.toList).map fun w => (Identity.ofParts (String.ofList w) kind).folded) =
      (Text.words text'.toList).map fun w => (Identity.ofParts (String.ofList w) kind).folded := by
  have seen (text : String) :
      ((Text.words text.toList).map fun w => (Identity.ofParts (String.ofList w) kind).folded) =
        (Text.words (Text.upper text.toList)).map fun w =>
          (Identity.ofParts (String.ofList w) kind).folded := by
    rw [Text.words_upper, List.map_map]
    refine congrArg (List.map · _) (funext ?_)
    intro w
    exact (Identity.folded_ofParts (Text.alike_upper w) kind).symm
  rw [seen, seen, Text.alike_iff.mp h]

/-! ## References of contents -/

/-- What a scan sees of an extraction: the references up to letter case and the number
of failed scripts. -/
def view (e : Extraction) : List Identity × Nat :=
  (e.references.members.map folded, e.scriptFailures)

/-- Contents that are alike refer to equal identities, and as many of their scripts
fail. -/
theorem folded_collect {lookup lookup' : Int32 → Option String}
    (lookups : StringTable.LookupsAlike lookup lookup') (target : Kind) {c c' : Content}
    (h : Content.Alike c c') :
    (collect Script.literal lookup target c).1.map folded =
        (collect Script.literal lookup' target c').1.map folded ∧
      (collect Script.literal lookup target c).2 = (collect Script.literal lookup' target c').2 := by
  have lines := folded_spoken lookups target
  cases h with
  | structured fields => exact ⟨folded_fieldReferences lines fields, rfl⟩
  | @scriptBearing b b' fields fragments sections =>
    have views := map_eq_of_forall₂ fragments fun _ _ => fragmentView_congr
    have sectionLines : (b.sections.flatMap fun s =>
        fieldReferences (spoken lookup target) s.fields).map folded =
          (b'.sections.flatMap fun s =>
            fieldReferences (spoken lookup' target) s.fields).map folded := by
      rw [List.map_flatMap, List.map_flatMap, List.flatMap_def, List.flatMap_def]
      exact congrArg List.flatten (map_eq_of_forall₂ sections fun _ _ alike =>
        folded_fieldReferences lines alike.fields)
    constructor
    · simp only [collect, List.map_append, folded_fragmentReferences_eq, views,
        folded_fieldReferences (fun _ => rfl) fields, sectionLines]
    · rw [collect, collect, fragmentFailures_eq_countP, fragmentFailures_eq_countP, views]
  | compiledScript bytecode => exact ⟨rfl, rfl⟩
  | plainText alike =>
    refine ⟨?_, rfl⟩
    rw [collect, collect, List.map_map, List.map_map]
    exact folded_words alike target

/-- Contents that are alike give the same view. -/
theorem view_ofContent {lookup lookup' : Int32 → Option String}
    (lookups : StringTable.LookupsAlike lookup lookup') (target : Kind) {c c' : Content}
    (h : Content.Alike c c') :
    (ofContent lookup target c).view = (ofContent lookup' target c').view := by
  obtain ⟨references, failures⟩ := folded_collect lookups target h
  have chosen : ((collect Script.literal lookup target c).1.filter (·.kind == target)).map folded =
      ((collect Script.literal lookup' target c').1.filter (·.kind == target)).map folded := by
    rw [Identity.map_folded_filter, references, Identity.map_folded_filter]
  exact Prod.ext (IdentitySet.folded_ofList chosen) failures

end Extraction
end Unreferenced
