import Unreferenced.Content.Format
import Unreferenced.Proofs.Extraction
import Unreferenced.Proofs.Json.Strict
import Unreferenced.Proofs.Kind

/-!
# Contents in JSON

A field whose written form is no higher than the reader allows, and all of whose
references are of stable kinds, is read back (`Field.read_toJson`).  The reader of
a content accepts only texts that are not too deep, and writing a field that was
read opens no more arrays and objects than the text did (`Field.height_le_of_read`).
So every content that is read fits into the depth that it was read at
(`Content.fits_of_read`), and a content that fits is read back
(`Content.read_toJson`).
-/

namespace Unreferenced

open Json (Draft Reader Record Member)

/-! ## Height and stability of fields -/

namespace Field

/-- What holds of every leaf, and of every group whose fields it holds of, holds of
every field. -/
@[elab_as_elim]
theorem induction {P : Field → Prop} (reference : ∀ kind name, P (.resourceRef kind name))
    (string : ∀ index, P (.stringRef index))
    (group : ∀ label fields, (∀ field ∈ fields, P field) → P (.group label fields))
    (other : P .other) : ∀ field, P field
  | .resourceRef kind name => reference kind name
  | .stringRef index => string index
  | .group label fields =>
    group label fields fun field _ => induction reference string group other field
  | .other => other

mutual

/-- How many arrays and objects are inside each other in the written field. -/
def height : Field → Nat
  | .resourceRef _ _ => 2
  | .stringRef _ => 1
  | .group _ fields => heights fields + 3
  | .other => 0

/-- The greatest height of some fields. -/
def heights : List Field → Nat
  | [] => 0
  | field :: rest => max (height field) (heights rest)

end

theorem heights_le_iff {fields : List Field} {n : Nat} :
    heights fields ≤ n ↔ ∀ field ∈ fields, field.height ≤ n := by
  induction fields with
  | nil => simp [heights]
  | cons field rest ih => rw [heights, Nat.max_le, ih, List.forall_mem_cons]

/-- All references among the fields, at any depth, are to stable kinds. -/
def Stable (fields : List Field) : Prop :=
  ∀ kind name, HasLeaf fields (.resourceRef kind name) → kind.IsStable

theorem hasLeaf_of_mem {fields : List Field} {field leaf : Field} (member : field ∈ fields)
    (h : HasLeaf [field] leaf) : HasLeaf fields leaf := by
  rw [← mem_flatten_iff, flatten, flatten, List.append_nil] at h
  obtain ⟨before, after, rfl⟩ := List.append_of_mem member
  induction before with
  | nil => exact hasLeaf_of_mem_leaves after h
  | cons first before ih => exact .later (ih (by simp))

theorem Stable.of_mem {fields : List Field} (h : Stable fields) {field : Field}
    (member : field ∈ fields) : Stable [field] :=
  fun kind name leaf => h kind name (hasLeaf_of_mem member leaf)

theorem listToJson_eq_map (fields : List Field) : listToJson fields = fields.map toJson := by
  induction fields with
  | nil => rw [listToJson, List.map_nil]
  | cons field rest ih => rw [listToJson, ih, List.map_cons]

/-! ## Reading a written field -/

theorem referenceForm_read {kind : Kind} (stable : kind.IsStable) (name : String) :
    referenceForm.read (Draft.ofJson (.obj [("kind", .str kind.text), ("name", .str name)])) =
      .ok (kind, name) := by
  have names : (referenceForm.members.map Member.name).Nodup := by decide
  have kept : Reader.kind (Draft.ofJson (.str kind.text)) = .ok kind :=
    congrArg Except.ok stable
  refine (Record.read_members names [Draft.ofJson (.str kind.text), Draft.ofJson (.str name)]
    rfl).trans ?_
  rw [referenceForm, Record.readItems_must kept, Record.readItems_must (Reader.text_ofJson name)]
  rfl

theorem groupForm_read {reader : Reader (List Field)} {fields : List Field}
    {items : List Json} (members : reader (Draft.ofJson (.arr items)) = .ok fields)
    (label : String) :
    (groupForm reader).read (Draft.ofJson (.obj [("label", .str label), ("fields", .arr items)])) =
      .ok (label, fields) := by
  have names : ((groupForm reader).members.map Member.name).Nodup :=
    show ["label", "fields"].Nodup by decide
  refine (Record.read_members names [Draft.ofJson (.str label), Draft.ofJson (.arr items)]
    rfl).trans ?_
  rw [groupForm, Record.readItems_must (Reader.text_ofJson label), Record.readItems_must members]
  rfl

section Read

variable (inContent : Bool)

theorem read_stringRef (inner : Nat) (d : Draft) :
    read inContent (inner + 1) (.obj [(some "string_ref", d)]) = do
      let index ← Reader.int32 d
      return .stringRef index := by
  cases inner <;> rw [read] <;> rfl

theorem read_resourceRef (inner : Nat) (d : Draft) :
    read inContent (inner + 2) (.obj [(some "resource_ref", d)]) = do
      let (kind, name) ← referenceForm.read d
      return .resourceRef kind name := by
  rw [read]
  rfl

theorem read_group (inner : Nat) (d : Draft) :
    read inContent (inner + 3) (.obj [(some "group", d)]) = do
      let (label, fields) ← (groupForm (Reader.listOf (read inContent inner))).read d
      return .group label fields := by
  rw [read]
  rfl

/-- A field is read back where its height is allowed. -/
theorem read_toJson {field : Field} {depth : Nat} (low : field.height ≤ depth)
    (stable : Stable [field]) : read inContent depth (Draft.ofJson field.toJson) = .ok field := by
  induction field using Field.induction generalizing depth with
  | reference kind name =>
    rw [height] at low
    obtain ⟨inner, rfl⟩ := Nat.exists_eq_add_of_le' low
    have kept := referenceForm_read (stable kind name (.here rfl)) name
    rw [toJson]
    refine (read_resourceRef inContent inner _).trans ?_
    rw [kept]
    rfl
  | string index =>
    rw [height] at low
    obtain ⟨inner, rfl⟩ := Nat.exists_eq_add_of_le' low
    rw [toJson]
    refine (read_stringRef inContent inner _).trans ?_
    rw [Reader.int32_ofJson]
    rfl
  | group label fields ih =>
    rw [height] at low
    obtain ⟨inner, rfl⟩ := Nat.exists_eq_add_of_le' (Nat.le_of_add_left_le low)
    have lower := heights_le_iff.mp (Nat.le_of_add_le_add_right low)
    have below : Stable fields := fun kind name leaf => stable kind name (.inside leaf)
    have members : Reader.listOf (read inContent inner)
        (Draft.ofJson (.arr (listToJson fields))) = .ok fields := by
      rw [listToJson_eq_map]
      refine Reader.listOf_ofJson ?_
      intro field member
      exact ih field member (lower field member) (below.of_mem member)
    rw [toJson]
    refine (read_group inContent inner _).trans ?_
    rw [groupForm_read members label]
    rfl
  | other =>
    rw [toJson, Draft.ofJson, read]
    rfl

/-- Fields are read back where their heights are allowed. -/
theorem listOf_read_toJson {fields : List Field} {depth : Nat} (low : heights fields ≤ depth)
    (stable : Stable fields) :
    Reader.listOf (read inContent depth) (Draft.ofJson (.arr (listToJson fields))) =
      .ok fields := by
  rw [listToJson_eq_map]
  refine Reader.listOf_ofJson ?_
  intro field member
  exact read_toJson inContent (heights_le_iff.mp low field member) (stable.of_mem member)

end Read

/-- A written field is strict where its height is allowed. -/
theorem isStrict_toJson {field : Field} {depth : Nat} (low : field.height ≤ depth) :
    (Draft.ofJson field.toJson).isStrict depth = true := by
  induction field using Field.induction generalizing depth with
  | reference kind name =>
    rw [height] at low
    obtain ⟨inner, rfl⟩ := Nat.exists_eq_add_of_le' low
    rw [toJson]
    refine Draft.isStrict_obj ?_
    simp only [List.mem_singleton, forall_eq]
    refine Draft.isStrict_obj ?_
    simp
  | string index =>
    rw [height] at low
    obtain ⟨inner, rfl⟩ := Nat.exists_eq_add_of_le' low
    rw [toJson]
    refine Draft.isStrict_obj ?_
    simpa using Draft.isStrict_int32 index
  | group label fields ih =>
    rw [height] at low
    obtain ⟨inner, rfl⟩ := Nat.exists_eq_add_of_le' (Nat.le_of_add_left_le low)
    have lower := heights_le_iff.mp (Nat.le_of_add_le_add_right low)
    rw [toJson, listToJson_eq_map]
    refine Draft.isStrict_obj ?_
    simp only [List.mem_singleton, forall_eq]
    refine Draft.isStrict_obj ?_
    simp only [List.mem_cons, List.not_mem_nil, or_false, forall_eq_or_imp, forall_eq]
    refine ⟨Draft.isStrict_str label, Draft.isStrict_arr ?_⟩
    intro v written
    obtain ⟨field, member, rfl⟩ := List.mem_map.mp written
    exact ih field member (lower field member)
  | other => rfl

/-- Written fields are strict where their heights are allowed. -/
theorem isStrict_listToJson {fields : List Field} {depth : Nat} (low : heights fields ≤ depth) :
    (Draft.ofJson (.arr (listToJson fields))).isStrict (depth + 1) = true := by
  rw [listToJson_eq_map]
  refine Draft.isStrict_arr ?_
  intro v written
  obtain ⟨field, member, rfl⟩ := List.mem_map.mp written
  exact isStrict_toJson (heights_le_iff.mp low field member)

/-! ## Fields that are read -/

/-- The ways in which a field can be read from a draft. -/
inductive ReadAs (inContent : Bool) : Nat → Draft → Field → Prop
  | other {depth : Nat} {d : Draft} : ReadAs inContent depth d .other
  | string {inner : Nat} {part : Draft} (index : Int32) :
      ReadAs inContent (inner + 1) (.obj [(some "string_ref", part)]) (.stringRef index)
  | reference {inner : Nat} {part : Draft} {kind : Kind} {name : String}
      (h : referenceForm.read part = .ok (kind, name)) :
      ReadAs inContent (inner + 2) (.obj [(some "resource_ref", part)]) (.resourceRef kind name)
  | group {inner : Nat} {part : Draft} {label : String} {fields : List Field}
      (h : (groupForm (Reader.listOf (read inContent inner))).read part = .ok (label, fields)) :
      ReadAs inContent (inner + 3) (.obj [(some "group", part)]) (.group label fields)

theorem readNothing_eq_ok {inContent : Bool} {d : Draft} {field : Field}
    (h : readNothing inContent d = .ok field) : field = .other := by
  unfold readNothing at h
  split at h
  · cases h
    rfl
  · split at h
    · cases h
      rfl
    · cases h
  · cases h

theorem readAs_of_read {inContent : Bool} {depth : Nat} {d : Draft} {field : Field}
    (h : read inContent depth d = .ok field) : ReadAs inContent depth d field := by
  unfold read at h
  split at h
  · split at h
    · cases h
      exact .other
    · cases h
  · next depth tag part =>
    split at h
    · rw [readNothing_eq_ok h]
      exact .other
    split at h
    · next isString =>
      obtain ⟨index, -, ⟨⟩⟩ := Reader.bind_eq_ok.mp h
      rw [eq_of_beq isString]
      exact .string index
    split at h
    · next isReference =>
      rw [eq_of_beq isReference]
      cases depth with
      | zero => cases h
      | succ inner =>
        obtain ⟨⟨kind, name⟩, reads, ⟨⟩⟩ := Reader.bind_eq_ok.mp h
        exact .reference reads
    split at h
    · next isGroup =>
      rw [eq_of_beq isGroup]
      split at h
      · obtain ⟨⟨label, fields⟩, reads, ⟨⟩⟩ := Reader.bind_eq_ok.mp h
        exact .group reads
      · cases h
    · cases h
  · cases h

/-- The fields of a strict list are as high as there is room inside the list. -/
theorem heights_lt_of_listOf {reader : Reader Field}
    (each : ∀ part field room, reader part = .ok field → part.isStrict room = true →
      field.height ≤ room)
    {d : Draft} {fields : List Field} (h : Reader.listOf reader d = .ok fields) {room : Nat}
    (strict : d.isStrict room = true) : heights fields < room := by
  obtain ⟨items, rfl, members⟩ := Reader.listOf_eq_ok h
  cases room with
  | zero => cases strict
  | succ inner =>
    refine Nat.lt_succ_of_le (heights_le_iff.mpr ?_)
    intro field member
    obtain ⟨item, inside, reads⟩ := members field member
    exact each item field inner reads (Draft.strictItems_iff.mp strict item inside)

/-- The fields of a group stand in a list inside the group. -/
theorem groupForm_heights {reader : Reader Field}
    (each : ∀ part field room, reader part = .ok field → part.isStrict room = true →
      field.height ≤ room)
    {d : Draft} {label : String} {fields : List Field}
    (h : (groupForm (Reader.listOf reader)).read d = .ok (label, fields)) {room : Nat}
    (strict : d.isStrict room = true) : heights fields + 2 ≤ room := by
  refine Record.read_required (Q := fun v => heights v.2 + 2 ≤ room) h "fields"
    ⟨_, List.mem_cons_of_mem _ List.mem_cons_self, rfl, rfl⟩ ?_ ?_
  · intro m member named part inside v w read
    rcases List.mem_pair.mp member with rfl | rfl
    · exact absurd named (by decide)
    · obtain ⟨list, reads, rfl⟩ := Member.must_read.mp read
      obtain ⟨inner, rfl, narrow⟩ := Draft.isStrict_part strict inside
      have := heights_lt_of_listOf each reads narrow
      show heights list + 2 ≤ inner + 1
      omega
  · intro m member named part inside v w read kept
    rcases List.mem_pair.mp member with rfl | rfl
    · obtain ⟨_, -, rfl⟩ := Member.must_read.mp read
      exact kept
    · exact absurd rfl named

/-- A field opens no more arrays and objects when it is written than the strict text
that it was read from. -/
theorem height_le_of_read {inContent : Bool} {depth : Nat} {d : Draft} {field : Field}
    (h : read inContent depth d = .ok field) {room : Nat} (strict : d.isStrict room = true) :
    field.height ≤ room := by
  induction depth using Nat.strongRecOn generalizing d field room with
  | ind depth ih =>
    have opened {part : Draft} {tag : String} (eq : d = .obj [(some tag, part)]) :
        ∃ inner, room = inner + 1 ∧ part.isStrict inner = true := by
      subst eq
      exact Draft.isStrict_part strict List.mem_cons_self
    cases readAs_of_read h with
    | other => exact Nat.zero_le room
    | string index =>
      obtain ⟨room, rfl, -⟩ := opened rfl
      rw [height]
      omega
    | reference reads =>
      obtain ⟨room, rfl, inside⟩ := opened rfl
      have := Record.pos_of_read reads inside
      rw [height]
      omega
    | @group inner part label fields reads =>
      obtain ⟨room, rfl, inside⟩ := opened rfl
      have low := groupForm_heights (fun part field room reads strict =>
        ih inner (by omega) reads strict) reads inside
      rw [height]
      omega

end Field

/-! ## Words -/

/-- The word for a script kind is read back. -/
theorem ScriptKind.word_ofJson (kind : ScriptKind) :
    Reader.word all word (Draft.ofJson (.str kind.word)) = .ok kind := by
  cases kind <;> rfl

/-- The word for a section kind is read back. -/
theorem SectionKind.word_ofJson (kind : SectionKind) :
    Reader.word all word (Draft.ofJson (.str kind.word)) = .ok kind := by
  cases kind <;> rfl

namespace Content

open Unreferenced.Field (heights)

/-! ## Depth and stability of contents -/

/-- The field is a leaf of the content, in its own fields or in those of a section. -/
def HasLeaf : Content → Field → Prop
  | .structured record, leaf => Field.HasLeaf record.fields leaf
  | .scriptBearing bearing, leaf =>
    Field.HasLeaf bearing.fields leaf ∨ ∃ s ∈ bearing.sections, Field.HasLeaf s.fields leaf
  | _, _ => False

/-- All references in the content are to stable kinds. -/
def Stable (content : Content) : Prop :=
  ∀ kind name, content.HasLeaf (.resourceRef kind name) → kind.IsStable

/-- The written content has no more than `depth` arrays and objects inside each
other. -/
def Fits (depth : Nat) : Content → Prop
  | .structured record => heights record.fields + 2 ≤ depth
  | .scriptBearing bearing =>
    heights bearing.fields + 2 ≤ depth ∧ ∀ s ∈ bearing.sections, heights s.fields + 4 ≤ depth
  | _ => True

/-! ## Reading a written content -/

variable {depth : Nat}

theorem readFields_ofJson {fields : List Field} (low : heights fields ≤ Json.maxDepth)
    (stable : Field.Stable fields) :
    readFields (Draft.ofJson (.arr (Field.listToJson fields))) = .ok fields :=
  Field.listOf_read_toJson true low stable

theorem fragmentForm_read (f : ScriptFragment) :
    fragmentForm.read (Draft.ofJson (fragmentJson f)) = .ok f := by
  have names : (fragmentForm.members.map Member.name).Nodup := by decide
  refine (Record.read_members names [Draft.ofJson (.str f.kind.word), Draft.ofJson (.str f.source)]
    rfl).trans ?_
  rw [fragmentForm, Record.readItems_must (ScriptKind.word_ofJson f.kind),
    Record.readItems_must (Reader.text_ofJson f.source)]
  rfl

theorem sectionForm_read {s : Section} (low : heights s.fields ≤ Json.maxDepth)
    (stable : Field.Stable s.fields) : sectionForm.read (Draft.ofJson (sectionJson s)) = .ok s := by
  have names : (sectionForm.members.map Member.name).Nodup := by decide
  refine (Record.read_members names [Draft.ofJson (.str s.kind.word),
    Draft.ofJson (.arr (Field.listToJson s.fields))] rfl).trans ?_
  rw [sectionForm, Record.readItems_must (SectionKind.word_ofJson s.kind),
    Record.readItems_may (readFields_ofJson low stable)]
  rfl

theorem structuredForm_read {r : StructuredRecord} (low : heights r.fields ≤ Json.maxDepth)
    (stable : Field.Stable r.fields) :
    structuredForm.read
      (Draft.ofJson (.obj [("fields", .arr (Field.listToJson r.fields))])) = .ok r := by
  have names : (structuredForm.members.map Member.name).Nodup := by decide
  refine (Record.read_members names [Draft.ofJson (.arr (Field.listToJson r.fields))] rfl).trans ?_
  rw [structuredForm, Record.readItems_may (readFields_ofJson low stable)]
  rfl

theorem scriptBearingForm_read {b : ScriptBearing} (low : heights b.fields ≤ Json.maxDepth)
    (lows : ∀ s ∈ b.sections, heights s.fields ≤ Json.maxDepth)
    (stable : (Content.scriptBearing b).Stable) :
    scriptBearingForm.read
      (Draft.ofJson (.obj [("fields", .arr (Field.listToJson b.fields)),
        ("fragments", .arr (b.fragments.map fragmentJson)),
        ("sections", .arr (b.sections.map sectionJson))])) = .ok b := by
  have names : (scriptBearingForm.members.map Member.name).Nodup := by decide
  have fields := readFields_ofJson low fun kind name leaf => stable kind name (.inl leaf)
  have fragments := Reader.listOf_ofJson fun f (_ : f ∈ b.fragments) => fragmentForm_read f
  have sections := Reader.listOf_ofJson fun s (member : s ∈ b.sections) =>
    sectionForm_read (lows s member) fun kind name leaf => stable kind name (.inr ⟨s, member, leaf⟩)
  refine (Record.read_members names [Draft.ofJson (.arr (Field.listToJson b.fields)),
    Draft.ofJson (.arr (b.fragments.map fragmentJson)),
    Draft.ofJson (.arr (b.sections.map sectionJson))] rfl).trans ?_
  rw [scriptBearingForm, Record.readItems_may fields, Record.readItems_may fragments,
    Record.readItems_may sections]
  rfl

theorem textForm_read (member text : String) :
    (textForm member).read (Draft.ofJson (.obj [(member, .str text)])) = .ok text := by
  have names : ((textForm member).members.map Member.name).Nodup := List.nodup_singleton member
  refine (Record.read_members names [Draft.ofJson (.str text)] rfl).trans ?_
  rw [textForm, Record.readItems_must (Reader.text_ofJson text)]
  rfl

/-- The member `type` names the shape, and the others are what is written of it. -/
theorem readTagged_ofJson {shape : String} {members : List (String × Json)}
    (others : ∀ m ∈ members, m.1 ≠ "type") :
    readTagged (Draft.ofJson (.obj (("type", .str shape) :: members))) =
      readShape shape (Draft.ofJson (.obj members)) := by
  have first : ((some "type", Draft.ofJson (.str shape)) :: Draft.ofMembers members).filter
      (·.1 == some "type") = [(some "type", Draft.ofJson (.str shape))] := by
    rw [List.filter_cons_of_pos (by simp), List.cons.injEq]
    refine ⟨rfl, ?_⟩
    rw [Draft.ofMembers_eq_map, List.filter_eq_nil_iff]
    intro m written
    obtain ⟨n, member, rfl⟩ := List.mem_map.mp written
    simpa using others n member
  have rest : ((some "type", Draft.ofJson (.str shape)) :: Draft.ofMembers members).filter
      (·.1 != some "type") = Draft.ofMembers members := by
    rw [List.filter_cons_of_neg (by simp)]
    rw [Draft.ofMembers_eq_map, List.filter_eq_self]
    intro m written
    obtain ⟨n, member, rfl⟩ := List.mem_map.mp written
    simpa using others n member
  rw [Draft.ofJson, Draft.ofMembers, readTagged, first, rest, Draft.ofJson, Draft.ofJson]

/-- A written content that fits is strict. -/
theorem isStrict_toJson {content : Content} (fits : content.Fits depth) (deep : 4 ≤ depth) :
    (Draft.ofJson content.toJson).isStrict depth = true := by
  obtain ⟨inner, rfl⟩ := Nat.exists_eq_add_of_le' deep
  cases content with
  | structured record =>
    have fields := Field.isStrict_listToJson (Nat.le_of_add_le_add_right (c := inner + 2) fits)
    refine Draft.isStrict_obj ?_
    simp only [List.mem_cons, List.not_mem_nil, or_false, forall_eq_or_imp, forall_eq]
    exact ⟨Draft.isStrict_str _, fields⟩
  | scriptBearing bearing =>
    have fields := Field.isStrict_listToJson (Nat.le_of_add_le_add_right (c := inner + 2) fits.1)
    have fragments : (Draft.ofJson (.arr (bearing.fragments.map fragmentJson))).isStrict
        (inner + 3) = true := by
      refine Draft.isStrict_arr ?_
      intro v written
      obtain ⟨f, -, rfl⟩ := List.mem_map.mp written
      refine Draft.isStrict_obj ?_
      simp
    have sections : (Draft.ofJson (.arr (bearing.sections.map sectionJson))).isStrict
        (inner + 3) = true := by
      refine Draft.isStrict_arr ?_
      intro v written
      obtain ⟨s, member, rfl⟩ := List.mem_map.mp written
      have fields := Field.isStrict_listToJson
        (Nat.le_of_add_le_add_right (c := inner) (fits.2 s member))
      refine Draft.isStrict_obj ?_
      simp only [List.mem_cons, List.not_mem_nil, or_false, forall_eq_or_imp, forall_eq]
      exact ⟨Draft.isStrict_str _, fields⟩
    refine Draft.isStrict_obj ?_
    simp only [List.mem_cons, List.not_mem_nil, or_false, forall_eq_or_imp, forall_eq]
    exact ⟨Draft.isStrict_str _, fields, fragments, sections⟩
  | compiledScript bytecode =>
    refine Draft.isStrict_obj ?_
    simp
  | plainText text =>
    refine Draft.isStrict_obj ?_
    simp

/-- A content is read back at a depth that it fits into. -/
theorem read_toJson {content : Content} (fits : content.Fits depth) (deep : 4 ≤ depth)
    (low : depth ≤ Json.maxDepth) (stable : content.Stable) :
    read depth (Draft.ofJson content.toJson) = .ok content := by
  rw [read, if_pos (isStrict_toJson fits deep)]
  cases content with
  | structured record =>
    rw [Fits] at fits
    rw [toJson, readTagged_ofJson (by simp)]
    show (do let record ← structuredForm.read _; return Content.structured record) = _
    rw [structuredForm_read (by omega) stable]
    rfl
  | scriptBearing bearing =>
    obtain ⟨fields, sections⟩ := fits
    have lows : ∀ s ∈ bearing.sections, heights s.fields ≤ Json.maxDepth := by
      intro s member
      have := sections s member
      omega
    rw [toJson, readTagged_ofJson (by simp)]
    show (do let bearing ← scriptBearingForm.read _; return Content.scriptBearing bearing) = _
    rw [scriptBearingForm_read (by omega) lows stable]
    rfl
  | compiledScript bytecode =>
    rw [toJson, readTagged_ofJson (by simp)]
    show (do
      let bytecode ← (textForm "bytecode").read _
      return Content.compiledScript bytecode) = _
    rw [textForm_read]
    rfl
  | plainText text =>
    rw [toJson, readTagged_ofJson (by simp)]
    show (do let text ← (textForm "text").read _; return Content.plainText text) = _
    rw [textForm_read]
    rfl

/-! ## Contents that are read -/

theorem heights_of_readFields {d : Draft} {fields : List Field} (h : readFields d = .ok fields)
    (strict : d.isStrict depth = true) : heights fields < depth :=
  Field.heights_lt_of_listOf (fun _ _ _ reads => Field.height_le_of_read reads) h strict

theorem sectionForm_heights {d : Draft} {s : Section} (h : sectionForm.read d = .ok s)
    (strict : d.isStrict depth = true) (deep : 2 ≤ depth) : heights s.fields + 2 ≤ depth := by
  refine Record.read_keeps (P := fun s => heights s.fields + 2 ≤ depth) h deep ?_
  intro m member part inside v w read kept
  rcases List.mem_pair.mp member with rfl | rfl
  · obtain ⟨_, -, rfl⟩ := Member.must_read.mp read
    exact kept
  · obtain ⟨fields, reads, rfl⟩ := Member.may_read.mp read
    obtain ⟨inner, rfl, narrow⟩ := Draft.isStrict_part strict inside
    exact Nat.succ_le_succ (heights_of_readFields reads narrow)

theorem structuredForm_heights {d : Draft} {r : StructuredRecord}
    (h : structuredForm.read d = .ok r) (strict : d.isStrict depth = true) (deep : 2 ≤ depth) :
    heights r.fields + 2 ≤ depth := by
  refine Record.read_keeps (P := fun r => heights r.fields + 2 ≤ depth) h deep ?_
  intro m member part inside v w read _
  rw [List.mem_singleton.mp member] at read
  obtain ⟨fields, reads, rfl⟩ := Member.may_read.mp read
  obtain ⟨inner, rfl, narrow⟩ := Draft.isStrict_part strict inside
  exact Nat.succ_le_succ (heights_of_readFields reads narrow)

theorem scriptBearingForm_fits {d : Draft} {b : ScriptBearing}
    (h : scriptBearingForm.read d = .ok b) (strict : d.isStrict depth = true) (deep : 4 ≤ depth) :
    (Content.scriptBearing b).Fits depth := by
  refine Record.read_keeps (P := fun b => (Content.scriptBearing b).Fits depth) h
    ⟨Nat.le_of_add_left_le deep, by simp [scriptBearingForm]⟩ ?_
  intro m member part inside v w read kept
  obtain ⟨inner, rfl, narrow⟩ := Draft.isStrict_part strict inside
  rcases List.mem_cons.mp member with rfl | member
  · obtain ⟨fields, reads, rfl⟩ := Member.may_read.mp read
    exact ⟨Nat.succ_le_succ (heights_of_readFields reads narrow), kept.2⟩
  rcases List.mem_pair.mp member with rfl | rfl
  · obtain ⟨_, -, rfl⟩ := Member.may_read.mp read
    exact kept
  · obtain ⟨sections, reads, rfl⟩ := Member.may_read.mp read
    refine ⟨kept.1, ?_⟩
    intro s among
    obtain ⟨items, rfl, members⟩ := Reader.listOf_eq_ok reads
    obtain ⟨item, among, reads⟩ := members s among
    obtain ⟨room, rfl, narrower⟩ := Draft.isStrict_part narrow among
    have roomy : 2 ≤ room := by omega
    exact Nat.succ_le_succ (Nat.succ_le_succ (sectionForm_heights reads narrower roomy))

/-- What is read of a content is read as the shape that its text names. -/
theorem readTagged_eq_ok {d : Draft} {content : Content} (h : readTagged d = .ok content) :
    ∃ shape part, readShape shape part = .ok content ∧
      ∀ depth, d.isStrict depth = true → part.isStrict depth = true := by
  unfold readTagged at h
  split at h
  · split at h
    · exact ⟨_, _, h, fun depth strict => Draft.isStrict_filter _ strict⟩
    · cases h
  · next shape items =>
    refine ⟨shape, _, h, ?_⟩
    intro depth strict
    cases depth with
    | zero => cases strict
    | succ inner =>
      refine Draft.strictItems_iff.mpr ?_
      intro v inside
      exact Draft.strictItems_iff.mp strict v (List.mem_cons_of_mem _ inside)
  · cases h

/-- A content that is read fits into the depth that it was read at. -/
theorem fits_of_read (deep : 4 ≤ depth) {d : Draft} {content : Content}
    (h : read depth d = .ok content) : content.Fits depth := by
  rw [read] at h
  split at h
  · next strict =>
    obtain ⟨shape, part, h, narrow⟩ := readTagged_eq_ok h
    have strict := narrow depth strict
    unfold readShape at h
    split at h
    · obtain ⟨record, reads, ⟨⟩⟩ := Reader.bind_eq_ok.mp h
      exact structuredForm_heights reads strict (Nat.le_of_add_left_le deep)
    split at h
    · obtain ⟨bearing, reads, ⟨⟩⟩ := Reader.bind_eq_ok.mp h
      exact scriptBearingForm_fits reads strict deep
    split at h
    · obtain ⟨bytecode, -, ⟨⟩⟩ := Reader.bind_eq_ok.mp h
      trivial
    split at h
    · obtain ⟨text, -, ⟨⟩⟩ := Reader.bind_eq_ok.mp h
      trivial
    · cases h
  · cases h

end Content
end Unreferenced
