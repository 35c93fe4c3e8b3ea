import Unreferenced.Content
import Unreferenced.Json.Reader

/-!
# Content in JSON

The written form of fields and contents, and the readers of it.

A field is written as an object with one member, named for what the field is;
the field that refers to nothing is written as a word.  A content is written as
an object whose member `type` names the shape, or as an array that starts with
the name of the shape.

The text of a content is checked as a whole before anything is read from it;
the text of a bare field list is checked as it is read.  No more than 127
arrays and objects may be inside each other.
-/

namespace Unreferenced

/-- How many arrays and objects may be inside each other in a text. -/
def Json.maxDepth : Nat := 127

/-! ## Words -/

/-- The reader of one of some words, which is written as a string or as an
object with that one member and nothing in it. -/
def Json.Reader.word {α : Type} (all : List α) (word : α → String) : Json.Reader α :=
  let find (s : String) : Except Json.ReadError α :=
    match all.find? (word · == s) with
    | some a => .ok a
    | none => .error .malformed
  fun
  | .str (some s) => find s
  | .obj [(some s, .null)] => find s
  | .obj [(some s, .obj [])] => find s
  | _ => .error .malformed

/-! ## Fields -/

namespace Field

mutual

/-- The written form of a field. -/
def toJson : Field → Json
  | .resourceRef kind name =>
    .obj [("resource_ref", .obj [("kind", .str kind.text), ("name", .str name)])]
  | .stringRef index => .obj [("string_ref", .int index.toInt)]
  | .group label fields =>
    .obj [("group", .obj [("label", .str label), ("fields", .arr (listToJson fields))])]
  | .other => .str "other"

/-- The written forms of several fields. -/
def listToJson : List Field → List Json
  | [] => []
  | field :: rest => toJson field :: listToJson rest

end

open Json (Draft Reader Record Member)

/-- What is written inside a reference field; the name is kept untrimmed. -/
def referenceForm : Record (Kind × String) :=
  ⟨(⟨""⟩, ""),
    [.must "kind" Reader.kind fun k v => (k, v.2),
      .must "name" Reader.text fun n v => (v.1, n)], true⟩

/-- What is written inside a group, with the reader of its fields. -/
def groupForm (fields : Reader (List Field)) : Record (String × List Field) :=
  ⟨("", []),
    [.must "label" Reader.text fun l v => (l, v.2),
      .must "fields" fields fun f v => (v.1, f)], true⟩

/-- Reads what is written inside the field that refers to nothing.  An empty
object will do only inside a content. -/
def readNothing (inContent : Bool) : Reader Field
  | .null => .ok .other
  | .obj [] => if inContent then .ok .other else .error .malformed
  | _ => .error .malformed

/-- Reads a field around which `depth` more arrays and objects may be opened. -/
def read (inContent : Bool) : Nat → Reader Field
  | _, .str (some word) => if word == "other" then .ok .other else .error .malformed
  | depth + 1, .obj [(some tag, d)] =>
    if tag == "other" then readNothing inContent d
    else if tag == "string_ref" then do
      let index ← Reader.int32 d
      return .stringRef index
    else if tag == "resource_ref" then
      match depth with
      | 0 => .error .malformed
      | _ + 1 => do
        let (kind, name) ← referenceForm.read d
        return .resourceRef kind name
    else if tag == "group" then
      match depth with
      | inner + 2 => do
        let (label, fields) ← (groupForm (Reader.listOf (read inContent inner))).read d
        return .group label fields
      | _ => .error .malformed
    else .error .malformed
  | _, _ => .error .malformed

/-- Reads the fields of a bare list. -/
def readList : Reader (List Field) :=
  Reader.listOf (read false (Json.maxDepth - 1))

end Field

/-! ## Contents -/

namespace Content

open Json (Draft Reader Record Member)

/-- The written form of a script fragment. -/
def fragmentJson (f : ScriptFragment) : Json :=
  .obj [("kind", .str f.kind.word), ("source", .str f.source)]

/-- The written form of a section. -/
def sectionJson (s : Section) : Json :=
  .obj [("kind", .str s.kind.word), ("fields", .arr (Field.listToJson s.fields))]

/-- The written form of a content. -/
def toJson : Content → Json
  | .structured record =>
    .obj [("type", .str "structured"), ("fields", .arr (Field.listToJson record.fields))]
  | .scriptBearing bearing =>
    .obj [("type", .str "script_bearing"),
      ("fields", .arr (Field.listToJson bearing.fields)),
      ("fragments", .arr (bearing.fragments.map fragmentJson)),
      ("sections", .arr (bearing.sections.map sectionJson))]
  | .compiledScript bytecode =>
    .obj [("type", .str "compiled_script"), ("bytecode", .str bytecode)]
  | .plainText text => .obj [("type", .str "plain_text"), ("text", .str text)]

/-- The fields inside a content. -/
def readFields : Reader (List Field) :=
  Reader.listOf (Field.read true Json.maxDepth)

/-- What is written of a script fragment. -/
def fragmentForm : Record ScriptFragment :=
  ⟨⟨.script, ""⟩,
    [.must "kind" (Reader.word ScriptKind.all ScriptKind.word) fun k v => { v with kind := k },
      .must "source" Reader.text fun s v => { v with source := s }], true⟩

/-- What is written of a section. -/
def sectionForm : Record Section :=
  ⟨⟨.state, []⟩,
    [.must "kind" (Reader.word SectionKind.all SectionKind.word) fun k v => { v with kind := k },
      .may "fields" readFields fun f v => { v with fields := f }], true⟩

/-- What is written of a structured record. -/
def structuredForm : Record StructuredRecord :=
  ⟨⟨[]⟩, [.may "fields" readFields fun f _ => ⟨f⟩], true⟩

/-- What is written of a resource with scripts. -/
def scriptBearingForm : Record ScriptBearing :=
  ⟨⟨[], [], []⟩,
    [.may "fields" readFields fun f v => { v with fields := f },
      .may "fragments" (Reader.listOf fragmentForm.read) fun f v => { v with fragments := f },
      .may "sections" (Reader.listOf sectionForm.read) fun s v => { v with sections := s }], true⟩

/-- What is written of a shape with one text in it. -/
def textForm (member : String) : Record String :=
  ⟨"", [.must member Reader.text fun s _ => s], true⟩

/-- Reads a content of the shape with this name. -/
def readShape (shape : String) : Reader Content := fun d =>
  if shape == "structured" then do
    let record ← structuredForm.read d
    return .structured record
  else if shape == "script_bearing" then do
    let bearing ← scriptBearingForm.read d
    return .scriptBearing bearing
  else if shape == "compiled_script" then do
    let bytecode ← (textForm "bytecode").read d
    return .compiledScript bytecode
  else if shape == "plain_text" then do
    let text ← (textForm "text").read d
    return .plainText text
  else .error .malformed

/-- Reads a content from a text without faults of form. -/
def readTagged : Reader Content
  | .obj members =>
    match members.filter (·.1 == some "type") with
    | [(_, .str (some shape))] => readShape shape (.obj (members.filter (·.1 != some "type")))
    | _ => .error .malformed
  | .arr (.str (some shape) :: items) => readShape shape (.arr items)
  | _ => .error .malformed

/-- Reads a content inside which `depth` arrays and objects may be inside each
other. -/
def read (depth : Nat) : Reader Content := fun d =>
  if d.isStrict depth then readTagged d else .error .malformed

end Content
end Unreferenced
