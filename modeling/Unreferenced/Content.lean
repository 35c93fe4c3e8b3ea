import Unreferenced.Identity

/-!
# Content of resources

A loaded resource has one of four shapes: a record of typed fields, a record
that also bears script fragments and sections, a compiled script, or plain
text.
-/

namespace Unreferenced

/-! ## Fields -/

/-- A field of a record. -/
inductive Field
  /-- A reference to a resource, by kind and name. -/
  | resourceRef (kind : Kind) (name : String)
  /-- An index into the string table; a negative one is unset. -/
  | stringRef (index : Int32)
  /-- A group of fields. -/
  | group (label : String) (fields : List Field)
  /-- A field that refers to nothing. -/
  | other

namespace Field

/-- The reference field with this name, trimmed, and this kind. -/
def toResource (name : String) (kind : Kind) : Field :=
  .resourceRef kind (Text.trimmed name)

/-- Whether a name says that no resource is meant: it is empty or the word NONE
in any letter case. -/
def isUnset (name : String) : Bool :=
  name.isEmpty || Text.sameFolded name.toList "NONE".toList

/-- The identity that a reference field names, unless its name is unset. -/
def reference? : Field → Option Identity
  | .resourceRef kind name => if isUnset name then none else some (Identity.ofParts name kind)
  | _ => none

/-- The index of a string reference. -/
def stringIndex? : Field → Option Int32
  | .stringRef index => some index
  | _ => none

mutual

/-- The fields that a field consists of: those of a group, at any depth and in
order, or else the field itself. -/
def leaves : Field → List Field
  | .resourceRef kind name => [.resourceRef kind name]
  | .stringRef index => [.stringRef index]
  | .group _ fields => flatten fields
  | .other => [.other]

/-- The leaves of all fields in order. -/
def flatten : List Field → List Field
  | [] => []
  | field :: rest => leaves field ++ flatten rest

end

end Field

/-! ## Scripts inside resources -/

/-- What a script or a part of one is for. -/
inductive ScriptKind
  /-- A condition block. -/
  | trigger
  /-- A response block. -/
  | action
  /-- A complete script. -/
  | script
deriving DecidableEq, Repr

namespace ScriptKind

/-- The word for a script kind. -/
def word : ScriptKind → String
  | trigger => "trigger"
  | action => "action"
  | script => "script"

/-- All script kinds. -/
def all : List ScriptKind := [trigger, action, script]

/-- The script kind that a word means, in any letter case. -/
def ofWord? (text : String) : Option ScriptKind :=
  all.find? fun k => Text.sameFolded k.word.toList text.toList

instance : ToString ScriptKind := ⟨word⟩

end ScriptKind

/-- A piece of script source inside a resource. -/
structure ScriptFragment where
  kind : ScriptKind
  source : String
deriving DecidableEq, Repr

/-! ## Sections -/

/-- What a section of a dialogue is. -/
inductive SectionKind
  | state
  | transition
deriving DecidableEq, Repr

namespace SectionKind

/-- The word for a section kind. -/
def word : SectionKind → String
  | state => "state"
  | transition => "transition"

/-- All section kinds. -/
def all : List SectionKind := [state, transition]

end SectionKind

/-- A part of a resource with fields of its own. -/
structure Section where
  kind : SectionKind
  fields : List Field

/-! ## Shapes -/

/-- A resource that consists of fields. -/
structure StructuredRecord where
  fields : List Field

/-- A resource with fields, script fragments and sections, such as a dialogue. -/
structure ScriptBearing where
  fields : List Field
  fragments : List ScriptFragment
  sections : List Section

/-- The content of a loaded resource. -/
inductive Content
  | structured (record : StructuredRecord)
  | scriptBearing (bearing : ScriptBearing)
  | compiledScript (bytecode : String)
  | plainText (text : String)

namespace Content

/-- The name of the shape. -/
def shape : Content → String
  | structured _ => "structured"
  | scriptBearing _ => "script-bearing"
  | compiledScript _ => "compiled-script"
  | plainText _ => "plain-text"

end Content
end Unreferenced
