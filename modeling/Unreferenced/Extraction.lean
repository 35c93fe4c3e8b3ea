import Unreferenced.Script.Code
import Unreferenced.StringTable
import Unreferenced.Text.Token

/-!
# Extraction of references

The references that a content makes to resources of one kind, the target kind.

* A typed field refers to the resource that it names.
* A spoken line refers to an audio resource through the string table.  The
  spoken lines are the string references of a structured record, and of a
  resource with scripts those in its sections.
* A script refers to the file names in its quotes.  A script that does not pass
  through the tool chain refers to nothing and is counted.
* In plain text every word is taken as the name of a resource of the target
  kind.
-/

namespace Unreferenced

/-- The references found in a content, and the number of its scripts that
failed. -/
structure Extraction where
  references : IdentitySet
  scriptFailures : Nat

namespace Extraction

/-- The number of references. -/
def size (e : Extraction) : Nat := e.references.size

/-- What a field refers to; `audio` resolves its string index if it is part of
a spoken line. -/
def fieldReference? (audio : Int32 → Option Identity) (field : Field) : Option Identity :=
  match field.reference? with
  | some i => some i
  | none => field.stringIndex?.bind audio

/-- What the leaves of some fields refer to, in order. -/
def fieldReferences (audio : Int32 → Option Identity) (fields : List Field) : List Identity :=
  (Field.flatten fields).filterMap (fieldReference? audio)

/-- The spoken lines of a target kind: only the audio kind has any. -/
def spoken (lookup : Int32 → Option String) (target : Kind) (index : Int32) : Option Identity :=
  if target.isAudio then StringTable.resolve lookup index else none

/-- What the script fragments that pass through the tool chain refer to. -/
def fragmentReferences (compiler : Script.Compiler) (fragments : List ScriptFragment) :
    List Identity :=
  fragments.flatMap fun f =>
    match compiler.recover f.source f.kind with
    | .ok references => references.toList
    | .error _ => []

/-- The number of script fragments that do not. -/
def fragmentFailures (compiler : Script.Compiler) (fragments : List ScriptFragment) : Nat :=
  fragments.countP fun f =>
    match compiler.recover f.source f.kind with
    | .ok _ => false
    | .error _ => true

/-- Everything that a content refers to, of any kind, in the order in which it
is met; and the number of scripts that failed. -/
def collect (compiler : Script.Compiler) (lookup : Int32 → Option String) (target : Kind) :
    Content → List Identity × Nat
  | .structured record => (fieldReferences (spoken lookup target) record.fields, 0)
  | .scriptBearing bearing =>
    (fieldReferences (fun _ => none) bearing.fields ++
      fragmentReferences compiler bearing.fragments ++
      bearing.sections.flatMap (fun s => fieldReferences (spoken lookup target) s.fields),
      fragmentFailures compiler bearing.fragments)
  | .compiledScript bytecode =>
    match compiler.decompile bytecode .script with
    | .ok decompiled => (decompiled.references.toList, 0)
    | .error _ => ([], 1)
  | .plainText text =>
    ((Text.words text.toList).map fun w => Identity.ofParts (String.ofList w) target, 0)

/-- The references that a content makes to resources of the target kind.  Scripts
go through the literal compiler unless another one is given. -/
def ofContent (lookup : Int32 → Option String) (target : Kind) (content : Content)
    (compiler : Script.Compiler := Script.literal) : Extraction :=
  let (references, failures) := collect compiler lookup target content
  ⟨IdentitySet.ofList (references.filter (·.kind == target)), failures⟩

end Extraction
end Unreferenced
