import Unreferenced.Identity

/-!
# The string table

A string table attaches names of audio resources to indices.  Spoken lines
refer to audio resources through it.
-/

namespace Unreferenced

/-- The audio names set so far, latest first. -/
structure StringTable where
  entries : List (Int32 × String)
deriving Repr

namespace StringTable

/-- The table without entries. -/
def empty : StringTable := ⟨[]⟩

/-- The table in which an index has this audio name; an earlier name of the
index is forgotten. -/
def setAudio (t : StringTable) (index : Int32) (name : String) : StringTable :=
  ⟨(index, name) :: t.entries.filter (·.1 != index)⟩

/-- The trimmed audio name of an index, if it has one that is not blank. -/
def audio? (t : StringTable) (index : Int32) : Option String :=
  match t.entries.lookup index with
  | none => none
  | some name => if (Text.trimmed name).isEmpty then none else some (Text.trimmed name)

/-- The audio resource that a spoken line refers to, through any way of looking
up audio names.  A negative index is unset. -/
def resolve (lookup : Int32 → Option String) (index : Int32) : Option Identity :=
  if index < 0 then none
  else (lookup index).map fun name => Identity.ofParts name Kind.audio

end StringTable
end Unreferenced
