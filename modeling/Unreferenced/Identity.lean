import Unreferenced.Kind
import Unreferenced.Text.Pieces

/-!
# Resource identities

A resource is identified by its name and its kind, written `NAME.KIND`.  Names
are compared without regard to ASCII letter case, and the spelling is kept for
display.  A reference to a resource is the identity of the resource it names.
-/

namespace Unreferenced

/-- A resource name together with the kind of the resource. -/
structure Identity where
  name : String
  kind : Kind
deriving Repr

/-- The reason for which a text is no identity. -/
inductive IdentityFault
  | missingExtension
  | emptyName
  | emptyExtension
deriving DecidableEq, Repr

/-- A text, already trimmed, that is no identity. -/
structure IdentityError where
  input : String
  fault : IdentityFault
deriving DecidableEq, Repr

namespace IdentityFault

/-- What is said of the fault. -/
def reason : IdentityFault → String
  | missingExtension => "missing extension"
  | emptyName => "empty name"
  | emptyExtension => "empty extension"

end IdentityFault

namespace IdentityError

/-- The sentence that reports the error. -/
def message (e : IdentityError) : String :=
  "Invalid resource name '" ++ e.input ++ "': " ++ e.fault.reason

end IdentityError

namespace Identity

/-! ## Making an identity -/

/-- The identity with this name, trimmed, and this kind. -/
def ofParts (name : String) (kind : Kind) : Identity :=
  ⟨Text.trimmed name, kind⟩

/-- The identity that a text `NAME.EXT` names.  The text is trimmed and cut at
its last dot. -/
def parse (text : String) : Except IdentityError Identity :=
  let cs := Text.trim text.toList
  match Text.splitLast? '.' cs with
  | none => .error ⟨String.ofList cs, .missingExtension⟩
  | some ([], _) => .error ⟨String.ofList cs, .emptyName⟩
  | some (_, []) => .error ⟨String.ofList cs, .emptyExtension⟩
  | some (name, extension) =>
    .ok (ofParts (String.ofList name) (Kind.ofText (String.ofList extension)))

/-- The display form `NAME.KIND`, in the spelling the identity was made with. -/
def fileName (i : Identity) : String :=
  i.name ++ "." ++ i.kind.text

instance : ToString Identity := ⟨fileName⟩

/-! ## Equality, order and hash -/

/-- Equality of identities: the same kind, and names that agree up to ASCII
letter case. -/
def same (a b : Identity) : Bool :=
  a.kind == b.kind && Text.sameFolded a.name.toList b.name.toList

instance : BEq Identity := ⟨same⟩

/-- The order of identities: by the folded name, then by kind. -/
def order (a b : Identity) : Ordering :=
  (Text.compareChars (Text.upper a.name.toList) (Text.upper b.name.toList)).then
    (Text.compareChars a.kind.text.toList b.kind.text.toList)

instance : Ord Identity := ⟨order⟩

/-- What a hash of an identity may depend on. -/
def hashKey (i : Identity) : String × String :=
  (i.kind.text, Text.uppercased i.name)

instance : Hashable Identity := ⟨fun i => hash i.hashKey⟩

/-- The list in ascending order; equal identities keep their places. -/
def sorted (identities : List Identity) : List Identity :=
  identities.mergeSort fun a b => (order a b).isLE

/-! ## File names -/

/-- Whether a file name, cut at its last dot, is this identity's name and kind
up to ASCII letter case.  Blank characters count. -/
def matchesFileName (i : Identity) (fileName : String) : Bool :=
  match Text.splitLast? '.' fileName.toList with
  | some (name, extension) =>
    Text.sameFolded name i.name.toList && Text.sameFolded extension i.kind.text.toList
  | none => false

end Identity

/-- One piece of scan work: to inspect a resource for references to the target
kind. -/
structure Job where
  resource : Identity
  target : Kind
deriving Repr

namespace Job

/-- Jobs are equal when their resources and their targets are. -/
def same (a b : Job) : Bool :=
  a.resource == b.resource && a.target == b.target

instance : BEq Job := ⟨same⟩

end Job
end Unreferenced
