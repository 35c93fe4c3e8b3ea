import Unreferenced.Content
import Unreferenced.IdentitySet

/-!
# Resource stores

A store lists the resources of a kind, loads a resource and knows a label for
it.  `Source` is what a scan needs of a store; `Store` keeps resources in
memory, in the order in which they were first inserted.
-/

namespace Unreferenced

/-! ## Faults -/

/-- The reason for which a scan gives no result. -/
inductive ScanError
  /-- Resources could not be listed. -/
  | storeUnavailable (reason : String)
  /-- The configuration makes no sense. -/
  | invalidConfig (reason : String)
  /-- No workers could be started. -/
  | workerPool (reason : String)
deriving DecidableEq, Repr

namespace ScanError

/-- The sentence that reports the error. -/
def message : ScanError → String
  | storeUnavailable reason => "Resource store unavailable: " ++ reason
  | invalidConfig reason => "Invalid configuration: " ++ reason
  | workerPool reason => "Failed to start worker pool: " ++ reason

end ScanError

/-- The reason for which a resource could not be loaded. -/
inductive LoadError
  /-- The store has no such resource, or no data of it. -/
  | notFound (identity : Identity)
  /-- The data could not be decoded. -/
  | corrupt (identity : Identity) (reason : String)
deriving Repr

namespace LoadError

/-- The sentence that reports the error. -/
def message : LoadError → String
  | notFound identity => "Resource not found: " ++ identity.fileName
  | corrupt identity reason => "Corrupt resource " ++ identity.fileName ++ ": " ++ reason

end LoadError

/-! ## What a scan reads from -/

/-- A place to read resources from. -/
structure Source where
  list : Kind → Except ScanError (List Identity)
  load : Identity → Except LoadError Content
  label? : Identity → Option String

/-! ## Stores in memory -/

/-- What a store holds of a resource. -/
inductive Payload
  | content (content : Content)
  | corrupt (reason : String)
  | missing

/-- A resource in a store. -/
structure StoredResource where
  identity : Identity
  payload : Payload
  label? : Option String

/-- Resources in the order of their first insertion, each identity once; and
the reason for which they cannot be listed, if there is one. -/
structure Store where
  resources : List StoredResource
  unavailable? : Option String
  distinct : resources.Pairwise fun a b => (a.identity == b.identity) = false

namespace Store

/-- The store without resources. -/
def empty : Store := ⟨[], none, .nil⟩

/-- The stored resource with this identity. -/
def find? (s : Store) (i : Identity) : Option StoredResource :=
  s.resources.find? fun r => r.identity == i

/-- Puts a resource into the store.  A resource that is there already keeps its
place and its spelling and gets the new payload and label. -/
def put (s : Store) (i : Identity) (payload : Payload) (label? : Option String) : Store :=
  if h : (s.resources.any fun r => r.identity == i) = true then
    ⟨s.resources.map fun r => if r.identity == i then ⟨r.identity, payload, label?⟩ else r,
      s.unavailable?, by
      refine List.pairwise_map.mpr (s.distinct.imp ?_)
      intro a b hab
      have kept (r : StoredResource) :
          (if r.identity == i then (⟨r.identity, payload, label?⟩ : StoredResource)
            else r).identity = r.identity := by
        split <;> rfl
      rw [kept, kept]
      exact hab⟩
  else
    ⟨s.resources ++ [⟨i, payload, label?⟩], s.unavailable?, by
      refine List.pairwise_append.mpr ⟨s.distinct, by simp, ?_⟩
      intro a ha b hb
      simp only [List.mem_singleton] at hb
      subst hb
      simp only [List.any_eq_true, not_exists, not_and, Bool.not_eq_true] at h
      exact h a ha⟩

/-- Adds or replaces a resource without a label. -/
def insert (s : Store) (i : Identity) (content : Content) : Store :=
  s.put i (.content content) none

/-- Adds or replaces a resource with a label. -/
def insertLabeled (s : Store) (i : Identity) (content : Content) (label : String) : Store :=
  s.put i (.content content) (some label)

/-- Adds or replaces a resource that is listed but cannot be decoded. -/
def insertCorrupt (s : Store) (i : Identity) (reason : String) : Store :=
  s.put i (.corrupt reason) none

/-- Adds or replaces a resource that is listed but has no data. -/
def insertMissing (s : Store) (i : Identity) : Store :=
  s.put i .missing none

/-- Makes every listing fail for this reason. -/
def setUnavailable (s : Store) (reason : String) : Store :=
  { s with unavailable? := some reason }

/-- The number of resources. -/
def size (s : Store) : Nat := s.resources.length

/-- The resources of a kind in the order of their first insertion. -/
def list (s : Store) (kind : Kind) : Except ScanError (List Identity) :=
  match s.unavailable? with
  | some reason => .error (.storeUnavailable reason)
  | none => .ok ((s.resources.map (·.identity)).filter (·.kind == kind))

/-- Loads a resource; an error names the resource as it was asked for. -/
def load (s : Store) (i : Identity) : Except LoadError Content :=
  match s.find? i with
  | none => .error (.notFound i)
  | some r =>
    match r.payload with
    | .content content => .ok content
    | .corrupt reason => .error (.corrupt i reason)
    | .missing => .error (.notFound i)

/-- The label of a resource. -/
def label? (s : Store) (i : Identity) : Option String :=
  match s.find? i with
  | none => none
  | some r => r.label?

/-- The store as a place to read from. -/
def source (s : Store) : Source := ⟨s.list, s.load, s.label?⟩

end Store
end Unreferenced
