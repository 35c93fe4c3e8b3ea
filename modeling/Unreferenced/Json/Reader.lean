import Unreferenced.Identity
import Unreferenced.Json.Draft
import Unreferenced.Json.Value

/-!
# Reading values from drafts

Readers of scalars, lists and records.  A reader stops at the first fault in
the order of the text.  The library distinguishes a text that names a resource
badly from all other faults.

A record is written as an object or as an array of its members in their fixed
order.  A member may be left out if it has a default; in an array only the last
members can be.  No member may be written twice.
-/

namespace Unreferenced
namespace Json

/-- The first fault that a reader meets. -/
inductive ReadError
  /-- The text is no JSON, or its value has another form than expected. -/
  | malformed
  /-- A resource name in the text is no identity. -/
  | badIdentity (error : IdentityError)
deriving DecidableEq, Repr

/-- A reader of values of a type. -/
abbrev Reader (α : Type) := Draft → Except ReadError α

namespace Reader

/-- What a reader finds in a whole text; nothing may stand after the value. -/
def run {α : Type} (r : Reader α) (text : String) : Except ReadError α := do
  let (draft, rest) := Draft.ofChars text.toList
  let v ← r draft
  if rest.isEmpty then return v else throw .malformed

/-! ## Scalars -/

/-- Reads a string. -/
def text : Reader String
  | .str (some s) => .ok s
  | _ => .error .malformed

/-- Reads a truth value. -/
def bool : Reader Bool
  | .bool b => .ok b
  | _ => .error .malformed

/-- Reads an integer of a range, ends included. -/
def intBetween (low high : Int) : Reader Int
  | .num n =>
    match n.toInt? with
    | some v => if low ≤ v ∧ v ≤ high then .ok v else .error .malformed
    | none => .error .malformed
  | _ => .error .malformed

/-- Reads a natural number below a bound. -/
def natBelow (bound : Nat) : Reader Nat := fun d => do
  let v ← intBetween 0 (bound - 1) d
  return v.toNat

/-- The number of counts of 64 bits. -/
def countBound : Nat := 18446744073709551616

/-- Reads a count of 64 bits. -/
def count : Reader Nat := natBelow countBound

/-- Reads an integer of 32 bits with sign. -/
def int32 : Reader Int32 := fun d => do
  let v ← intBetween (-2147483648) 2147483647 d
  return Int32.ofInt v

/-- Reads a kind; any text names one. -/
def kind : Reader Kind := fun d => do
  let s ← text d
  return Kind.ofText s

/-- Reads an identity. -/
def identity : Reader Identity := fun d => do
  let s ← text d
  match Identity.parse s with
  | .ok i => return i
  | .error e => throw (.badIdentity e)

/-! ## Lists and absent values -/

/-- Reads the items of an array. -/
def listOf {α : Type} (r : Reader α) : Reader (List α)
  | .arr items => items.mapM r
  | _ => .error .malformed

/-- Reads null as no value. -/
def optional {α : Type} (r : Reader α) : Reader (Option α)
  | .null => .ok none
  | d => do
    let v ← r d
    return some v

end Reader

/-! ## Records -/

/-- A member of a record of type `α`: its name, whether it must be written, and
how its value is read into the record. -/
structure Member (α : Type) where
  name : String
  required : Bool
  read : Draft → α → Except ReadError α

namespace Member

/-- A member that must be written. -/
def must {α β : Type} (name : String) (r : Reader β) (put : β → α → α) : Member α :=
  ⟨name, true, fun d v => do
    let b ← r d
    return put b v⟩

/-- A member that may be left out. -/
def may {α β : Type} (name : String) (r : Reader β) (put : β → α → α) : Member α :=
  ⟨name, false, fun d v => do
    let b ← r d
    return put b v⟩

end Member

/-- The form of a record: the record in which no member is read yet, the members
in order, and whether an object may have other members as well. -/
structure Record (α : Type) where
  blank : α
  members : List (Member α)
  isOpen : Bool

namespace Record

/-- Reads the members of an object into a record; `seen` are the names read. -/
def readMembers {α : Type} (form : Record α) :
    List (Option String × Draft) → List String → α → Except ReadError α
  | [], seen, v =>
    if form.members.all fun m => !m.required || seen.contains m.name then .ok v
    else .error .malformed
  | (none, _) :: _, _, _ => .error .malformed
  | (some name, d) :: rest, seen, v =>
    match form.members.find? (·.name == name) with
    | none =>
      if form.isOpen && d.isWhole then form.readMembers rest seen v else .error .malformed
    | some m =>
      if seen.contains name then .error .malformed
      else do
        let v ← m.read d v
        form.readMembers rest (name :: seen) v

/-- Reads the items of an array into the members of a record. -/
def readItems {α : Type} : List (Member α) → List Draft → α → Except ReadError α
  | [], [], v => .ok v
  | [], _ :: _, _ => .error .malformed
  | m :: ms, [], v => if m.required then .error .malformed else readItems ms [] v
  | m :: ms, d :: ds, v => do
    let v ← m.read d v
    readItems ms ds v

/-- Reads a record in either form. -/
def read {α : Type} (form : Record α) : Reader α
  | .obj members => form.readMembers members [] form.blank
  | .arr items => readItems form.members items form.blank
  | _ => .error .malformed

end Record
end Json
end Unreferenced
