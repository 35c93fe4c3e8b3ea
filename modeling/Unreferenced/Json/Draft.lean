import Unreferenced.Json.Token

/-!
# JSON texts as trees

A *draft* is the tree of a JSON text as far as the text obeys the grammar.  A
`cut` marks the place where it does not, and nothing stands after the cut.  A
reader of drafts meets the parts of the text in the order in which they are
written, so of several faults it finds the first.

Strings that pair up no surrogates and numbers that no double can hold are kept
in a draft: the reader of a value that is not needed lets them pass.
-/

namespace Unreferenced
namespace Json

/-- A JSON text as a tree; a string without characters is `none`. -/
inductive Draft
  | null
  | bool (value : Bool)
  | num (numeral : Numeral)
  | str (text : Option String)
  | arr (items : List Draft)
  | obj (members : List (Option String × Draft))
  | cut

/-! ## From tokens to a tree -/

/-- An array or object around the place in the text that is being read, with
its parts up to there, last part first. -/
inductive Frame
  | arr (items : List Draft)
  | obj (members : List (Option String × Draft)) (name : Option String)

/-- What may stand at a place in the text. -/
inductive Place
  /-- A value. -/
  | value
  /-- The first item of an array or its end. -/
  | item
  /-- The first key of an object or its end. -/
  | member
  /-- A key, after a comma. -/
  | key (members : List (Option String × Draft))
  /-- A colon, after a key. -/
  | colon (members : List (Option String × Draft)) (name : Option String)
  /-- A comma or an end, after this value. -/
  | next (value : Draft)

/-- The array or object with one more part. -/
def Frame.close (v : Draft) : Frame → Draft
  | .arr items => .arr (v :: items).reverse
  | .obj members name => .obj ((name, v) :: members).reverse

/-- The whole tree, when the part inside the innermost frame is `v` and all
frames end after it. -/
def closeAll : Draft → List Frame → Draft
  | v, [] => v
  | v, frame :: frames => closeAll (frame.close v) frames

/-- The whole tree, when the text breaks the grammar at this place. -/
def Place.abandon (frames : List Frame) : Place → Draft
  | .value => closeAll .cut frames
  | .item => closeAll (.arr [.cut]) frames
  | .member => closeAll (.obj [(none, .cut)]) frames
  | .key members => closeAll (.obj ((none, .cut) :: members).reverse) frames
  | .colon members name => closeAll (.obj ((name, .cut) :: members).reverse) frames
  | .next v =>
    match frames with
    | [] => v
    | .arr items :: frames => closeAll (.arr (.cut :: v :: items).reverse) frames
    | .obj members name :: frames =>
      closeAll (.obj ((none, .cut) :: (name, v) :: members).reverse) frames

/-- The place after a token that starts or makes a value, if it does. -/
def Token.beginValue? (frames : List Frame) : Token → Option (Place × List Frame)
  | .openArray => some (.item, frames)
  | .openObject => some (.member, frames)
  | .null => some (.next .null, frames)
  | .bool b => some (.next (.bool b), frames)
  | .num n => some (.next (.num n), frames)
  | .str pieces => some (.next (.str (Piece.decode pieces)), frames)
  | _ => none

/-- The place after a token, if the grammar allows the token here. -/
def Place.advance? (frames : List Frame) : Place → Token → Option (Place × List Frame)
  | .value, t => t.beginValue? frames
  | .item, .closeArray => some (.next (.arr []), frames)
  | .item, t => t.beginValue? (.arr [] :: frames)
  | .member, .closeObject => some (.next (.obj []), frames)
  | .member, .str pieces => some (.colon [] (Piece.decode pieces), frames)
  | .key members, .str pieces => some (.colon members (Piece.decode pieces), frames)
  | .colon members name, .colon => some (.value, .obj members name :: frames)
  | .next v, t =>
    match t, frames with
    | .comma, .arr items :: frames => some (.value, .arr (v :: items) :: frames)
    | .closeArray, .arr items :: frames => some (.next (.arr (v :: items).reverse), frames)
    | .comma, .obj members name :: frames => some (.key ((name, v) :: members), frames)
    | .closeObject, .obj members name :: frames =>
      some (.next (.obj ((name, v) :: members).reverse), frames)
    | _, _ => none
  | _, _ => none

/-- The tree of the value at this place, and the tokens after it. -/
def build : List Token → Place → List Frame → Draft × List Token
  | tokens, .next v, [] => (v, tokens)
  | [], place, frames => (place.abandon frames, [])
  | t :: rest, place, frames =>
    match place.advance? frames t with
    | some (place, frames) => build rest place frames
    | none => (place.abandon frames, [])

/-- The tree of a text, and the tokens after its value. -/
def Draft.ofChars (cs : List Char) : Draft × List Token :=
  build (tokens cs) .value []

/-! ## Faultless drafts -/

namespace Draft

mutual

/-- Whether the text of this value obeys the grammar to its end. -/
def isWhole : Draft → Bool
  | .arr items => wholeItems items
  | .obj members => wholeMembers members
  | .cut => false
  | _ => true

/-- Whether every item is whole. -/
def wholeItems : List Draft → Bool
  | [] => true
  | v :: rest => isWhole v && wholeItems rest

/-- Whether the value of every member is whole. -/
def wholeMembers : List (Option String × Draft) → Bool
  | [] => true
  | (_, v) :: rest => isWhole v && wholeMembers rest

end

mutual

/-- Whether the value is whole, all its strings are strings, its numbers fit
into doubles, and no more than `depth` arrays and objects are inside each
other. -/
def isStrict (depth : Nat) : Draft → Bool
  | .null => true
  | .bool _ => true
  | .num n => n.inRange
  | .str s => s.isSome
  | .arr items =>
    match depth with
    | 0 => false
    | depth + 1 => strictItems depth items
  | .obj members =>
    match depth with
    | 0 => false
    | depth + 1 => strictMembers depth members
  | .cut => false

/-- Whether every item is strict. -/
def strictItems (depth : Nat) : List Draft → Bool
  | [] => true
  | v :: rest => isStrict depth v && strictItems depth rest

/-- Whether every key is a string and every member's value is strict. -/
def strictMembers (depth : Nat) : List (Option String × Draft) → Bool
  | [] => true
  | (k, v) :: rest => k.isSome && isStrict depth v && strictMembers depth rest

end

end Draft
end Json
end Unreferenced
