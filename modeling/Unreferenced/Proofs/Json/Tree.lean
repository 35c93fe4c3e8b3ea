import Unreferenced.Json.Reader
import Unreferenced.Proofs.Json.Tokens

/-!
# The tree of a written value

A value has a draft (`Draft.ofJson`), and the tokens of the value are built into
this draft at any place where a value may stand, inside any frames
(`build_toTokens`).  A reader finds in a text what it finds in the draft of it
(`Reader.run_of_draft`), and so in a compact text what it finds in the draft of the
value (`Reader.run_compact`).
-/

namespace Unreferenced
namespace Json

/-! ## The draft of a value -/

mutual

/-- A value as a draft. -/
def Draft.ofJson : Json → Draft
  | .null => .null
  | .bool b => .bool b
  | .int i => .num (Numeral.ofInt i)
  | .str s => .str (some s)
  | .arr items => .arr (ofItems items)
  | .obj members => .obj (ofMembers members)

/-- The items of an array as drafts. -/
def Draft.ofItems : List Json → List Draft
  | [] => []
  | v :: rest => ofJson v :: ofItems rest

/-- The members of an object as drafts. -/
def Draft.ofMembers : List (String × Json) → List (Option String × Draft)
  | [] => []
  | (k, v) :: rest => (some k, ofJson v) :: ofMembers rest

end

theorem Draft.ofItems_eq_map (items : List Json) : ofItems items = items.map ofJson := by
  induction items with
  | nil => rw [ofItems, List.map_nil]
  | cons v rest ih => rw [ofItems, ih, List.map_cons]

theorem Draft.ofMembers_eq_map (members : List (String × Json)) :
    ofMembers members = members.map fun m => (some m.1, ofJson m.2) := by
  induction members with
  | nil => rw [ofMembers, List.map_nil]
  | cons m rest ih => rw [ofMembers, ih, List.map_cons]

/-! ## Building -/

variable {rest : List Token} {frames : List Frame}

/-- A token that the grammar allows takes the builder to the next place. -/
theorem build_of_advance {t : Token} {place next : Place} {inside : List Frame}
    (h : place.advance? frames t = some (next, inside)) :
    build (t :: rest) place frames = build rest next inside := by
  rw [build.eq_3, h]
  rintro v rfl rfl
  cases t <;> cases h

/-- The first item of an array is built like any other value. -/
theorem build_item (v : Json) :
    build (v.toTokens ++ rest) .item frames =
      build (v.toTokens ++ rest) .value (.arr [] :: frames) := by
  cases v <;> rw [toTokens] <;> rfl

/-- A bracket closes the innermost array after its last item. -/
theorem build_closeArray (before : List Draft) (v : Draft) :
    build (.closeArray :: rest) (.next v) (.arr before :: frames) =
      build rest (.next (.arr (before.reverse ++ [v]))) frames := by
  rw [build_of_advance rfl, List.reverse_cons]

theorem build_closeObject (before : List (Option String × Draft)) (name : Option String)
    (v : Draft) :
    build (.closeObject :: rest) (.next v) (.obj before name :: frames) =
      build rest (.next (.obj (before.reverse ++ [(name, v)]))) frames := by
  rw [build_of_advance rfl, List.reverse_cons]

/-- A key and a colon open the place of a value. -/
theorem build_key (members : List (Option String × Draft)) (k : String) :
    build (stringToken k :: .colon :: rest) (.key members) frames =
      build rest .value (.obj members (some k) :: frames) := by
  rw [build_of_advance (t := stringToken k) rfl, decode_escapePiece, build_of_advance rfl]

/-- The first key of an object is like any other. -/
theorem build_member (k : String) :
    build (stringToken k :: rest) .member frames = build (stringToken k :: rest) (.key []) frames :=
  rfl

mutual

/-- The tokens of a value are built into its draft. -/
theorem build_toTokens : ∀ (v : Json) (rest : List Token) (frames : List Frame),
    build (v.toTokens ++ rest) .value frames = build rest (.next (Draft.ofJson v)) frames
  | .null, rest, frames => by
    rw [toTokens, Draft.ofJson]
    exact build_of_advance rfl
  | .bool b, rest, frames => by
    rw [toTokens, Draft.ofJson]
    exact build_of_advance rfl
  | .int i, rest, frames => by
    rw [toTokens, Draft.ofJson]
    exact build_of_advance rfl
  | .str s, rest, frames => by
    rw [toTokens, Draft.ofJson, ← decode_escapePiece s]
    exact build_of_advance rfl
  | .arr [], rest, frames => by
    rw [toTokens, itemTokens, Draft.ofJson, Draft.ofItems]
    exact (build_of_advance rfl).trans (build_of_advance rfl)
  | .arr (v :: more), rest, frames => by
    have items := build_itemTokens (v :: more) rest [] frames (List.cons_ne_nil _ _)
    have first : build (itemTokens (v :: more) ++ .closeArray :: rest) .item frames =
        build (itemTokens (v :: more) ++ .closeArray :: rest) .value (.arr [] :: frames) := by
      cases more with
      | nil => rw [itemTokens, build_item]
      | cons next more => rw [itemTokens, List.append_assoc, build_item]
    rw [toTokens, Draft.ofJson, List.append_assoc, List.cons_append, List.singleton_append,
      build_of_advance rfl, first, items]
    rfl
  | .obj [], rest, frames => by
    rw [toTokens, memberTokens, Draft.ofJson, Draft.ofMembers]
    exact (build_of_advance rfl).trans (build_of_advance rfl)
  | .obj ((k, v) :: more), rest, frames => by
    have members := build_memberTokens ((k, v) :: more) rest [] frames (List.cons_ne_nil _ _)
    have first : build (memberTokens ((k, v) :: more) ++ .closeObject :: rest) .member frames =
        build (memberTokens ((k, v) :: more) ++ .closeObject :: rest) (.key []) frames := by
      cases more with
      | nil => rw [memberTokens, List.cons_append, build_member]
      | cons next more => rw [memberTokens, List.append_assoc, List.cons_append, build_member]
    rw [toTokens, Draft.ofJson, List.append_assoc, List.cons_append, List.singleton_append,
      build_of_advance rfl, first, members]
    rfl

/-- The tokens of items that stand after others are built into an array of all
of them. -/
theorem build_itemTokens : ∀ (items : List Json) (rest : List Token) (before : List Draft)
    (frames : List Frame), items ≠ [] →
    build (itemTokens items ++ .closeArray :: rest) .value (.arr before :: frames) =
      build rest (.next (.arr (before.reverse ++ Draft.ofItems items))) frames
  | [], _, _, _, filled => absurd rfl filled
  | [v], rest, before, frames, _ => by
    rw [itemTokens, build_toTokens v, build_closeArray, Draft.ofItems, Draft.ofItems]
  | v :: next :: more, rest, before, frames, _ => by
    rw [itemTokens, List.append_assoc, build_toTokens v, List.cons_append, build_of_advance rfl,
      build_itemTokens (next :: more) _ _ _ (List.cons_ne_nil _ _), List.reverse_cons,
      List.append_assoc, Draft.ofItems]
    rfl

/-- The tokens of members that stand after others are built into an object of all
of them. -/
theorem build_memberTokens : ∀ (members : List (String × Json)) (rest : List Token)
    (before : List (Option String × Draft)) (frames : List Frame), members ≠ [] →
    build (memberTokens members ++ .closeObject :: rest) (.key before) frames =
      build rest (.next (.obj (before.reverse ++ Draft.ofMembers members))) frames
  | [], _, _, _, filled => absurd rfl filled
  | [(k, v)], rest, before, frames, _ => by
    rw [memberTokens, List.cons_append, List.cons_append, build_key, build_toTokens v,
      build_closeObject, Draft.ofMembers, Draft.ofMembers]
  | (k, v) :: next :: more, rest, before, frames, _ => by
    rw [memberTokens, List.append_assoc, List.cons_append, List.cons_append, build_key,
      build_toTokens v, List.cons_append, build_of_advance rfl,
      build_memberTokens (next :: more) _ _ _ (List.cons_ne_nil _ _), List.reverse_cons,
      List.append_assoc, Draft.ofMembers]
    rfl

end

/-! ## Reading a written value -/

/-- A text that is cut into the tokens of a value has the draft of the value, and nothing
stands after it. -/
theorem Draft.ofChars_of_tokens {cs : List Char} {v : Json} (cut : tokens cs = v.toTokens) :
    ofChars cs = (ofJson v, []) := by
  rw [← List.append_nil v.toTokens] at cut
  rw [ofChars, cut, build_toTokens, build]

/-- In a text a reader finds what it finds in the draft of it, if nothing stands after it. -/
theorem Reader.run_of_draft {α : Type} (r : Reader α) {text : String} {d : Draft}
    (drafted : Draft.ofChars text.toList = (d, [])) : run r text = r d := by
  rw [run, drafted]
  show (r d >>= fun a => pure a) = _
  cases r d <;> rfl

/-- In such a text a reader finds what it finds in the draft of the value. -/
theorem Reader.run_of_tokens {α : Type} (r : Reader α) {text : String} {v : Json}
    (cut : tokens text.toList = v.toTokens) : run r text = r (Draft.ofJson v) :=
  run_of_draft r (Draft.ofChars_of_tokens cut)

/-- A compact text is cut into the tokens of its value. -/
theorem tokens_compact (v : Json) : tokens v.compact.toList = v.toTokens := by
  have cut := tokens_compactChars v endsNumber_nil
  rw [List.append_nil, tokens, List.append_nil] at cut
  rw [Json.compact, String.toList_ofList, cut]

/-- A reader finds in a compact text what it finds in the draft of the value. -/
theorem Reader.run_compact {α : Type} (r : Reader α) (v : Json) :
    run r v.compact = r (Draft.ofJson v) :=
  run_of_tokens r (tokens_compact v)

end Json
end Unreferenced
