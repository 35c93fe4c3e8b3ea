import Unreferenced.Proofs.Json.Tree

/-!
# Indented texts

An indented text has line breaks and blanks where the compact text of the same value has
nothing, and these stand between tokens (`tokens_lineBreak`).  So both texts are cut into
the tokens of the value (`tokens_prettyChars`), and a reader finds the same in both
(`Reader.run_pretty`).
-/

namespace Unreferenced
namespace Json

/-! ## Blanks between tokens -/

theorem tokens_space {c : Char} (space : isSpace c = true) (rest : List Char) :
    tokens (c :: rest) = tokens rest := by
  rw [tokens, if_pos space]

theorem tokens_replicate (n : Nat) (rest : List Char) :
    tokens (List.replicate n ' ' ++ rest) = tokens rest := by
  induction n with
  | zero => rfl
  | succ n ih => rw [List.replicate_succ, List.cons_append, tokens_space rfl, ih]

/-- A line break and the indentation after it are no tokens. -/
theorem tokens_lineBreak (level : Nat) (rest : List Char) :
    tokens (lineBreak level ++ rest) = tokens rest := by
  rw [lineBreak, List.cons_append, tokens_space rfl, tokens_replicate]

/-- No number goes on after a line break. -/
theorem endsNumber_lineBreak (level : Nat) (rest : List Char) :
    EndsNumber (lineBreak level ++ rest) :=
  endsNumber_cons _ (by decide)

/-! ## The text of a value -/

mutual

/-- The indented text of a value is cut into the tokens of the value. -/
theorem tokens_prettyChars : ∀ (v : Json) (level : Nat) {rest : List Char}, EndsNumber rest →
    tokens (v.prettyChars level ++ rest) = v.toTokens ++ tokens rest
  | .null, _, _, ends => tokens_compactChars .null ends
  | .bool b, _, _, ends => tokens_compactChars (.bool b) ends
  | .int i, _, _, ends => tokens_compactChars (.int i) ends
  | .str s, _, _, ends => tokens_compactChars (.str s) ends
  | .arr [], _, _, ends => tokens_compactChars (.arr []) ends
  | .obj [], _, _, ends => tokens_compactChars (.obj []) ends
  | .arr (v :: more), level, rest, _ => by
    rw [prettyChars, toTokens, List.append_assoc, List.append_assoc, List.cons_append,
      tokens_openArray, tokens_prettyItems (v :: more) level (endsNumber_lineBreak _ _),
      tokens_lineBreak, List.singleton_append, tokens_closeArray]
    simp
  | .obj (m :: more), level, rest, _ => by
    rw [prettyChars, toTokens, List.append_assoc, List.append_assoc, List.cons_append,
      tokens_openObject, tokens_prettyMembers (m :: more) level (endsNumber_lineBreak _ _),
      tokens_lineBreak, List.singleton_append, tokens_closeObject]
    simp

theorem tokens_prettyItems : ∀ (items : List Json) (level : Nat) {rest : List Char},
    EndsNumber rest → tokens (prettyItems level items ++ rest) = itemTokens items ++ tokens rest
  | [], _, _, _ => rfl
  | [v], level, rest, ends => by
    rw [prettyItems, itemTokens, List.append_assoc, tokens_lineBreak,
      tokens_prettyChars v (level + 1) ends]
  | v :: next :: more, level, rest, ends => by
    rw [prettyItems, itemTokens, List.append_assoc, List.append_assoc, tokens_lineBreak,
      List.cons_append, tokens_prettyChars v (level + 1) (endsNumber_cons _ (by decide)),
      tokens_comma, tokens_prettyItems (next :: more) level ends]
    simp

theorem tokens_prettyMembers : ∀ (members : List (String × Json)) (level : Nat)
    {rest : List Char}, EndsNumber rest →
    tokens (prettyMembers level members ++ rest) = memberTokens members ++ tokens rest
  | [], _, _, _ => rfl
  | [(k, v)], level, rest, ends => by
    rw [prettyMembers, memberTokens, List.append_assoc, List.append_assoc, tokens_lineBreak,
      tokens_quoted, List.cons_append, tokens_colon, List.cons_append, tokens_space rfl,
      tokens_prettyChars v (level + 1) ends]
    simp
  | (k, v) :: next :: more, level, rest, ends => by
    rw [prettyMembers, memberTokens, List.append_assoc, List.append_assoc, List.append_assoc,
      tokens_lineBreak, tokens_quoted, List.cons_append, tokens_colon, List.cons_append,
      tokens_space rfl, List.cons_append,
      tokens_prettyChars v (level + 1) (endsNumber_cons _ (by decide)), tokens_comma,
      tokens_prettyMembers (next :: more) level ends]
    simp

end

/-- A reader finds in an indented text what it finds in the draft of the value. -/
theorem Reader.run_pretty {α : Type} (r : Reader α) (v : Json) :
    run r v.pretty = r (Draft.ofJson v) := by
  apply run_of_tokens r
  have cut := tokens_prettyChars v 0 endsNumber_nil
  rw [List.append_nil, tokens, List.append_nil] at cut
  rw [Json.pretty, String.toList_ofList, cut]

end Json
end Unreferenced
