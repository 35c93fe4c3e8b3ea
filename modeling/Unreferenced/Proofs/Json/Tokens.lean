import Unreferenced.Json.Token
import Unreferenced.Json.Value

/-!
# The tokens of a written value

Every value has a sequence of tokens (`Json.toTokens`).  Its compact text is cut
into exactly these, and the text after it is cut as if it stood alone
(`tokens_compactChars`).  All that is asked of the text after it is that it does
not go on with a number: that is the one kind of token whose end is not marked.
-/

namespace Unreferenced
namespace Json

/-! ## Strings -/

/-- The piece of a string that a character is written as. -/
def escapePiece (c : Char) : Piece :=
  if 0x20 ≤ c.toNat ∨ c ∈ ['\x08', '\t', '\n', '\x0c', '\r'] then .char c else .unit c.toNat

/-- Two zeros and the hexadecimal pair of a small number write the number. -/
theorem hexQuad?_hexPair : ∀ n < 32,
    hexQuad? '0' '0' (Nat.digitChar (n / 16)) (Nat.digitChar (n % 16)) = some n := by
  decide

/-- An escaped character is read as its piece. -/
theorem stringPieces_escapeChar {c : Char} {cs rest : List Char} {pieces : List Piece}
    (h : stringPieces cs = some (pieces, rest)) :
    stringPieces (escapeChar c ++ cs) = some (escapePiece c :: pieces, rest) := by
  unfold escapeChar
  split
  · subst c
    simp [stringPieces, shortEscape?, escapePiece, h]
  split
  · subst c
    simp [stringPieces, shortEscape?, escapePiece, h]
  split
  · rename_i quote slash plain
    rw [List.singleton_append, stringPieces.eq_5 _ _ quote (by simp [slash]) (by simp [slash])]
    simp [slash, Nat.not_lt.mpr plain, escapePiece, plain, h]
  split
  · subst c
    simp [stringPieces, shortEscape?, escapePiece, h]
  split
  · subst c
    simp [stringPieces, shortEscape?, escapePiece, h]
  split
  · subst c
    simp [stringPieces, shortEscape?, escapePiece, h]
  split
  · subst c
    simp [stringPieces, shortEscape?, escapePiece, h]
  split
  · subst c
    simp [stringPieces, shortEscape?, escapePiece, h]
  · rename_i plain back tab feed form ret
    have code := hexQuad?_hexPair c.toNat (by omega)
    simp [stringPieces, hexPair, code, escapePiece, plain, back, tab, feed, form, ret, h]

theorem stringPieces_quoted (cs rest : List Char) :
    stringPieces (cs.flatMap escapeChar ++ '"' :: rest) = some (cs.map escapePiece, rest) := by
  induction cs with
  | nil => simp [stringPieces]
  | cons c cs ih =>
    rw [List.flatMap_cons, List.append_assoc, stringPieces_escapeChar ih, List.map_cons]

/-- A code unit below the surrogates is a character. -/
theorem decodePieces_unit {code : Nat} (low : code < 0xD800) (rest : List Piece) :
    decodePieces (.unit code :: rest) = (decodePieces rest).map (Char.ofNat code :: ·) := by
  conv => lhs; unfold decodePieces
  rw [if_pos (.inl low)]

/-- The pieces of a string stand for its characters. -/
theorem decodePieces_escapePiece (cs : List Char) :
    decodePieces (cs.map escapePiece) = some cs := by
  induction cs with
  | nil => rfl
  | cons c cs ih =>
    rw [List.map_cons, escapePiece]
    split
    · rw [decodePieces, ih]
      rfl
    · rename_i control
      have low : c.toNat < 0xD800 := by
        rw [not_or] at control
        omega
      rw [decodePieces_unit low, ih, Char.ofNat_toNat]
      rfl

theorem decode_escapePiece (s : String) : Piece.decode (s.toList.map escapePiece) = some s := by
  rw [Piece.decode, decodePieces_escapePiece, Option.map_some, String.ofList_toList]

/-! ## Numbers -/

/-- The numeral of an integer. -/
def Numeral.ofInt : Int → Numeral
  | .ofNat n => ⟨false, natText n, [], none⟩
  | .negSucc n => ⟨true, natText (n + 1), [], none⟩

theorem Numeral.value_natText (n : Nat) : value (natText n) = n :=
  Nat.ofDigitChars_ten_toDigits

/-- The numeral of an integer denotes it. -/
theorem Numeral.toInt?_ofInt (i : Int) : (ofInt i).toInt? = some i := by
  cases i with
  | ofNat n => simp [ofInt, toInt?, value_natText]
  | negSucc n => simp [ofInt, toInt?, value_natText]

/-- The text does not go on with a number. -/
def EndsNumber (rest : List Char) : Prop :=
  ∀ c, rest.head? = some c → c.isDigit = false ∧ c ≠ '.' ∧ c ≠ 'e' ∧ c ≠ 'E'

theorem isDigit_of_mem_natText {n : Nat} {c : Char} (h : c ∈ natText n) : c.isDigit = true :=
  Nat.isDigit_of_mem_toDigits (by decide) (by decide) h

theorem natText_ne_nil (n : Nat) : natText n ≠ [] := Nat.toDigits_ne_nil

/-- Only the digits of zero start with a zero. -/
theorem head?_natText_ne_zero {n : Nat} (positive : 0 < n) : (natText n).head? ≠ some '0' := by
  induction n using Nat.strongRecOn with
  | ind n ih =>
    by_cases small : n < 10
    · rw [natText, Nat.toDigits_of_lt_base small]
      have digits : ∀ d < 10, 0 < d → [Nat.digitChar d].head? ≠ some '0' := by decide
      exact digits n small positive
    · have front := ih (n / 10) (by omega) (by omega)
      obtain ⟨d, ds, digits⟩ := List.exists_cons_of_ne_nil (natText_ne_nil (n / 10))
      rw [natText] at digits front
      rw [natText, Nat.toDigits_of_base_le (by decide) (by omega), digits]
      rwa [digits] at front

theorem digits?_natText (n : Nat) {rest : List Char} (ends : EndsNumber rest) :
    digits? (natText n ++ rest) = some (natText n, rest) := by
  have stop : rest.takeWhile Char.isDigit = [] ∧ rest.dropWhile Char.isDigit = rest := by
    cases rest with
    | nil => exact ⟨rfl, rfl⟩
    | cons c rest => simp [(ends c rfl).1]
  have all (c : Char) (h : c ∈ natText n) := isDigit_of_mem_natText h
  rw [digits?, List.takeWhile_append_of_pos all, List.dropWhile_append_of_pos all, stop.1, stop.2,
    List.append_nil]
  split
  · rename_i none
    exact absurd none (natText_ne_nil n)
  · rfl

theorem wholePart?_natText (n : Nat) {rest : List Char} (ends : EndsNumber rest) :
    wholePart? (natText n ++ rest) = some (natText n, rest) := by
  by_cases zero : n = 0
  · subst zero
    rfl
  · have first := head?_natText_ne_zero (Nat.pos_of_ne_zero zero)
    rw [wholePart?.eq_2, digits?_natText n ends]
    intro after starts
    obtain ⟨d, ds, digits⟩ := List.exists_cons_of_ne_nil (natText_ne_nil n)
    rw [digits] at starts first
    cases starts
    exact first rfl

theorem fractionPart?_of_endsNumber {rest : List Char} (ends : EndsNumber rest) :
    fractionPart? rest = some ([], rest) := by
  rw [fractionPart?.eq_2]
  rintro after rfl
  exact (ends '.' rfl).2.1 rfl

theorem exponentPart?_of_endsNumber {rest : List Char} (ends : EndsNumber rest) :
    exponentPart? rest = some (none, rest) := by
  cases rest with
  | nil => rfl
  | cons c rest =>
    obtain ⟨-, -, lower, upper⟩ := ends c rfl
    simp [exponentPart?, lower, upper]

theorem unsigned?_natText (negative : Bool) (n : Nat) {rest : List Char}
    (ends : EndsNumber rest) :
    unsigned? negative (natText n ++ rest) = some (⟨negative, natText n, [], none⟩, rest) := by
  simp [unsigned?, wholePart?_natText n ends, fractionPart?_of_endsNumber ends,
    exponentPart?_of_endsNumber ends]

/-- The text of an integer is read as its numeral. -/
theorem numeral?_intText (i : Int) {rest : List Char} (ends : EndsNumber rest) :
    numeral? (intText i ++ rest) = some (Numeral.ofInt i, rest) := by
  cases i with
  | ofNat n =>
    rw [intText, numeral?.eq_2, unsigned?_natText false n ends, Numeral.ofInt]
    intro after starts
    obtain ⟨d, ds, digits⟩ := List.exists_cons_of_ne_nil (natText_ne_nil n)
    have digit : d.isDigit = true := isDigit_of_mem_natText (n := n) (by simp [digits])
    rw [digits] at starts
    cases starts
    cases digit
  | negSucc n =>
    rw [intText, List.cons_append, numeral?, unsigned?_natText true (n + 1) ends, Numeral.ofInt]

/-! ## The tokens of a value -/

/-- The token of a string. -/
def stringToken (s : String) : Token := .str (s.toList.map escapePiece)

mutual

/-- The tokens of a value. -/
def toTokens : Json → List Token
  | .null => [.null]
  | .bool b => [.bool b]
  | .int i => [.num (Numeral.ofInt i)]
  | .str s => [stringToken s]
  | .arr items => .openArray :: itemTokens items ++ [.closeArray]
  | .obj members => .openObject :: memberTokens members ++ [.closeObject]

/-- The tokens of the items of an array, commas included. -/
def itemTokens : List Json → List Token
  | [] => []
  | [v] => toTokens v
  | v :: next :: rest => toTokens v ++ .comma :: itemTokens (next :: rest)

/-- The tokens of the members of an object, commas included. -/
def memberTokens : List (String × Json) → List Token
  | [] => []
  | [(k, v)] => stringToken k :: .colon :: toTokens v
  | (k, v) :: next :: rest =>
    stringToken k :: .colon :: toTokens v ++ .comma :: memberTokens (next :: rest)

end

/-! ## Cutting texts -/

/-- A token at the start of a text is cut off. -/
theorem tokens_of_token {c : Char} {rest after : List Char} {t : Token}
    (visible : isSpace c = false) (first : token? c rest = some (t, after)) :
    tokens (c :: rest) = t :: tokens after := by
  rw [tokens, visible]
  simp only [Bool.false_eq_true, if_false]
  split
  · rename_i none
    rw [first] at none
    cases none
  · rename_i some
    rw [first] at some
    cases some
    rfl

/-- The characters that are tokens by themselves. -/
theorem tokens_mark {c : Char} {t : Token} (visible : isSpace c = false)
    (mark : ∀ rest, token? c rest = some (t, rest)) (rest : List Char) :
    tokens (c :: rest) = t :: tokens rest :=
  tokens_of_token visible (mark rest)

theorem tokens_openArray (rest : List Char) : tokens ('[' :: rest) = .openArray :: tokens rest :=
  tokens_mark rfl (fun _ => rfl) rest

theorem tokens_closeArray (rest : List Char) : tokens (']' :: rest) = .closeArray :: tokens rest :=
  tokens_mark rfl (fun _ => rfl) rest

theorem tokens_openObject (rest : List Char) :
    tokens ('\x7b' :: rest) = .openObject :: tokens rest :=
  tokens_mark rfl (fun _ => rfl) rest

theorem tokens_closeObject (rest : List Char) :
    tokens ('\x7d' :: rest) = .closeObject :: tokens rest :=
  tokens_mark rfl (fun _ => rfl) rest

theorem tokens_comma (rest : List Char) : tokens (',' :: rest) = .comma :: tokens rest :=
  tokens_mark rfl (fun _ => rfl) rest

theorem tokens_colon (rest : List Char) : tokens (':' :: rest) = .colon :: tokens rest :=
  tokens_mark rfl (fun _ => rfl) rest

theorem tokens_quoted (s : String) (rest : List Char) :
    tokens (quoted s ++ rest) = stringToken s :: tokens rest := by
  rw [quoted, List.append_assoc, List.cons_append, List.singleton_append]
  refine tokens_of_token rfl ?_
  show (stringPieces _).map _ = _
  rw [stringPieces_quoted]
  rfl

/-- A digit or a minus sign starts a number. -/
theorem token?_number {c : Char} (number : c.isDigit = true ∨ c = '-') (rest : List Char) :
    token? c rest = (numeral? (c :: rest)).map fun (n, after) => (.num n, after) := by
  unfold token?
  split
  -- a mark, a quote or a letter starts no number, and what is left is read as one
  all_goals first
    | rfl
    | rcases number with digit | minus
      · cases digit
      · cases minus

theorem tokens_intText (i : Int) {rest : List Char} (ends : EndsNumber rest) :
    tokens (intText i ++ rest) = .num (Numeral.ofInt i) :: tokens rest := by
  have read := numeral?_intText i ends
  obtain ⟨c, cs, text, number⟩ : ∃ c cs, intText i = c :: cs ∧ (c.isDigit = true ∨ c = '-') := by
    cases i with
    | ofNat n =>
      obtain ⟨c, cs, text⟩ := List.exists_cons_of_ne_nil (natText_ne_nil n)
      refine ⟨c, cs, text, .inl (isDigit_of_mem_natText (n := n) ?_)⟩
      rw [text]
      exact List.mem_cons_self
    | negSucc n => exact ⟨'-', natText (n + 1), rfl, .inr rfl⟩
  have visible : isSpace c = false := by
    rcases number with digit | rfl
    · cases space : isSpace c with
      | false => rfl
      | true =>
        simp only [isSpace, Bool.or_eq_true, beq_iff_eq] at space
        rcases space with ((rfl | rfl) | rfl) | rfl <;> cases digit
    · rfl
  rw [text, List.cons_append] at read ⊢
  refine tokens_of_token visible ?_
  rw [token?_number number, read]
  rfl

theorem endsNumber_nil : EndsNumber [] := by
  intro c first
  cases first

theorem endsNumber_cons {c : Char} (rest : List Char)
    (h : c.isDigit = false ∧ c ≠ '.' ∧ c ≠ 'e' ∧ c ≠ 'E') : EndsNumber (c :: rest) := by
  intro d first
  cases first
  exact h

mutual

/-- The compact text of a value is cut into the tokens of the value. -/
theorem tokens_compactChars : ∀ (v : Json) {rest : List Char}, EndsNumber rest →
    tokens (v.compactChars ++ rest) = v.toTokens ++ tokens rest
  | .null, rest, _ => by
    rw [compactChars, nullText, toTokens]
    exact tokens_of_token rfl rfl
  | .bool true, rest, _ => by
    rw [compactChars, boolText, toTokens]
    exact tokens_of_token rfl rfl
  | .bool false, rest, _ => by
    rw [compactChars, boolText, toTokens]
    exact tokens_of_token rfl rfl
  | .int i, rest, ends => by
    rw [compactChars, toTokens]
    exact tokens_intText i ends
  | .str s, rest, _ => by
    rw [compactChars, toTokens]
    exact tokens_quoted s rest
  | .arr items, rest, _ => by
    rw [compactChars, toTokens, List.append_assoc, List.cons_append, tokens_openArray,
      List.singleton_append,
      tokens_compactItems items (endsNumber_cons rest (by decide)), tokens_closeArray]
    simp
  | .obj members, rest, _ => by
    rw [compactChars, toTokens, List.append_assoc, List.cons_append, tokens_openObject,
      List.singleton_append,
      tokens_compactMembers members (endsNumber_cons rest (by decide)), tokens_closeObject]
    simp

theorem tokens_compactItems : ∀ (items : List Json) {rest : List Char}, EndsNumber rest →
    tokens (compactItems items ++ rest) = itemTokens items ++ tokens rest
  | [], rest, _ => by rw [compactItems, itemTokens]; rfl
  | [v], rest, ends => by
    rw [compactItems, itemTokens]
    exact tokens_compactChars v ends
  | v :: next :: more, rest, ends => by
    rw [compactItems, itemTokens, List.append_assoc, List.cons_append,
      tokens_compactChars v (endsNumber_cons _ (by decide)), tokens_comma,
      tokens_compactItems (next :: more) ends]
    simp

theorem tokens_compactMembers : ∀ (members : List (String × Json)) {rest : List Char},
    EndsNumber rest →
    tokens (compactMembers members ++ rest) = memberTokens members ++ tokens rest
  | [], rest, _ => by rw [compactMembers, memberTokens]; rfl
  | [(k, v)], rest, ends => by
    rw [compactMembers, memberTokens, List.append_assoc, tokens_quoted, List.cons_append,
      tokens_colon, tokens_compactChars v ends]
    simp
  | (k, v) :: next :: more, rest, ends => by
    rw [compactMembers, memberTokens, List.append_assoc, List.append_assoc, tokens_quoted,
      List.cons_append, tokens_colon, List.cons_append,
      tokens_compactChars v (endsNumber_cons _ (by decide)), tokens_comma,
      tokens_compactMembers (next :: more) ends]
    simp

end

end Json
end Unreferenced
