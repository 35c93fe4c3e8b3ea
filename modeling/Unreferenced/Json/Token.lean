import Unreferenced.Json.Numeral

/-!
# JSON tokens

Cutting a JSON text into tokens.  The tokens of a text end in the token `bad`
if the text breaks the lexical grammar somewhere, so that a reader can use all
that stands before the fault.
-/

namespace Unreferenced
namespace Json

/-- A piece of a string's content: a character that stands for itself or is
written as a short escape, or a UTF-16 code unit written as a number. -/
inductive Piece
  | char (c : Char)
  | unit (code : Nat)
deriving DecidableEq, Repr

/-- The lexical elements of a text. -/
inductive Token
  | openArray
  | closeArray
  | openObject
  | closeObject
  | comma
  | colon
  | null
  | bool (value : Bool)
  | num (numeral : Numeral)
  | str (pieces : List Piece)
  | bad
deriving DecidableEq, Repr

/-! ## Strings -/

/-- The value of a hexadecimal digit in either case. -/
def hexDigit? (c : Char) : Option Nat :=
  if '0' ≤ c ∧ c ≤ '9' then some (c.toNat - '0'.toNat)
  else if 'a' ≤ c ∧ c ≤ 'f' then some (c.toNat - 'a'.toNat + 10)
  else if 'A' ≤ c ∧ c ≤ 'F' then some (c.toNat - 'A'.toNat + 10)
  else none

/-- The number written by four hexadecimal digits. -/
def hexQuad? (a b c d : Char) : Option Nat := do
  let a ← hexDigit? a
  let b ← hexDigit? b
  let c ← hexDigit? c
  let d ← hexDigit? d
  return ((a * 16 + b) * 16 + c) * 16 + d

/-- The character that a backslash and one letter stand for. -/
def shortEscape? (c : Char) : Option Char :=
  match c with
  | '"' => some '"'
  | '\\' => some '\\'
  | '/' => some '/'
  | 'b' => some '\x08'
  | 'f' => some '\x0c'
  | 'n' => some '\n'
  | 'r' => some '\r'
  | 't' => some '\t'
  | _ => none

/-- The pieces of a string up to its closing quote, and the text after it. -/
def stringPieces : List Char → Option (List Piece × List Char)
  | [] => none
  | '"' :: rest => some ([], rest)
  | '\\' :: 'u' :: a :: b :: c :: d :: rest => do
    let code ← hexQuad? a b c d
    let (pieces, after) ← stringPieces rest
    return (.unit code :: pieces, after)
  | '\\' :: e :: rest => do
    let c ← shortEscape? e
    let (pieces, after) ← stringPieces rest
    return (.char c :: pieces, after)
  | c :: rest =>
    if c = '\\' ∨ c.toNat < 0x20 then none
    else do
      let (pieces, after) ← stringPieces rest
      return (.char c :: pieces, after)

/-- The characters that pieces stand for.  Two code units of a surrogate pair
make one character, and a code unit that stands alone makes none. -/
def decodePieces : List Piece → Option (List Char)
  | [] => some []
  | .char c :: rest => (decodePieces rest).map (c :: ·)
  | .unit high :: rest =>
    if high < 0xD800 ∨ 0xE000 ≤ high then (decodePieces rest).map (Char.ofNat high :: ·)
    else if 0xDC00 ≤ high then none
    else
      match rest with
      | .unit low :: rest =>
        if 0xDC00 ≤ low ∧ low < 0xE000 then
          (decodePieces rest).map
            (Char.ofNat (0x10000 + (high - 0xD800) * 0x400 + (low - 0xDC00)) :: ·)
        else none
      | _ => none

/-- The string that pieces stand for. -/
def Piece.decode (pieces : List Piece) : Option String :=
  (decodePieces pieces).map String.ofList

/-! ## Numbers -/

/-- The digits at the start of a text, at least one, and the text after them. -/
def digits? (cs : List Char) : Option (List Char × List Char) :=
  match cs.takeWhile Char.isDigit with
  | [] => none
  | ds => some (ds, cs.dropWhile Char.isDigit)

/-- The whole part: a zero alone, or digits of which the first is not zero. -/
def wholePart? : List Char → Option (List Char × List Char)
  | '0' :: rest => some (['0'], rest)
  | cs => digits? cs

/-- The digits after a point, none if there is no point. -/
def fractionPart? : List Char → Option (List Char × List Char)
  | '.' :: rest => digits? rest
  | cs => some ([], cs)

/-- The exponent, if there is one: whether it is negative, and its digits. -/
def exponentPart? : List Char → Option (Option (Bool × List Char) × List Char)
  | c :: rest =>
    if c = 'e' ∨ c = 'E' then
      match rest with
      | '+' :: rest => (digits? rest).map fun (ds, after) => (some (false, ds), after)
      | '-' :: rest => (digits? rest).map fun (ds, after) => (some (true, ds), after)
      | rest => (digits? rest).map fun (ds, after) => (some (false, ds), after)
    else some (none, c :: rest)
  | [] => some (none, [])

/-- The number at the start of a text without its sign, and the text after it. -/
def unsigned? (negative : Bool) (cs : List Char) : Option (Numeral × List Char) := do
  let (whole, cs) ← wholePart? cs
  let (fraction, cs) ← fractionPart? cs
  let (exponent, cs) ← exponentPart? cs
  return (⟨negative, whole, fraction, exponent⟩, cs)

/-- The number at the start of a text, and the text after it. -/
def numeral? : List Char → Option (Numeral × List Char)
  | '-' :: rest => unsigned? true rest
  | cs => unsigned? false cs

/-! ## Tokens -/

/-- The blanks that may stand between tokens. -/
def isSpace (c : Char) : Bool :=
  c == ' ' || c == '\t' || c == '\n' || c == '\r'

/-- The text after a word that a text starts with. -/
def after? : List Char → List Char → Option (List Char)
  | [], cs => some cs
  | w :: ws, c :: cs => if w = c then after? ws cs else none
  | _ :: _, [] => none

/-- The token that starts with the character `c`, and the text after it. -/
def token? (c : Char) (rest : List Char) : Option (Token × List Char) :=
  match c with
  | '[' => some (.openArray, rest)
  | ']' => some (.closeArray, rest)
  | '\x7b' => some (.openObject, rest)
  | '\x7d' => some (.closeObject, rest)
  | ',' => some (.comma, rest)
  | ':' => some (.colon, rest)
  | 'n' => (after? ['u', 'l', 'l'] rest).map (.null, ·)
  | 't' => (after? ['r', 'u', 'e'] rest).map (.bool true, ·)
  | 'f' => (after? ['a', 'l', 's', 'e'] rest).map (.bool false, ·)
  | '"' => (stringPieces rest).map fun (pieces, after) => (.str pieces, after)
  | c => (numeral? (c :: rest)).map fun (n, after) => (.num n, after)

/-! ## Each token takes up text -/

theorem stringPieces_length {cs after : List Char} {pieces : List Piece}
    (h : stringPieces cs = some (pieces, after)) : after.length < cs.length := by
  induction cs using stringPieces.induct generalizing pieces after with
  | case1 => simp [stringPieces] at h
  | case2 rest => simp only [stringPieces, Option.some.injEq, Prod.mk.injEq] at h; simp [← h.2]
  | case3 a b c d rest ih =>
    simp only [stringPieces, Option.bind_eq_bind, Option.bind_eq_some_iff] at h
    obtain ⟨_, _, ⟨_, _⟩, hr, h⟩ := h
    simp only [Option.pure_def, Option.some.injEq, Prod.mk.injEq] at h
    have := ih hr
    simp only [List.length_cons]; rw [← h.2]; omega
  | case4 e rest _ ih =>
    rw [stringPieces] at h
    · simp only [Option.bind_eq_bind, Option.bind_eq_some_iff] at h
      obtain ⟨_, _, ⟨_, _⟩, hr, h⟩ := h
      simp only [Option.pure_def, Option.some.injEq, Prod.mk.injEq] at h
      have := ih hr
      simp only [List.length_cons]; rw [← h.2]; omega
    · assumption
  | case5 c rest _ _ _ hc => rw [stringPieces] at h <;> simp_all
  | case6 c rest _ _ _ hc ih =>
    rw [stringPieces] at h
    · simp only [hc, if_false, Option.bind_eq_bind, Option.bind_eq_some_iff] at h
      obtain ⟨⟨_, _⟩, hr, h⟩ := h
      simp only [Option.pure_def, Option.some.injEq, Prod.mk.injEq] at h
      have := ih hr
      simp only [List.length_cons]; rw [← h.2]; omega
    all_goals assumption

theorem digits?_length {cs after ds : List Char} (h : digits? cs = some (ds, after)) :
    after.length < cs.length := by
  simp only [digits?] at h
  split at h
  · simp at h
  · rename_i ne
    simp only [Option.some.injEq, Prod.mk.injEq] at h
    have whole := congrArg List.length (List.takeWhile_append_dropWhile (p := Char.isDigit) (l := cs))
    have pos : 0 < (cs.takeWhile Char.isDigit).length := List.length_pos_iff.mpr ne
    rw [List.length_append] at whole
    rw [← h.2]; omega

theorem wholePart?_length {cs after ds : List Char} (h : wholePart? cs = some (ds, after)) :
    after.length < cs.length := by
  unfold wholePart? at h
  split at h
  · simp only [Option.some.injEq, Prod.mk.injEq] at h; simp [← h.2]
  · exact digits?_length h

theorem fractionPart?_length {cs after ds : List Char} (h : fractionPart? cs = some (ds, after)) :
    after.length ≤ cs.length := by
  unfold fractionPart? at h
  split at h
  · have := digits?_length h; simp only [List.length_cons]; omega
  · simp only [Option.some.injEq, Prod.mk.injEq] at h; simp [← h.2]

theorem exponentPart?_length {cs after : List Char} {e : Option (Bool × List Char)}
    (h : exponentPart? cs = some (e, after)) : after.length ≤ cs.length := by
  unfold exponentPart? at h
  split at h
  · rename_i c rest
    split at h
    · split at h
      all_goals
        simp only [Option.map_eq_some_iff, Prod.mk.injEq] at h
        obtain ⟨_, hd, _, rfl⟩ := h
        have := digits?_length hd
        simp only [List.length_cons] at *; omega
    · simp only [Option.some.injEq, Prod.mk.injEq] at h; simp [← h.2]
  · simp only [Option.some.injEq, Prod.mk.injEq] at h; simp [← h.2]

theorem numeral?_length {cs after : List Char} {n : Numeral} (h : numeral? cs = some (n, after)) :
    after.length < cs.length := by
  have signless {negative : Bool} {cs : List Char} (h : unsigned? negative cs = some (n, after)) :
      after.length < cs.length := by
    simp only [unsigned?, Option.bind_eq_bind, Option.bind_eq_some_iff] at h
    obtain ⟨⟨_, _⟩, hw, ⟨_, _⟩, hf, ⟨_, _⟩, he, h⟩ := h
    simp only [Option.pure_def, Option.some.injEq, Prod.mk.injEq] at h
    have := wholePart?_length hw
    have := fractionPart?_length hf
    have := exponentPart?_length he
    dsimp only at *
    rw [← h.2]; omega
  unfold numeral? at h
  split at h
  · have := signless h; simp only [List.length_cons]; omega
  · exact signless h

theorem after?_length {word cs after : List Char} (h : after? word cs = some after) :
    after.length ≤ cs.length := by
  fun_induction after? word cs with
  | case1 cs => simp_all
  | case2 ws c cs ih => have := ih h; simp only [List.length_cons]; omega
  | case3 => simp at h
  | case4 => simp at h

theorem token?_length {c : Char} {rest after : List Char} {t : Token}
    (h : token? c rest = some (t, after)) : after.length ≤ rest.length := by
  have mark {kind : Token} (h : some (kind, rest) = some (t, after)) :
      after.length ≤ rest.length := by
    cases h
    exact Nat.le_refl _
  have word {word : List Char} {kind : Token}
      (h : (after? word rest).map (kind, ·) = some (t, after)) : after.length ≤ rest.length := by
    simp only [Option.map_eq_some_iff, Prod.mk.injEq] at h
    obtain ⟨_, ha, _, rfl⟩ := h
    exact after?_length ha
  have text (h : ((stringPieces rest).map fun (pieces, after) => (Token.str pieces, after)) =
      some (t, after)) : after.length ≤ rest.length := by
    simp only [Option.map_eq_some_iff, Prod.mk.injEq] at h
    obtain ⟨_, ha, _, rfl⟩ := h
    exact Nat.le_of_lt (stringPieces_length ha)
  have number {c : Char} (h : ((numeral? (c :: rest)).map fun (n, after) => (Token.num n, after)) =
      some (t, after)) : after.length ≤ rest.length := by
    simp only [Option.map_eq_some_iff, Prod.mk.injEq] at h
    obtain ⟨_, ha, _, rfl⟩ := h
    exact Nat.le_of_lt_succ (numeral?_length ha)
  unfold token? at h
  split at h
  all_goals first | exact mark h | exact word h | exact text h | exact number h

/-! ## The tokens of a text -/

/-- The tokens of a text, up to the end or to the first lexical fault. -/
def tokens : List Char → List Token
  | [] => []
  | c :: rest =>
    if isSpace c then tokens rest
    else
      match _step : token? c rest with
      | none => [.bad]
      | some (t, after) => t :: tokens after
termination_by cs => cs.length
decreasing_by
  · simp
  · have := token?_length _step
    simp only [List.length_cons]; omega

end Json
end Unreferenced
