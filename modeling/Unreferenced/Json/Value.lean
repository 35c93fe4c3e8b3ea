/-!
# JSON values and their text

A value, its compact text and its indented text.  Strings escape the quote, the
backslash and the control characters below U+0020; every other character stands
for itself.
-/

namespace Unreferenced

/-- A JSON value whose numbers are integers; members keep their order. -/
inductive Json
  | null
  | bool (value : Bool)
  | int (value : Int)
  | str (text : String)
  | arr (items : List Json)
  | obj (members : List (String × Json))

namespace Json

/-! ## Strings and numbers -/

/-- The last two hexadecimal digits of a control character's escape. -/
def hexPair (n : Nat) : List Char :=
  [Nat.digitChar (n / 16), Nat.digitChar (n % 16)]

/-- The written form of one character inside quotes. -/
def escapeChar (c : Char) : List Char :=
  if c = '"' then ['\\', '"']
  else if c = '\\' then ['\\', '\\']
  else if 0x20 ≤ c.toNat then [c]
  else if c = '\x08' then ['\\', 'b']
  else if c = '\t' then ['\\', 't']
  else if c = '\n' then ['\\', 'n']
  else if c = '\x0c' then ['\\', 'f']
  else if c = '\r' then ['\\', 'r']
  else ['\\', 'u', '0', '0'] ++ hexPair c.toNat

/-- A string in quotes. -/
def quoted (s : String) : List Char :=
  '"' :: s.toList.flatMap escapeChar ++ ['"']

/-- The decimal digits of a natural number. -/
def natText (n : Nat) : List Char := Nat.toDigits 10 n

/-- An integer in decimal. -/
def intText : Int → List Char
  | .ofNat n => natText n
  | .negSucc n => '-' :: natText (n + 1)

/-- The text of a truth value. -/
def boolText : Bool → List Char
  | true => ['t', 'r', 'u', 'e']
  | false => ['f', 'a', 'l', 's', 'e']

/-- The text of the null value. -/
def nullText : List Char := ['n', 'u', 'l', 'l']

/-! ## Compact text -/

mutual

/-- The text without blanks. -/
def compactChars : Json → List Char
  | .null => nullText
  | .bool b => boolText b
  | .int n => intText n
  | .str s => quoted s
  | .arr items => '[' :: compactItems items ++ [']']
  | .obj members => '\x7b' :: compactMembers members ++ ['\x7d']

/-- The items of an array, with commas between them. -/
def compactItems : List Json → List Char
  | [] => []
  | [v] => compactChars v
  | v :: next :: rest => compactChars v ++ ',' :: compactItems (next :: rest)

/-- The members of an object, with commas between them. -/
def compactMembers : List (String × Json) → List Char
  | [] => []
  | [(k, v)] => quoted k ++ ':' :: compactChars v
  | (k, v) :: next :: rest =>
    quoted k ++ ':' :: compactChars v ++ ',' :: compactMembers (next :: rest)

end

/-- The text of a value without blanks. -/
def compact (v : Json) : String := String.ofList v.compactChars

/-! ## Indented text -/

/-- A line break followed by two blanks for each level. -/
def lineBreak (level : Nat) : List Char :=
  '\n' :: List.replicate (2 * level) ' '

mutual

/-- The text with one item or member on a line, inside the given level.  An
array or object without content stays on one line. -/
def prettyChars (level : Nat) : Json → List Char
  | .null => nullText
  | .bool b => boolText b
  | .int n => intText n
  | .str s => quoted s
  | .arr [] => ['[', ']']
  | .arr (v :: rest) => '[' :: prettyItems level (v :: rest) ++ lineBreak level ++ [']']
  | .obj [] => ['\x7b', '\x7d']
  | .obj (m :: rest) => '\x7b' :: prettyMembers level (m :: rest) ++ lineBreak level ++ ['\x7d']

/-- The items of an array, each on a line of its own one level deeper. -/
def prettyItems (level : Nat) : List Json → List Char
  | [] => []
  | [v] => lineBreak (level + 1) ++ prettyChars (level + 1) v
  | v :: next :: rest =>
    lineBreak (level + 1) ++ prettyChars (level + 1) v ++ ',' :: prettyItems level (next :: rest)

/-- The members of an object, each on a line of its own one level deeper. -/
def prettyMembers (level : Nat) : List (String × Json) → List Char
  | [] => []
  | [(k, v)] => lineBreak (level + 1) ++ quoted k ++ ':' :: ' ' :: prettyChars (level + 1) v
  | (k, v) :: next :: rest =>
    lineBreak (level + 1) ++ quoted k ++ ':' :: ' ' :: prettyChars (level + 1) v ++
      ',' :: prettyMembers level (next :: rest)

end

/-- The text of a value with an indentation of two blanks a level. -/
def pretty (v : Json) : String := String.ofList (v.prettyChars 0)

/-! ## Small values -/

/-- A natural number as a value. -/
def nat (n : Nat) : Json := .int n

/-- A string or the null value. -/
def optStr : Option String → Json
  | some s => .str s
  | none => .null

end Json
end Unreferenced
