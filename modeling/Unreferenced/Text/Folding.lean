/-!
# Letter case

Names compare without regard to the case of the ASCII letters; all other
characters stand for themselves.  The fold goes to upper case, and the order
of two texts is the order of their code points, first difference first.
-/

namespace Unreferenced
namespace Text

/-- The text with its ASCII letters in upper case. -/
def upper (cs : List Char) : List Char :=
  cs.map Char.toUpper

/-- Folding, on strings. -/
def uppercased (s : String) : String :=
  String.ofList (upper s.toList)

/-- Two texts agree position by position up to the case of ASCII letters. -/
def sameFolded : List Char → List Char → Bool
  | [], [] => true
  | x :: xs, y :: ys => x.toUpper == y.toUpper && sameFolded xs ys
  | _, _ => false

/-- The lexicographic order by code point: a text that begins another one
comes first. -/
def compareChars : List Char → List Char → Ordering
  | [], [] => .eq
  | [], _ :: _ => .lt
  | _ :: _, [] => .gt
  | x :: xs, y :: ys => (compare x.toNat y.toNat).then (compareChars xs ys)

end Text
end Unreferenced
