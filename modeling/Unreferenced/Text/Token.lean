import Unreferenced.Text.Word

/-!
# Words of free text

A word of free text has three to eight ASCII letters, digits and underscores.
Words are looked for from the left, each as long as possible, and do not
overlap.
-/

namespace Unreferenced
namespace Text

/-- The length of the shortest word. -/
def minWord : Nat := 3

/-- The length of the longest word. -/
def maxWord : Nat := 8

/-- The longest word, or shorter run of word characters, that a text starts
with. -/
def wordAt (cs : List Char) : List Char :=
  (cs.take maxWord).takeWhile isAsciiWord

/-- The words of a text in order. -/
def words : List Char → List (List Char)
  | [] => []
  | c :: rest =>
    let w := wordAt (c :: rest)
    if minWord ≤ w.length then w :: words (rest.drop (w.length - 1)) else words rest
termination_by cs => cs.length
decreasing_by
  · simp only [List.length_drop, List.length_cons]; omega
  · simp

end Text
end Unreferenced
