/-!
# Cutting texts into pieces

Lines, the last occurrence of a separator, and joining pieces again.
-/

namespace Unreferenced
namespace Text

/-- The lines of a text.  A line ends at a line feed, together with one
carriage return right before it; the last line need not be ended. -/
def lines : List Char → List (List Char)
  | [] => []
  | '\n' :: rest => [] :: lines rest
  | '\r' :: '\n' :: rest => [] :: lines rest
  | c :: rest =>
    match lines rest with
    | [] => [[c]]
    | line :: others => (c :: line) :: others

/-- The text before and the text after the last occurrence of a separator. -/
def splitLast? (sep : Char) : List Char → Option (List Char × List Char)
  | [] => none
  | c :: rest =>
    match splitLast? sep rest with
    | some (before, after) => some (c :: before, after)
    | none => if c = sep then some ([], rest) else none

/-- The pieces in turn, each followed by a line feed. -/
def endLines : List (List Char) → List Char
  | [] => []
  | line :: others => line ++ '\n' :: endLines others

/-- The pieces in turn, with a line feed between neighbours. -/
def joinLines : List (List Char) → List Char
  | [] => []
  | [line] => line
  | line :: others => line ++ '\n' :: joinLines others

end Text
end Unreferenced
