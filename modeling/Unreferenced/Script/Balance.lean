import Unreferenced.Script.Error
import Unreferenced.Text.Pieces

/-!
# Balanced sources

A source is balanced when no line ends inside a quote and the parentheses
outside quotes match across all lines.
-/

namespace Unreferenced
namespace Script

/-- What is wrong with one line. -/
inductive LineFault
  | unexpectedClose
  | unterminated
deriving DecidableEq, Repr

namespace LineFault

/-- The fault of the source, when this is wrong with the line of this number. -/
def atLine (line : Nat) : LineFault → CompileFault
  | unexpectedClose => .unexpectedClose line
  | unterminated => .unterminated line

end LineFault

/-- The number of parentheses that are open after a line, when `depth` are open
and a quote is open or not before it. -/
def scanLine : List Char → Bool → Nat → Except LineFault Nat
  | [], true, _ => .error .unterminated
  | [], false, depth => .ok depth
  | '"' :: rest, inQuote, depth => scanLine rest (!inQuote) depth
  | '(' :: rest, false, depth => scanLine rest false (depth + 1)
  | ')' :: _, false, 0 => .error .unexpectedClose
  | ')' :: rest, false, depth + 1 => scanLine rest false depth
  | _ :: rest, inQuote, depth => scanLine rest inQuote depth

/-- Checks lines of which the first has this number, with `depth` parentheses
open before it. -/
def scanLines : Nat → Nat → List (List Char) → Except CompileFault Unit
  | _, 0, [] => .ok ()
  | _, _ + 1, [] => .error .unclosed
  | number, depth, line :: rest =>
    match scanLine line false depth with
    | .ok depth => scanLines (number + 1) depth rest
    | .error fault => .error (fault.atLine number)

/-- Checks that a source is balanced. -/
def checkBalanced (source : List Char) : Except CompileFault Unit :=
  scanLines 1 0 (Text.lines source)

end Script
end Unreferenced
