/-!
# Blank characters and trimming

A character is *blank* when it has the Unicode property White_Space.  Every
text that enters the library as a name, a kind or a script line is trimmed of
blank characters on both sides; nothing inside the text is touched.
-/

namespace Unreferenced
namespace Text

/-! ## The property -/

/-- The characters with the Unicode property White_Space. -/
def isBlank (c : Char) : Bool :=
  let n := c.toNat
  (9 ≤ n && n ≤ 13) || n == 0x20 || n == 0x85 || n == 0xA0 || n == 0x1680 ||
    (0x2000 ≤ n && n ≤ 0x200A) || n == 0x2028 || n == 0x2029 || n == 0x202F ||
    n == 0x205F || n == 0x3000

/-! ## Trimming -/

/-- A text without its leading blank characters. -/
def trimStart (cs : List Char) : List Char :=
  cs.dropWhile isBlank

/-- A text without its trailing blank characters. -/
def trimEnd (cs : List Char) : List Char :=
  (cs.reverse.dropWhile isBlank).reverse

/-- A text without its leading and trailing blank characters. -/
def trim (cs : List Char) : List Char :=
  trimEnd (trimStart cs)

/-- Trimming, on strings. -/
def trimmed (s : String) : String :=
  String.ofList (trim s.toList)

end Text
end Unreferenced
