import Unreferenced.Text.Blank
import Unreferenced.Text.Folding

/-!
# Resource kinds

The kind of a resource is the extension of its file name, such as ITM or CRE.
Two fixed lists say which kinds are inspected for references and which kinds
can be checked for resources that nothing refers to.
-/

namespace Unreferenced

/-- The kind of a resource, named by its file extension. -/
structure Kind where
  text : String
deriving DecidableEq, Repr, Hashable

namespace Kind

theorem text_inj {k k' : Kind} : k.text = k'.text ↔ k = k' := by
  rw [Kind.mk.injEq]

/-- The kind that a text names: blank characters around it are dropped, then
the dots in front, and its ASCII letters are put in upper case. -/
def ofText (text : String) : Kind :=
  ⟨String.ofList (Text.upper ((Text.trim text.toList).dropWhile (· == '.')))⟩

/-! ## The fixed lists -/

/-- The names of the kinds that may carry references to other resources. -/
def scannableNames : List String :=
  ["2DA", "ARE", "BCS", "BS", "CHR", "CHU", "CRE", "DLG", "EFF", "INI", "ITM", "PRO", "SPL",
    "STO", "VEF", "VVC", "WED", "WMP"]

/-- The names of the kinds that can be checked for unused resources. -/
def checkableNames : List String :=
  ["ARE", "BCS", "CRE", "DLG", "EFF", "ITM", "PRO", "SPL", "STO", "TIS", "VEF", "VVC", "WAV",
    "WED"]

/-- The kind of the audio resources named through the string table. -/
def audio : Kind := ofText "WAV"

/-- All kinds that may carry references, in their fixed order. -/
def scannable : List Kind := scannableNames.map ofText

/-- All kinds that can be checked, in their fixed order. -/
def checkable : List Kind := checkableNames.map ofText

/-- Whether this is the audio kind. -/
def isAudio (k : Kind) : Bool := k.text == "WAV"

/-- Whether resources of this kind are inspected for references. -/
def isScannable (k : Kind) : Bool := scannableNames.contains k.text

/-- Whether this kind can be checked for unused resources. -/
def isCheckable (k : Kind) : Bool := checkableNames.contains k.text

/-- Whether this kind is in either list. -/
def isKnown (k : Kind) : Bool := k.isScannable || k.isCheckable

instance : ToString Kind := ⟨Kind.text⟩

end Kind
end Unreferenced
