import Unreferenced.Proofs.LetterCase.Names
import Unreferenced.Proofs.Script.RoundTrip

/-!
# Letter case in scripts

The balance of a source depends on quotes and parentheses only, and its statements
and the stretches in its quotes fold with the source (`checkBalanced_upper`,
`statements_upper`, `quoted_upper`).  A stretch and the folded stretch refer to
equal identities, or both to none (`folded_reference?_upper`).  So sources that are
alike both fail, or refer to the same resources (`folded_recover`).
-/

namespace Unreferenced
namespace Script

open Text (upper)

/-! ## Balance -/

theorem scanLine_upper (line : List Char) (inQuote : Bool) (depth : Nat) :
    scanLine (upper line) inQuote depth = scanLine line inQuote depth := by
  have quote := Text.toUpper_eq_iff '"' (by decide)
  have opening := Text.toUpper_eq_iff '(' (by decide)
  have closing := Text.toUpper_eq_iff ')' (by decide)
  fun_induction scanLine line inQuote depth with
  | case1 => rfl
  | case2 => rfl
  | case3 rest inQuote depth ih =>
    rw [Text.upper_cons, (quote '"').mpr rfl, scanLine, ih]
  | case4 rest depth ih =>
    rw [Text.upper_cons, (opening '(').mpr rfl, scanLine, ih]
  | case5 rest =>
    rw [Text.upper_cons, (closing ')').mpr rfl, scanLine]
  | case6 rest depth ih =>
    rw [Text.upper_cons, (closing ')').mpr rfl, scanLine, ih]
  | case7 c rest inQuote depth noQuote noOpening noClose noClosing ih =>
    rw [Text.upper_cons, scanLine, ih]
    · exact fun h => noQuote ((quote c).mp h)
    · exact fun h g => noOpening h ((opening c).mp g)
    · exact fun h z g => noClose h z ((closing c).mp g)
    · exact fun d h z g => noClosing d h z ((closing c).mp g)

theorem scanLines_upper (ls : List (List Char)) (number depth : Nat) :
    scanLines number depth (ls.map upper) = scanLines number depth ls := by
  induction ls generalizing number depth with
  | nil => rfl
  | cons line ls ih =>
    rw [List.map_cons, scanLines, scanLine_upper, scanLines]
    cases scanLine line false depth with
    | ok depth => exact ih (number + 1) depth
    | error fault => rfl

theorem checkBalanced_upper (source : List Char) :
    checkBalanced (upper source) = checkBalanced source := by
  rw [checkBalanced, Text.lines_upper, scanLines_upper, checkBalanced]

/-! ## Statements and stretches -/

theorem statements_upper (cs : List Char) : statements (upper cs) = (statements cs).map upper := by
  have trims : Text.trim ∘ upper = upper ∘ Text.trim := funext Text.trim_upper
  have blank : (fun line => !line.isEmpty) ∘ upper = fun line => !line.isEmpty := by
    funext line
    cases line <;> rfl
  rw [statements, Text.lines_upper, List.map_map, trims, ← List.map_map, List.filter_map, blank,
    statements]

theorem stretches_upper (line : List Char) (read : Option (List Char)) :
    stretches (upper line) (read.map upper) = (stretches line read).map upper := by
  have quote := Text.toUpper_eq_iff '"' (by decide)
  induction line generalizing read with
  | nil => rfl
  | cons c line ih =>
    cases read with
    | none =>
      rw [Text.upper_cons, Option.map_none, stretches, stretches]
      simp only [quote]
      split
      · exact ih (some [])
      · exact ih none
    | some read =>
      rw [Text.upper_cons, Option.map_some, stretches, stretches]
      simp only [quote]
      split
      · rw [List.map_cons, Text.upper_reverse]
        exact congrArg _ (ih none)
      · exact ih (some (c :: read))

theorem quoted_upper (line : List Char) : quoted (upper line) = (quoted line).map upper :=
  stretches_upper line none

/-! ## References -/

theorem isResourceName_upper (cs : List Char) : isResourceName (upper cs) = isResourceName cs := by
  have same : Text.isWord ∘ Char.toUpper = Text.isWord := funext Text.isWord_toUpper
  rw [isResourceName, isResourceName, Text.length_upper, upper, List.all_map, same]

theorem isExtension_upper (cs : List Char) : isExtension (upper cs) = isExtension cs := by
  have same : Char.isAlphanum ∘ Char.toUpper = Char.isAlphanum := funext Text.isAlphanum_toUpper
  rw [isExtension, isExtension, Text.length_upper, upper, List.all_map, same]

theorem ofText_upper (cs : List Char) :
    Kind.ofText (String.ofList (upper cs)) = Kind.ofText (String.ofList cs) :=
  Kind.ofText_congr (Text.alike_upper cs)

theorem folded_reference?_upper (stretch : List Char) :
    (reference? (upper stretch)).map Identity.folded =
      (reference? stretch).map Identity.folded := by
  rw [reference?, Text.splitLast?_upper (by decide), reference?]
  cases Text.splitLast? '.' stretch with
  | none => rfl
  | some pieces =>
    obtain ⟨name, extension⟩ := pieces
    simp only [Option.map_some, Prod.map, isResourceName_upper, isExtension_upper, ofText_upper]
    split
    · exact congrArg some (Identity.folded_ofParts (Text.alike_upper name) _)
    · rfl

/-- Lines and folded lines refer to the same resources. -/
theorem folded_references_upper (ls : List (List Char)) :
    (references (ls.map upper)).members.map Identity.folded =
      (references ls).members.map Identity.folded := by
  have stretches : (ls.map upper).flatMap quoted = (ls.flatMap quoted).map upper := by
    rw [List.flatMap_map, List.map_flatMap]
    exact congrArg ls.flatMap (funext quoted_upper)
  refine IdentitySet.folded_ofList ?_
  rw [stretches, List.filterMap_map, List.map_filterMap, List.map_filterMap]
  exact congrArg (List.filterMap · _) (funext folded_reference?_upper)

/-- A source that is balanced refers to what its statements refer to. -/
theorem recover_eq (source : String) (kind : ScriptKind) :
    recover source kind = ((checkBalanced source.toList).mapError .compile).map fun _ =>
      references (statements source.toList) := by
  cases compiled : compile source kind with
  | ok code =>
    rw [recover_of_compile compiled, (compile_eq_ok_iff.mp compiled).1]
    rfl
  | error e =>
    rw [recover_of_compile_error compiled]
    rw [compile] at compiled
    cases balance : checkBalanced source.toList with
    | ok u =>
      rw [balance] at compiled
      cases compiled
    | error fault =>
      rw [balance] at compiled
      cases compiled
      rfl

/-- Sources that are alike refer to the same resources, or both fail. -/
theorem folded_recover {s t : String} (h : Text.Alike s t) (kind : ScriptKind) :
    (recover s kind).map (·.members.map Identity.folded) =
      (recover t kind).map (·.members.map Identity.folded) := by
  have folded := Text.alike_iff.mp h
  have balance : checkBalanced s.toList = checkBalanced t.toList := by
    rw [← checkBalanced_upper, folded, checkBalanced_upper]
  have code : (statements s.toList).map upper = (statements t.toList).map upper := by
    rw [← statements_upper, folded, statements_upper]
  have found : (references (statements s.toList)).members.map Identity.folded =
      (references (statements t.toList)).members.map Identity.folded := by
    rw [← folded_references_upper, code, folded_references_upper]
  rw [recover_eq, recover_eq, balance]
  cases checkBalanced t.toList with
  | ok u => exact congrArg Except.ok found
  | error fault => rfl

end Script
end Unreferenced
