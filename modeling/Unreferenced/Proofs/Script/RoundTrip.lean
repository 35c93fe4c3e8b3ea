import Unreferenced.Proofs.Text.Lines
import Unreferenced.Script.Code

/-!
# Compiling and decompiling

Compiling forgets the layout of a source and nothing else.  A line of compiled
code is a *statement*: not empty, trimmed and without a line feed, so the code
splits into its lines again (`statements_endLines`, `statements_joinLines`).
The header stands first and the end marker last, whatever stands between them.

A source and its statements are balanced together (`checkBalanced_statements`):
blank characters open and close nothing, and no quote is open where a line
begins or ends.  So what decompiling gives back compiles to the same code.
-/

namespace Unreferenced
namespace Script

/-! ## Statements -/

/-- The text can be a line of compiled code. -/
def IsStatement (line : List Char) : Prop :=
  line ≠ [] ∧ Text.Trimmed line ∧ '\n' ∉ line

theorem IsStatement.isLine {line : List Char} (h : IsStatement line) : Text.IsLine line := by
  refine ⟨h.2.2, ?_⟩
  intro ret
  exact absurd (h.2.1.2 '\r' ret) (by decide)

theorem isStatement_of_mem {cs line : List Char} (h : line ∈ statements cs) :
    IsStatement line := by
  rw [statements, List.mem_filter, List.mem_map] at h
  obtain ⟨⟨whole, hw, rfl⟩, ne⟩ := h
  refine ⟨by simpa using ne, Text.trimmed_trim whole, ?_⟩
  intro feed
  exact Text.newline_not_mem_lines cs whole hw (Text.mem_of_mem_trim feed)

theorem isStatement_marker : IsStatement marker := by
  refine ⟨by decide, ⟨?_, ?_⟩, by decide⟩
  · rintro c ⟨⟩
    decide
  · rintro c ⟨⟩
    decide

theorem header_eq (kind : ScriptKind) : header kind = 'S' :: 'C' :: ' ' :: kind.word.toList := rfl

theorem isStatement_header (kind : ScriptKind) : IsStatement (header kind) := by
  cases kind
  all_goals
    refine ⟨by simp [header_eq], ⟨?_, ?_⟩, by simp [header_eq, ScriptKind.word]⟩
    · rintro c ⟨⟩
      decide
    · intro c h
      simp only [header_eq, ScriptKind.word] at h
      cases h
      decide

/-- Script kinds have different headers. -/
theorem header_injective {kind other : ScriptKind} (h : header kind = header other) :
    kind = other := by
  rw [header_eq, header_eq] at h
  cases kind <;> cases other <;> simp_all [ScriptKind.word]

/-- Statements that stand on lines of their own are the statements of the text. -/
theorem statements_eq_of_lines {cs : List Char} {ls : List (List Char)} (split : Text.lines cs = ls)
    (h : ∀ l ∈ ls, IsStatement l) : statements cs = ls := by
  have same : ls.map Text.trim = ls := by
    refine (List.map_congr_left ?_).trans (List.map_id ls)
    intro l hl
    exact Text.trim_eq_self (h l hl).2.1
  rw [statements, split, same]
  refine List.filter_eq_self.mpr ?_
  intro l hl
  simpa using (h l hl).1

theorem statements_endLines {ls : List (List Char)} (h : ∀ l ∈ ls, IsStatement l) :
    statements (Text.endLines ls) = ls :=
  statements_eq_of_lines (Text.lines_endLines fun l hl => (h l hl).isLine) h

theorem statements_joinLines {ls : List (List Char)} (h : ∀ l ∈ ls, IsStatement l) :
    statements (Text.joinLines ls) = ls :=
  statements_eq_of_lines (Text.lines_joinLines fun l hl => ⟨(h l hl).isLine, (h l hl).1⟩) h

/-! ## Balance does not depend on layout -/

/-- A blank character opens and closes nothing. -/
theorem scanLine_cons_blank {c : Char} (h : Text.isBlank c = true) (rest : List Char)
    (inQuote : Bool) (depth : Nat) : scanLine (c :: rest) inQuote depth = scanLine rest inQuote depth := by
  have quote : c ≠ '"' := by rintro rfl; exact absurd h (by decide)
  have opening : c ≠ '(' := by rintro rfl; exact absurd h (by decide)
  have closing : c ≠ ')' := by rintro rfl; exact absurd h (by decide)
  rw [scanLine] <;> simp [quote, opening, closing]

theorem scanLine_blank_append {before : List Char} (h : ∀ c ∈ before, Text.isBlank c = true)
    (line : List Char) (inQuote : Bool) (depth : Nat) :
    scanLine (before ++ line) inQuote depth = scanLine line inQuote depth := by
  induction before with
  | nil => rfl
  | cons c before ih =>
    rw [List.cons_append, scanLine_cons_blank (h c (by simp)),
      ih fun d hd => h d (by simp [hd])]

theorem scanLine_append_blank {after : List Char} (h : ∀ c ∈ after, Text.isBlank c = true)
    (line : List Char) (inQuote : Bool) (depth : Nat) :
    scanLine (line ++ after) inQuote depth = scanLine line inQuote depth := by
  have ended (q : Bool) (d : Nat) : scanLine after q d = scanLine [] q d := by
    rw [← List.append_nil after, scanLine_blank_append h]
  fun_induction scanLine line inQuote depth with
  | case1 depth => rw [List.nil_append, ended, scanLine]
  | case2 depth => rw [List.nil_append, ended, scanLine]
  | case3 inQuote depth rest ih => rw [List.cons_append, scanLine, ih]
  | case4 depth rest ih => rw [List.cons_append, scanLine, ih]
  | case5 rest => rw [List.cons_append, scanLine]
  | case6 rest depth ih => rw [List.cons_append, scanLine, ih]
  | case7 inQuote depth c rest quote opening closing closing' ih =>
    rw [List.cons_append, scanLine, ih] <;> assumption

/-- Trimming a line changes nothing about its quotes and parentheses. -/
theorem scanLine_trim (line : List Char) (depth : Nat) :
    scanLine (Text.trim line) false depth = scanLine line false depth := by
  obtain ⟨before, after, eq, hb, ha⟩ := Text.exists_eq_trim line
  conv => rhs; rw [eq]
  rw [scanLine_append_blank ha, scanLine_blank_append hb]

/-- Lines are balanced if and only if those that are not blank are, once
trimmed; the numbers of the lines play no part. -/
theorem scanLines_statements (ls : List (List Char)) (number other depth : Nat) :
    scanLines number depth ((ls.map Text.trim).filter fun line => !line.isEmpty) = .ok () ↔
      scanLines other depth ls = .ok () := by
  induction ls generalizing number other depth with
  | nil => cases depth <;> simp [scanLines]
  | cons line ls ih =>
    rw [List.map_cons, scanLines, ← scanLine_trim line depth]
    by_cases blank : Text.trim line = []
    · rw [List.filter_cons_of_neg (by simp [blank]), blank, scanLine]
      exact ih number (other + 1) depth
    · rw [List.filter_cons_of_pos (by simpa using blank), scanLines]
      cases scanLine (Text.trim line) false depth with
      | error fault => simp
      | ok depth' => exact ih (number + 1) (other + 1) depth'

/-- A source is balanced if and only if its statements are. -/
theorem checkBalanced_statements (source : List Char) :
    checkBalanced (Text.joinLines (statements source)) = .ok () ↔
      checkBalanced source = .ok () := by
  rw [checkBalanced, checkBalanced, Text.lines_joinLines, statements, scanLines_statements]
  intro l hl
  have statement := isStatement_of_mem hl
  exact ⟨statement.isLine, statement.1⟩

/-! ## What compiled code looks like -/

theorem compile_eq_ok_iff {source code : String} {kind : ScriptKind} :
    compile source kind = .ok code ↔ checkBalanced source.toList = .ok () ∧
      code = String.ofList
        (Text.endLines (header kind :: (statements source.toList ++ [marker]))) := by
  rw [compile]
  cases checkBalanced source.toList with
  | error fault => simp
  | ok _ => simp [eq_comm]

/-- The lines of compiled code are the header, the statements of the source and
the end marker. -/
theorem statements_of_compile {source code : String} {kind : ScriptKind}
    (h : compile source kind = .ok code) :
    statements code.toList = header kind :: (statements source.toList ++ [marker]) := by
  rw [(compile_eq_ok_iff.mp h).2, String.toList_ofList]
  refine statements_endLines ?_
  intro l hl
  rcases List.mem_cons.mp hl with rfl | hl
  · exact isStatement_header kind
  · rcases List.mem_append.mp hl with hl | hl
    · exact isStatement_of_mem hl
    · rw [List.mem_singleton.mp hl]
      exact isStatement_marker

/-- Code decompiles exactly when its first line is the header, and its last line,
another one, is the end marker. -/
theorem decompile_eq_ok_iff {code : String} {kind : ScriptKind} {d : Decompiled} :
    decompile code kind = .ok d ↔ ∃ body,
      statements code.toList = header kind :: (body ++ [marker]) ∧
        d = ⟨String.ofList (Text.joinLines body), references body⟩ := by
  rw [decompile]
  cases statements code.toList with
  | nil => simp
  | cons first rest =>
    by_cases hf : first = header kind
    · by_cases hl : rest.getLast? = some marker
      · obtain ⟨body, rfl⟩ := List.getLast?_eq_some_iff.mp hl
        simp [hf, eq_comm]
      · have ends (body : List (List Char)) : rest ≠ body ++ [marker] := by
          rintro rfl
          exact hl List.getLast?_concat
        simp [hf, hl, ends]
    · simp [hf]

/-- Compiled code has the header of its own kind only. -/
theorem decompile_of_compile_other {source code : String} {kind other : ScriptKind}
    (h : compile source kind = .ok code) (different : other ≠ kind) :
    ∃ fault, decompile code other = .error (.decompile fault) := by
  have wrong : header kind ≠ header other := fun same => different (header_injective same).symm
  rw [decompile, statements_of_compile h]
  exact ⟨_, if_neg wrong⟩

/-- Decompiling compiled code succeeds and finds the statements of the source. -/
theorem decompile_of_compile {source code : String} {kind : ScriptKind}
    (h : compile source kind = .ok code) :
    decompile code kind = .ok ⟨String.ofList (Text.joinLines (statements source.toList)),
      references (statements source.toList)⟩ :=
  decompile_eq_ok_iff.mpr ⟨_, statements_of_compile h, rfl⟩

/-- Joined statements that are balanced compile to code with these statements. -/
theorem compile_joinLines {body : List (List Char)} (h : ∀ l ∈ body, IsStatement l)
    (kind : ScriptKind) (balanced : checkBalanced (Text.joinLines body) = .ok ()) :
    compile (String.ofList (Text.joinLines body)) kind =
      .ok (String.ofList (Text.endLines (header kind :: (body ++ [marker])))) := by
  rw [compile_eq_ok_iff, String.toList_ofList, statements_joinLines h]
  exact ⟨balanced, rfl⟩

/-- What a source refers to is what its statements refer to, if it compiles. -/
theorem recover_of_compile {source code : String} {kind : ScriptKind}
    (h : compile source kind = .ok code) :
    recover source kind = .ok (references (statements source.toList)) := by
  show (compile source kind >>= fun code => decompile code kind >>= fun d => pure d.references) = _
  rw [h]
  show (decompile code kind >>= fun d => pure d.references) = _
  rw [decompile_of_compile h]
  rfl

/-- A source fails to go through the tool chain only if it does not compile. -/
theorem recover_of_compile_error {source : String} {kind : ScriptKind} {e : ScriptError}
    (h : compile source kind = .error e) : recover source kind = .error e := by
  show (compile source kind >>= fun code => decompile code kind >>= fun d => pure d.references) = _
  rw [h]
  rfl

/-! ## The round trip -/

/-- **Compiling and decompiling are inverse up to layout.**  Compiled code
decompiles, under its own kind only, to the lines of the source that are not
blank, each trimmed, and these compile to the same code again; so no source gets
stuck between the two.  And whatever code decompiles, compiling its source and
decompiling once more gives the same source and the same references. -/
theorem compile_decompile_inverse (source : String) (kind : ScriptKind) :
    (∀ code, compile source kind = .ok code →
      (∃ d, decompile code kind = .ok d ∧
        d.source = String.ofList (Text.joinLines
          (((Text.lines source.toList).map Text.trim).filter fun line => !line.isEmpty)) ∧
        compile d.source kind = .ok code) ∧
      ∀ other, other ≠ kind → ∃ fault, decompile code other = .error (.decompile fault)) ∧
    (∀ fault, recover source kind ≠ .error (.decompile fault)) ∧
    ∀ code d code', decompile code kind = .ok d → compile d.source kind = .ok code' →
      ∃ d', decompile code' kind = .ok d' ∧ d'.source = d.source ∧
        d'.references = d.references := by
  refine ⟨?_, ?_, ?_⟩
  · intro code compiled
    refine ⟨⟨_, decompile_of_compile compiled, rfl, ?_⟩, ?_⟩
    · obtain ⟨balanced, rfl⟩ := compile_eq_ok_iff.mp compiled
      exact compile_joinLines (fun l => isStatement_of_mem) kind
        ((checkBalanced_statements source.toList).mpr balanced)
    · intro other different
      exact decompile_of_compile_other compiled different
  · intro fault recovered
    cases compiled : compile source kind with
    | ok code =>
      rw [recover_of_compile compiled] at recovered
      cases recovered
    | error e =>
      rw [recover_of_compile_error compiled] at recovered
      cases recovered
      rw [compile] at compiled
      split at compiled <;> cases compiled
  · intro code d code' decompiled compiled
    obtain ⟨body, split, rfl⟩ := decompile_eq_ok_iff.mp decompiled
    have member (l : List Char) (hl : l ∈ body) : IsStatement l := by
      have inside : l ∈ statements code.toList := by
        rw [split]
        simp [hl]
      exact isStatement_of_mem inside
    have same := decompile_of_compile compiled
    rw [String.toList_ofList, statements_joinLines member] at same
    exact ⟨_, same, rfl, rfl⟩

/-- The round trip of a source with carriage returns, a blank line, and lines
that look like a header and like an end marker. -/
theorem compile_decompile_inverse_markers :
    compile " a(\"x.itm\")\r\n\n SC script\n\tSC" .script =
      .ok "SC script\na(\"x.itm\")\nSC script\nSC\nSC\n" ∧
    ∃ d, decompile "SC script\na(\"x.itm\")\nSC script\nSC\nSC\n" .script = .ok d ∧
      compile d.source .script = .ok "SC script\na(\"x.itm\")\nSC script\nSC\nSC\n" := by
  have compiled : compile " a(\"x.itm\")\r\n\n SC script\n\tSC" .script =
      .ok "SC script\na(\"x.itm\")\nSC script\nSC\nSC\n" := rfl
  obtain ⟨⟨d, decompiled, -, again⟩, -⟩ := (compile_decompile_inverse _ .script).1 _ compiled
  exact ⟨compiled, d, decompiled, again⟩

end Script
end Unreferenced
