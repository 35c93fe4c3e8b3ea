import Unreferenced.Kind
import Unreferenced.Proofs.Text.Folding

/-!
# Kinds and their texts

A kind is *stable* when its own text names it (`Kind.IsStable`).  The text that
names a kind is trimmed before its leading dots are dropped, and not afterwards.
So a kind is stable exactly when its text is trimmed, has no leading dot and is in
upper case (`Kind.isStable_iff`), and of a kind that a text names only the first
of these may fail (`Kind.isStable_ofText_iff`).
-/

namespace Unreferenced
namespace Kind

/-- The trimmed text without the dots in front. -/
def bare (cs : List Char) : List Char :=
  (Text.trim cs).dropWhile (· == '.')

theorem toList_ofText (text : String) :
    (ofText text).text.toList = Text.upper (bare text.toList) :=
  String.toList_ofList

/-- A kind is stable if its text names it. -/
def IsStable (k : Kind) : Prop := ofText k.text = k

instance : DecidablePred IsStable := fun k => inferInstanceAs (Decidable (ofText k.text = k))

/-! ## Bare texts -/

theorem bare_upper (cs : List Char) : bare (Text.upper cs) = Text.upper (bare cs) := by
  rw [bare, Text.trim_upper, Text.dropWhile_upper]
  · rfl
  · intro c
    exact Bool.eq_iff_iff.mpr (by simpa using Text.toUpper_eq_iff '.' (by decide) c)

theorem trim_sublist (cs : List Char) : (Text.trim cs).Sublist cs := by
  obtain ⟨before, after, eq, -, -⟩ := Text.exists_eq_trim cs
  conv => rhs; rw [eq]
  rw [List.append_assoc]
  exact (List.sublist_append_left _ _).trans (List.sublist_append_right _ _)

theorem bare_sublist_trim (cs : List Char) : (bare cs).Sublist (Text.trim cs) :=
  List.dropWhile_sublist _

/-- A text is bare if it is trimmed and begins with no dot. -/
theorem bare_eq_self_iff {cs : List Char} :
    bare cs = cs ↔ Text.Trimmed cs ∧ cs.head? ≠ some '.' := by
  constructor
  · intro h
    have whole : Text.trim cs = cs := by
      refine (trim_sublist cs).eq_of_length_le ?_
      have := (bare_sublist_trim cs).length_le
      rwa [h] at this
    refine ⟨whole ▸ Text.trimmed_trim cs, ?_⟩
    intro dot
    rw [bare, whole] at h
    have := List.head?_dropWhile_not (· == '.') cs
    rw [h, dot] at this
    cases this
  · rintro ⟨trimmed, dot⟩
    rw [bare, Text.trim_eq_self trimmed]
    cases cs with
    | nil => rfl
    | cons c cs =>
      refine List.dropWhile_cons_of_neg ?_
      rintro isDot
      exact dot (congrArg some (eq_of_beq isDot))

theorem bare_of_not_mem {cs : List Char} (h : '.' ∉ cs) : bare cs = Text.trim cs := by
  rw [bare]
  cases trim : Text.trim cs with
  | nil => rfl
  | cons c rest =>
    refine List.dropWhile_cons_of_neg ?_
    intro isDot
    refine h (Text.mem_of_mem_trim ?_)
    rw [trim, eq_of_beq isDot]
    exact List.mem_cons_self

/-- What is left of a text ends with no blank, and begins with no dot. -/
theorem getLast?_bare {cs : List Char} {c : Char} (h : (bare cs).getLast? = some c) :
    Text.isBlank c = false := by
  refine (Text.trimmed_trim cs).2 c ?_
  obtain ⟨dots, eq⟩ : bare cs <:+ Text.trim cs := List.dropWhile_suffix _
  rw [← eq, List.getLast?_append, h]
  rfl

theorem head?_bare_ne_dot (cs : List Char) : (bare cs).head? ≠ some '.' := by
  intro h
  have first := List.head?_dropWhile_not (· == '.') (Text.trim cs)
  rw [show (Text.trim cs).dropWhile (· == '.') = bare cs from rfl, h] at first
  cases first

/-- Of a bare text, only a blank in front can still be dropped. -/
theorem bare_bare_iff {cs : List Char} :
    bare (bare cs) = bare cs ↔ ∀ c, (bare cs).head? = some c → Text.isBlank c = false := by
  rw [bare_eq_self_iff]
  constructor
  · intro h
    exact h.1.1
  · intro h
    exact ⟨⟨h, fun c => getLast?_bare⟩, head?_bare_ne_dot cs⟩

/-! ## Stability -/

/-- A kind is stable if its text is bare and in upper case. -/
theorem isStable_iff {k : Kind} :
    k.IsStable ↔ bare k.text.toList = k.text.toList ∧ Text.upper k.text.toList = k.text.toList := by
  have stable : k.IsStable ↔ Text.upper (bare k.text.toList) = k.text.toList := by
    rw [IsStable, ← toList_ofText, String.toList_inj, text_inj]
  rw [stable]
  constructor
  · intro h
    have same : bare k.text.toList = k.text.toList := by
      refine ((bare_sublist_trim _).trans (trim_sublist _)).eq_of_length_le ?_
      have := Text.length_upper (bare k.text.toList)
      rw [h] at this
      exact Nat.le_of_eq this
    rw [same] at h
    exact ⟨same, h⟩
  · rintro ⟨whole, capital⟩
    rw [whole, capital]

/-- The kind that a text names is stable unless a blank stands right after the
leading dots of the text. -/
theorem isStable_ofText_iff {text : String} :
    (ofText text).IsStable ↔
      ∀ c, (bare text.toList).head? = some c → Text.isBlank c = false := by
  rw [isStable_iff, toList_ofText, Text.upper_upper, bare_upper, ← bare_bare_iff]
  constructor
  · rintro ⟨same, -⟩
    refine (bare_sublist_trim _).trans (trim_sublist _) |>.eq_of_length ?_
    rw [← Text.length_upper, same, Text.length_upper]
  · intro same
    rw [same]
    exact ⟨rfl, rfl⟩

/-- What holds of the names in the fixed lists holds of the known kinds. -/
theorem of_isKnown {P : Kind → Prop} (names : ∀ name ∈ scannableNames ++ checkableNames, P ⟨name⟩)
    {k : Kind} (h : k.isKnown = true) : P k := by
  refine names k.text (List.mem_append.mpr ?_)
  rcases (Bool.or_eq_true ..).mp h with scannable | checkable
  · exact .inl (List.contains_iff_mem.mp scannable)
  · exact .inr (List.contains_iff_mem.mp checkable)

/-- The kinds of the fixed lists are stable. -/
theorem isStable_of_isKnown {k : Kind} (h : k.isKnown = true) : k.IsStable :=
  of_isKnown (by decide) h

end Kind
end Unreferenced
