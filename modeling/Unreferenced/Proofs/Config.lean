import Unreferenced.Config
import Unreferenced.Proofs.Json.Records
import Unreferenced.Proofs.Kind

/-!
# Configurations

A kind is accepted as a target, without leave for any kind, exactly if it can be checked
(`Config.checkTarget_eq_ok_iff`).

A configuration that is written and read back keeps everything but its kinds, which
are made anew from their texts (`Config.ofText_toJson`).  A kind that a text names
need not be named by its own text: a blank between the leading dots and the rest of
the text is kept the first time and dropped the second time.  So a configuration is
read back unchanged exactly if its kinds are stable (`Config.read_back_iff_stable`).
-/

namespace Unreferenced
namespace Config

open Json (Draft Reader Record Member)

/-! ## Targets -/

/-- The kinds that are accepted as targets without leave for any kind. -/
theorem checkTarget_eq_ok_iff {kind : Kind} :
    checkTarget kind false = .ok () ↔ kind.isCheckable = true := by
  unfold checkTarget
  by_cases empty : kind.text.isEmpty = true
  · -- the empty text is no name of a kind that can be checked
    have text : kind.text = "" := String.isEmpty_iff.mp empty
    rw [if_pos empty, Kind.isCheckable, text]
    decide
  · rw [if_neg empty]
    cases kind.isCheckable <;> simp

/-! ## Configurations in JSON -/

/-- The configuration with every kind made anew from its text. -/
def renewed (c : Config) : Config :=
  { c with
    target := Kind.ofText c.target.text
    scannable := c.scannable.map fun k => Kind.ofText k.text }

/-- The counts of the configuration have 64 bits. -/
structure Countable (c : Config) : Prop where
  limit : c.concurrencyLimit < Reader.countBound
  interval : c.progressInterval < Reader.countBound

/-- A written configuration is read back with its kinds made anew. -/
theorem ofText_toJson {c : Config} (h : c.Countable) : ofText c.toJson.compact = .ok c.renewed := by
  have names : (form.members.map Member.name).Nodup := by decide
  rw [ofText, Reader.run_compact]
  refine (Record.read_members names [Draft.ofJson (.str c.target.text),
    Draft.ofJson (.arr (c.scannable.map fun k => .str k.text)),
    Draft.ofJson (.nat c.concurrencyLimit), Draft.ofJson (.nat c.progressInterval),
    Draft.ofJson (.bool c.allowAnyTarget)] rfl).trans ?_
  have scannable :=
    Reader.listOf_map_ofJson fun (k : Kind) (_ : k ∈ c.scannable) => Reader.kind_ofJson k
  rw [form, Record.readItems_must (Reader.kind_ofJson c.target), Record.readItems_may scannable,
    Record.readItems_may (Reader.count_ofJson h.limit),
    Record.readItems_may (Reader.count_ofJson h.interval),
    Record.readItems_may (Reader.bool_ofJson c.allowAnyTarget)]
  rfl

/-- Making the kinds anew changes nothing exactly if they are stable. -/
theorem renewed_eq_self_iff {c : Config} :
    c.renewed = c ↔ c.target.IsStable ∧ ∀ k ∈ c.scannable, k.IsStable := by
  have members : (c.scannable.map fun k => Kind.ofText k.text) = c.scannable ↔
      ∀ k ∈ c.scannable, k.IsStable := by
    conv => lhs; rhs; rw [← List.map_id c.scannable]
    exact List.map_inj_left
  rw [← members]
  constructor
  · intro same
    exact ⟨congrArg Config.target same, congrArg Config.scannable same⟩
  · rintro ⟨target, scannable⟩
    have target : Kind.ofText c.target.text = c.target := target
    rw [renewed, target, scannable]

/-- A kind made from a text is named by its own text exactly if no blank stands
right after the leading dots, and the kinds of the fixed lists always are.  A
configuration that is written and read back has its kinds made anew, and is
unchanged exactly if they are stable. -/
theorem read_back_iff_stable (text : String) (c : Config) (countable : c.Countable) :
    (Kind.ofText (Kind.ofText text).text = Kind.ofText text ↔
      ∀ first, (Kind.bare text.toList).head? = some first → Text.isBlank first = false) ∧
    (∀ k : Kind, k.isKnown = true → Kind.ofText k.text = k) ∧
    ofText c.toJson.compact = .ok c.renewed ∧
    (ofText c.toJson.compact = .ok c ↔ c.target.IsStable ∧ ∀ k ∈ c.scannable, k.IsStable) := by
  have readBack := ofText_toJson countable
  refine ⟨Kind.isStable_ofText_iff, fun _ => Kind.isStable_of_isKnown, readBack, ?_⟩
  rw [readBack, Except.ok.injEq, renewed_eq_self_iff]

theorem read_back_item_target :
    (forTarget (Kind.ofText ".itm")).Countable ∧
      Kind.ofText (Kind.ofText ".itm").text = Kind.ofText ".itm" ∧
        ofText (forTarget (Kind.ofText ".itm")).toJson.compact =
          .ok (forTarget (Kind.ofText ".itm")) := by
  have countable : (forTarget (Kind.ofText ".itm")).Countable := ⟨by decide, by decide⟩
  obtain ⟨-, known, -, readBack⟩ := read_back_iff_stable ".itm" _ countable
  exact ⟨countable, known _ (by decide), readBack.mpr (by decide)⟩

/-- A kind that keeps a blank in front, because a dot stood before the blank, loses
it when its configuration is read back. -/
theorem blank_after_dot_not_read_back :
    Kind.ofText (Kind.ofText ". .itm").text ≠ Kind.ofText ". .itm" ∧
      ofText (forTarget (Kind.ofText ". .itm")).toJson.compact ≠
        .ok (forTarget (Kind.ofText ". .itm")) := by
  refine ⟨by decide, ?_⟩
  rw [ofText_toJson ⟨by decide, by decide⟩]
  intro same
  exact absurd (renewed_eq_self_iff.mp (Except.ok.inj same)).1 (by decide)

end Config
end Unreferenced
