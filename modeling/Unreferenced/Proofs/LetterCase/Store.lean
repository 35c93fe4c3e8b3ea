import Unreferenced.Proofs.LetterCase.Extraction
import Unreferenced.Proofs.Store

/-!
# Letter case in stores

Stores, string tables and corpora are *alike* when they have the same structure and
their parts are alike, position by position.  Alike operations keep stores and
tables alike (`Store.Alike.put`, `StringTable.Alike.setAudio`), so alike corpora
give alike stores and tables (`Corpus.Alike.store`, `Corpus.Alike.stringTable`).
Alike stores list equal identities and load alike contents for equal identities
(`Store.Alike.folded_listing`, `Store.Alike.load`).
-/

namespace Unreferenced

/-! ## Stores and tables that differ in letter case -/

/-- The payloads are alike contents, or the same fault. -/
inductive Payload.Alike : Payload → Payload → Prop
  | content {c c' : Content} (h : Content.Alike c c') : Alike (.content c) (.content c')
  | corrupt (reason : String) : Alike (.corrupt reason) (.corrupt reason)
  | missing : Alike .missing .missing

/-- The resources have one label and differ in letter case. -/
structure StoredResource.Alike (r s : StoredResource) : Prop where
  identity : Identity.Alike r.identity s.identity
  payload : Payload.Alike r.payload s.payload
  label? : r.label? = s.label?

/-- The stores hold resources that differ in letter case, in the same order. -/
structure Store.Alike (s t : Store) : Prop where
  resources : List.Forall₂ StoredResource.Alike s.resources t.resources
  unavailable? : s.unavailable? = t.unavailable?

/-- The tables have the same indices and audio names that differ in letter case. -/
def StringTable.Alike (t u : StringTable) : Prop :=
  List.Forall₂ (fun e f => e.1 = f.1 ∧ Text.Alike e.2 f.2) t.entries u.entries

/-- The entries have one index and audio names that differ in letter case, or none. -/
structure CorpusString.Alike (s t : CorpusString) : Prop where
  index : s.index = t.index
  audio? : Option.Rel Text.Alike s.audio? t.audio?

/-- The resources have one label, the same fault if there is one, and differ in
letter case. -/
structure CorpusResource.Alike (r s : CorpusResource) : Prop where
  identity : Identity.Alike r.identity s.identity
  label? : r.label? = s.label?
  content? : Option.Rel Content.Alike r.content? s.content?
  corrupt? : r.corrupt? = s.corrupt?

/-- The corpora have the same structure and differ in letter case. -/
structure Corpus.Alike (c d : Corpus) : Prop where
  strings : List.Forall₂ CorpusString.Alike c.strings d.strings
  resources : List.Forall₂ CorpusResource.Alike c.resources d.resources

/-! ## String tables -/

namespace StringTable

variable {t u : StringTable}

theorem Alike.empty : Alike StringTable.empty StringTable.empty := .nil

theorem Alike.setAudio (h : t.Alike u) (index : Int32) {name name' : String}
    (names : Text.Alike name name') : (t.setAudio index name).Alike (u.setAudio index name') := by
  have keeps : ∀ e f : Int32 × String, e.1 = f.1 ∧ Text.Alike e.2 f.2 →
      ((e.1 != index) = true ↔ (f.1 != index) = true) := by
    rintro e f ⟨same, -⟩
    rw [same]
  exact .cons ⟨rfl, names⟩ (List.rel_filter keeps h)

theorem Alike.lookup (h : t.Alike u) (index : Int32) :
    Option.Rel Text.Alike (t.entries.lookup index) (u.entries.lookup index) := by
  unfold StringTable.Alike at h
  generalize t.entries = l, u.entries = l' at h ⊢
  induction h with
  | nil => exact .none
  | @cons e f l l' first rest ih =>
    rw [List.lookup_cons, List.lookup_cons, first.1]
    cases index == f.1 with
    | true => exact .some first.2
    | false => exact ih

/-- Alike tables answer with names that differ in letter case. -/
theorem Alike.lookups (h : t.Alike u) : LookupsAlike t.audio? u.audio? := by
  intro index
  have found := h.lookup index
  rw [audio?, audio?]
  generalize t.entries.lookup index = x, u.entries.lookup index = y at found ⊢
  cases found with
  | none => exact .none
  | @some name name' names =>
    show Option.Rel Text.Alike (if (Text.trimmed name).isEmpty then none else _)
      (if (Text.trimmed name').isEmpty then none else _)
    rw [names.trimmed.isEmpty]
    split
    · exact .none
    · exact .some names.trimmed

end StringTable

/-! ## Stores -/

namespace Store

variable {s t : Store}

theorem Alike.empty : Alike Store.empty Store.empty := ⟨.nil, rfl⟩

/-- Putting in alike resources keeps stores alike. -/
theorem Alike.put (h : s.Alike t) {i j : Identity} (identities : i.Alike j) {p q : Payload}
    (payloads : p.Alike q) (label? : Option String) :
    (s.put i p label?).Alike (t.put j q label?) := by
  have agree (r r' : StoredResource) (alike : r.Alike r') :
      (r.identity == i) = (r'.identity == j) :=
    Identity.beq_congr alike.identity.folded identities.folded
  have present : (s.resources.any fun r => r.identity == i) =
      t.resources.any fun r => r.identity == j := by
    have answers := congrArg (List.any · id) (map_eq_of_forall₂ h.resources agree)
    rwa [List.any_map, List.any_map] at answers
  unfold Store.put
  split
  · next there =>
    rw [present] at there
    rw [dif_pos there]
    refine ⟨?_, h.unavailable?⟩
    rw [List.forall₂_map_left_iff, List.forall₂_map_right_iff]
    refine h.resources.imp ?_
    intro r r' alike
    rw [agree r r' alike]
    split
    · exact ⟨alike.identity, payloads, rfl⟩
    · exact alike
  · next new =>
    rw [present] at new
    rw [dif_neg new]
    exact ⟨List.rel_append h.resources (.cons ⟨identities, payloads, rfl⟩ .nil), h.unavailable?⟩

/-- Alike stores list equal identities. -/
theorem Alike.folded_listing (h : s.Alike t) (kind : Kind) :
    (s.listing kind).map Identity.folded = (t.listing kind).map Identity.folded := by
  have identities := map_eq_of_forall₂ h.resources fun _ _ alike => alike.identity.folded
  rw [listing, listing, Identity.map_folded_filter, Identity.map_folded_filter, List.map_map,
    List.map_map]
  exact congrArg (List.filter _) identities

/-- For equal identities alike stores load alike contents, or both none. -/
theorem Alike.load (h : s.Alike t) {i j : Identity} (identities : i.folded = j.folded) :
    Option.Rel Content.Alike (s.load i).toOption (t.load j).toOption := by
  have found := find?_of_forall₂ h.resources fun r r' alike =>
    Identity.beq_congr alike.identity.folded identities
  rw [Store.load, Store.load, find?, find?]
  generalize s.resources.find? _ = x, t.resources.find? _ = y at found ⊢
  cases found with
  | none => exact .none
  | @some r r' alike =>
    have payloads := alike.payload
    dsimp only
    generalize r.payload = p, r'.payload = q at payloads ⊢
    cases payloads with
    | content contents => exact .some contents
    | corrupt reason => exact .none
    | missing => exact .none

end Store

/-! ## Corpora -/

theorem CorpusResource.Alike.payload {r r' : CorpusResource} (h : r.Alike r') :
    r.payload.Alike r'.payload := by
  have contents := h.content?
  rw [CorpusResource.payload, CorpusResource.payload, h.corrupt?]
  generalize r.content? = x, r'.content? = y at contents ⊢
  cases r'.corrupt? with
  | some reason => exact .corrupt reason
  | none =>
    cases contents with
    | none => exact .missing
    | some alike => exact .content alike

namespace Corpus

variable {c d : Corpus}

/-- Alike corpora give alike stores. -/
theorem Alike.store (h : c.Alike d) : c.store.Alike d.store := by
  refine List.rel_foldl ?_ Store.Alike.empty h.resources
  intro s t stores r r' alike
  show (s.put r.identity r.payload r.label?).Alike (t.put r'.identity r'.payload r'.label?)
  rw [alike.label?]
  exact stores.put alike.identity alike.payload r'.label?

/-- Alike corpora give alike string tables. -/
theorem Alike.stringTable (h : c.Alike d) : c.stringTable.Alike d.stringTable := by
  refine List.rel_foldl ?_ StringTable.Alike.empty h.strings
  intro t u tables s s' alike
  have names := alike.audio?
  dsimp only
  rw [alike.index]
  generalize s.audio? = x, s'.audio? = y at names ⊢
  cases names with
  | none => exact tables
  | some names => exact tables.setAudio s'.index names

end Corpus
end Unreferenced
