import Mathlib.Data.List.Forall2
import Mathlib.Data.List.Induction
import Unreferenced.Corpus
import Unreferenced.Proofs.Identity.Set

/-!
# What a store holds

A resource that is put into a store takes the place of an equal one, which keeps its
spelling, and stands at the end if there is none.  So the identities in a store into which
resources are put one after the other are theirs, each in its first spelling
(`Store.identities_told`), and what the store holds for an identity is what was put in for
it last (`Store.held?_told`).  The store of a corpus is made in this way (`Corpus.store_eq`).
-/

namespace Unreferenced

/-- Searches that agree on related members find related members, or both none. -/
theorem find?_of_forall₂ {α β : Type} {R : α → β → Prop} {p : α → Bool} {q : β → Bool}
    {l : List α} {l' : List β} (h : List.Forall₂ R l l') (agree : ∀ a b, R a b → p a = q b) :
    Option.Rel R (l.find? p) (l'.find? q) := by
  induction h with
  | nil => exact .none
  | @cons a b l l' first rest ih =>
    rw [List.find?_cons, List.find?_cons, agree a b first]
    cases q b with
    | true => exact .some first
    | false => exact ih

namespace Store

variable {s : Store}

/-! ## Listings -/

theorem unavailable?_put (s : Store) (i : Identity) (p : Payload) (label? : Option String) :
    (s.put i p label?).unavailable? = s.unavailable? := by
  unfold Store.put
  split <;> rfl

/-- The resources of a kind, whether they can be listed or not. -/
def listing (s : Store) (kind : Kind) : List Identity :=
  (s.resources.map (·.identity)).filter (·.kind == kind)

theorem list_eq_ok (available : s.unavailable? = none) (kind : Kind) :
    s.list kind = .ok (s.listing kind) := by
  rw [list, available]
  rfl

/-- The identities of the resources. -/
def identities (s : Store) : IdentitySet :=
  ⟨s.resources.map (·.identity), List.pairwise_map.mpr s.distinct⟩

theorem listing_eq_filter (s : Store) (kind : Kind) :
    s.listing kind = s.identities.members.filter (·.kind == kind) := rfl

/-- Putting a resource into a store puts its identity into the set of identities. -/
theorem identities_put (s : Store) (i : Identity) (p : Payload) (label? : Option String) :
    (s.put i p label?).identities = s.identities.insert i := by
  have present : s.identities.contains i = s.resources.any fun r => r.identity == i := by
    simp [identities, IdentitySet.contains, List.any_map, Function.comp_def]
  unfold put IdentitySet.insert
  by_cases there : (s.resources.any fun r => r.identity == i) = true
  · rw [dif_pos there, dif_pos (present.trans there)]
    simp only [identities, IdentitySet.mk.injEq, List.map_map]
    apply List.map_congr_left
    intro r _
    by_cases same : (r.identity == i) = true <;> simp [same]
  · rw [dif_neg there, dif_neg (present ▸ there)]
    simp [identities]

/-! ## Payloads and labels -/

/-- The payload and the label that the store holds for an identity. -/
def held? (s : Store) (i : Identity) : Option (Payload × Option String) :=
  (s.find? i).map fun r => (r.payload, r.label?)

/-- What the store holds for an identity. -/
def payload? (s : Store) (i : Identity) : Option Payload :=
  (s.find? i).map (·.payload)

theorem payload?_eq (s : Store) (i : Identity) : s.payload? i = (s.held? i).map Prod.fst := by
  rw [payload?, held?, Option.map_map]
  rfl

theorem label?_eq (s : Store) (i : Identity) : s.label? i = (s.held? i).bind Prod.snd := by
  rw [label?, held?]
  cases s.find? i <;> rfl

theorem load_eq_ok_iff {i : Identity} {content : Content} :
    s.load i = .ok content ↔ s.payload? i = some (.content content) := by
  unfold load payload?
  cases s.find? i with
  | none => simp
  | some r => cases held : r.payload <;> simp [held]

/-- Putting a resource into a store sets what the store holds for the identities equal to
its own, and for no others. -/
theorem held?_put (s : Store) (i j : Identity) (p : Payload) (label? : Option String) :
    (s.put i p label?).held? j = if i == j then some (p, label?) else s.held? j := by
  have follows (r : StoredResource) (same : (i == j) = true) :
      (r.identity == j) = (r.identity == i) :=
    (BEq.congr_right same).symm
  unfold held? find? put
  by_cases there : (s.resources.any fun r => r.identity == i) = true
  · -- the equal resource is found as before, with the new payload and label in it
    have kept (r : StoredResource) : ((if r.identity == i then ⟨r.identity, p, label?⟩ else r :
        StoredResource).identity == j) = (r.identity == j) := by
      split <;> rfl
    rw [dif_pos there]
    simp only [List.find?_map, Function.comp_def, kept, Option.map_map]
    by_cases same : (i == j) = true
    · simp only [follows _ same, same, if_true]
      obtain ⟨r, found⟩ := Option.isSome_iff_exists.mp (List.find?_isSome.mpr (by simpa using there))
      simp [found, List.find?_some found]
    · rw [if_neg same]
      apply Option.map_congr
      intro r found
      have other : ¬ (r.identity == i) = true := fun h =>
        same (BEq.trans (BEq.symm h) (by simpa using List.find?_some found))
      simp [other]
  · rw [dif_neg there]
    simp only [List.find?_append, List.find?_singleton]
    by_cases same : (i == j) = true
    · have none : s.resources.find? (fun r => r.identity == j) = none := by
        simp only [follows _ same]
        simpa using there
      simp [none, same]
    · simp [same]

/-! ## Resources put in one after the other -/

/-- The store after these resources are put into the empty store in turn. -/
def told (entries : List StoredResource) : Store :=
  entries.foldl (fun s e => s.put e.identity e.payload e.label?) empty

theorem told_concat (entries : List StoredResource) (e : StoredResource) :
    told (entries ++ [e]) = (told entries).put e.identity e.payload e.label? := by
  rw [told, List.foldl_append]
  rfl

theorem unavailable?_told (entries : List StoredResource) : (told entries).unavailable? = none := by
  induction entries using List.reverseRecOn with
  | nil => rfl
  | append_singleton entries e ih => rw [told_concat, unavailable?_put, ih]

/-- The store has each identity in the spelling in which it was put in first. -/
theorem identities_told (entries : List StoredResource) :
    (told entries).identities = IdentitySet.ofList (entries.map (·.identity)) := by
  induction entries using List.reverseRecOn with
  | nil => rfl
  | append_singleton entries e ih =>
    rw [told_concat, identities_put, ih, List.map_append, IdentitySet.ofList, IdentitySet.ofList,
      List.foldl_append]
    rfl

/-- What is said last of an identity. -/
def last? (entries : List StoredResource) (i : Identity) : Option StoredResource :=
  entries.reverse.find? (·.identity == i)

theorem last?_concat (entries : List StoredResource) (e : StoredResource) (i : Identity) :
    last? (entries ++ [e]) i = if e.identity == i then some e else last? entries i := by
  rw [last?, List.reverse_append, List.reverse_singleton, List.singleton_append, List.find?_cons]
  cases e.identity == i <;> rfl

/-- The store holds what was put in last. -/
theorem held?_told (entries : List StoredResource) (i : Identity) :
    (told entries).held? i = (last? entries i).map fun e => (e.payload, e.label?) := by
  induction entries using List.reverseRecOn with
  | nil => rfl
  | append_singleton entries e ih =>
    rw [told_concat, held?_put, last?_concat, ih]
    split <;> rfl

end Store

/-- What is put into a store for the resource. -/
def CorpusResource.entry (r : CorpusResource) : StoredResource := ⟨r.identity, r.payload, r.label?⟩

namespace Corpus

/-- The store of a corpus has its resources put in one after the other. -/
theorem store_eq (c : Corpus) : c.store = Store.told (c.resources.map CorpusResource.entry) := by
  rw [Store.told, List.foldl_map]
  rfl

/-- The store of a corpus can be listed. -/
theorem unavailable?_store (c : Corpus) : c.store.unavailable? = none := by
  rw [store_eq, Store.unavailable?_told]

/-- The identities of the resources in turn. -/
def identities (c : Corpus) : List Identity := c.resources.map (·.identity)

theorem identities_entries (c : Corpus) :
    (c.resources.map CorpusResource.entry).map (·.identity) = c.identities := by
  rw [List.map_map]
  rfl

/-- The store of a corpus has each identity of the corpus in its first spelling. -/
theorem identities_store (c : Corpus) : c.store.identities = IdentitySet.ofList c.identities := by
  rw [store_eq, Store.identities_told, identities_entries]

/-- A resource is listed for its kind, in the spelling that stands first in the corpus. -/
theorem mem_listing_iff {c : Corpus} {kind : Kind} {i : Identity} :
    i ∈ c.store.listing kind ↔ Identity.IsFirst c.identities i ∧ i.kind = kind := by
  rw [Store.listing_eq_filter, identities_store, List.mem_filter, IdentitySet.mem_ofList_iff,
    beq_iff_eq]

/-- No equal resource is listed before it. -/
theorem isFirst_listing_iff {c : Corpus} {kind : Kind} {i : Identity} :
    Identity.IsFirst (c.store.listing kind) i ↔ Identity.IsFirst c.identities i ∧ i.kind = kind := by
  have agree (a b : Identity) (h : (a == b) = true) : (a.kind == kind) = (b.kind == kind) := by
    rw [Identity.kind_eq_of_beq h]
  rw [Store.listing_eq_filter, Identity.isFirst_filter agree, IdentitySet.isFirst_members_iff,
    identities_store, IdentitySet.mem_ofList_iff, beq_iff_eq]

/-- The store of a corpus holds what the corpus says last. -/
theorem payload?_store (c : Corpus) (i : Identity) :
    c.store.payload? i = (c.resources.reverse.find? (·.identity == i)).map (·.payload) := by
  rw [store_eq, Store.payload?_eq, Store.held?_told, Store.last?, ← List.map_reverse,
    List.find?_map, Option.map_map, Option.map_map]
  rfl

end Corpus
end Unreferenced
