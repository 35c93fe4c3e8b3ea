import Mathlib.Data.List.Forall2
import Mathlib.Data.List.Induction
import Unreferenced.Proofs.Store

/-!
# What a store recalls of its history

A store is made by changes of the empty one, and what it lists, loads and knows a label for
can be told from the history of these changes alone, without a look at how resources are
kept (`Store.Recalls`).  Of a resource the first change settles the place and the spelling
in the listings, and the last one what is loaded and what the label is.  The store of a
corpus recalls the resources of the corpus in the same way, and its string table the audio
name that was written last for an index (`recalls_history`).
-/

namespace Unreferenced

/-! ## Histories -/

/-- What a load gives when this is held for the resource that is asked for. -/
def Payload.given (i : Identity) : Payload → Except LoadError Content
  | content c => .ok c
  | corrupt reason => .error (.corrupt i reason)
  | missing => .error (.notFound i)

namespace Store

/-- A change of a store. -/
inductive Change
  | insert (i : Identity) (content : Content)
  | insertLabeled (i : Identity) (content : Content) (label : String)
  | insertCorrupt (i : Identity) (reason : String)
  | insertMissing (i : Identity)
  | setUnavailable (reason : String)

namespace Change

/-- The store after the change. -/
def apply (s : Store) : Change → Store
  | insert i content => s.insert i content
  | insertLabeled i content label => s.insertLabeled i content label
  | insertCorrupt i reason => s.insertCorrupt i reason
  | insertMissing i => s.insertMissing i
  | setUnavailable reason => s.setUnavailable reason

/-- What the change says of a resource, if it is about one. -/
def resource? : Change → Option StoredResource
  | insert i content => some ⟨i, .content content, none⟩
  | insertLabeled i content label => some ⟨i, .content content, some label⟩
  | insertCorrupt i reason => some ⟨i, .corrupt reason, none⟩
  | insertMissing i => some ⟨i, .missing, none⟩
  | setUnavailable _ => none

/-- The reason that the change gives for listings to fail, if it gives one. -/
def reason? : Change → Option String
  | setUnavailable reason => some reason
  | _ => none

end Change

/-- The store that these changes make of the empty one. -/
def after (changes : List Change) : Store := changes.foldl Change.apply empty

/-- What can be seen of a store whose resources were told in this order, and whose listings
fail for this reason if there is one: a listing has the resources of the kind without their
repetitions, everything else depends on what was told last. -/
structure Recalls (s : Store) (entries : List StoredResource) (reason? : Option String) :
    Prop where
  list (kind : Kind) : s.list kind =
    match reason? with
    | some reason => .error (.storeUnavailable reason)
    | none => .ok ((entries.map (·.identity)).filter (·.kind == kind)).eraseDups
  load (i : Identity) : s.load i =
    match last? entries i with
    | some e => e.payload.given i
    | none => .error (.notFound i)
  label? (i : Identity) : s.label? i = (last? entries i).bind (·.label?)
  size : s.size = (entries.map (·.identity)).eraseDups.length

/-! ## Stores recall what they were told -/

theorem load_eq (s : Store) (i : Identity) :
    s.load i =
      match s.payload? i with
      | some payload => payload.given i
      | none => .error (.notFound i) := by
  unfold load payload?
  cases s.find? i with
  | none => rfl
  | some r =>
    obtain ⟨_, payload, _⟩ := r
    cases payload <;> rfl

/-- A listing has the resources of its kind in the order and the spelling in which they were
told first. -/
theorem listing_told (entries : List StoredResource) (kind : Kind) :
    (told entries).listing kind =
      ((entries.map (·.identity)).filter (·.kind == kind)).eraseDups := by
  have agree (a b : Identity) (h : (a == b) = true) : (a.kind == kind) = (b.kind == kind) := by
    rw [Identity.kind_eq_of_beq h]
  rw [listing_eq_filter, identities_told, ← IdentitySet.members_ofList_filter agree,
    IdentitySet.members_ofList]

theorem recalls_told_unavailable (entries : List StoredResource) (reason? : Option String) :
    Recalls { told entries with unavailable? := reason? } entries reason? where
  list kind := by
    cases reason? with
    | some reason => rfl
    | none => exact congrArg Except.ok (listing_told entries kind)
  load i := by
    show (told entries).load i = _
    rw [load_eq, payload?_eq, held?_told]
    cases last? entries i <;> rfl
  label? i := by
    show (told entries).label? i = _
    rw [label?_eq, held?_told]
    cases last? entries i <;> rfl
  size := by
    show (told entries).resources.length = _
    have kept : (told entries).resources.length = (told entries).identities.members.length :=
      List.length_map _ |>.symm
    rw [kept, identities_told, IdentitySet.members_ofList]

theorem recalls_told (entries : List StoredResource) : (told entries).Recalls entries none := by
  have available : { told entries with unavailable? := none } = told entries := by
    rw [← unavailable?_told entries]
  exact available ▸ recalls_told_unavailable entries none

/-- A change about a resource puts it into the store, any other gives a new reason. -/
theorem apply_eq (s : Store) (change : Change) :
    change.apply s =
      match change.resource? with
      | some e => s.put e.identity e.payload e.label?
      | none => { s with unavailable? := change.reason? } := by
  cases change <;> rfl

theorem put_unavailable (s : Store) (reason? : Option String) (i : Identity) (p : Payload)
    (label? : Option String) :
    ({ s with unavailable? := reason? }).put i p label? =
      { s.put i p label? with unavailable? := reason? } := by
  unfold put
  split <;> rfl

/-- The store after a history: its resources are those the changes told of, and the reason
is the latest. -/
theorem after_eq (changes : List Change) :
    after changes =
      { told (changes.filterMap Change.resource?) with
        unavailable? := changes.reverse.findSome? Change.reason? } := by
  induction changes using List.reverseRecOn with
  | nil => rfl
  | append_singleton changes change ih =>
    have grown : after (changes ++ [change]) = change.apply (after changes) := by
      rw [after, List.foldl_append]
      rfl
    rw [grown, ih, apply_eq, List.filterMap_append, List.reverse_append, List.reverse_singleton,
      List.singleton_append, List.findSome?_cons]
    cases change with
    | setUnavailable reason =>
      rw [show [Change.setUnavailable reason].filterMap Change.resource? = [] from rfl,
        List.append_nil]
      rfl
    | insert | insertLabeled | insertCorrupt | insertMissing =>
      exact (put_unavailable _ _ _ _ _).trans (by rw [← told_concat]; rfl)

/-- Whether resources can be listed makes no difference to anything but the listings. -/
theorem after_without_reasons (changes : List Change) :
    (after (changes.filter (·.resource?.isSome))).load = (after changes).load ∧
      (after (changes.filter (·.resource?.isSome))).label? = (after changes).label? ∧
      (after (changes.filter (·.resource?.isSome))).size = (after changes).size := by
  have entries : (changes.filter (·.resource?.isSome)).filterMap Change.resource? =
      changes.filterMap Change.resource? := by
    rw [List.filterMap_filter]
    apply List.filterMap_congr
    intro change _
    cases change <;> rfl
  rw [after_eq, after_eq, entries]
  exact ⟨rfl, rfl, rfl⟩

end Store

/-! ## String tables -/

namespace StringTable

/-- Setting the name of an index changes what is found for this index only. -/
theorem lookup_setAudio (t : StringTable) (index j : Int32) (name : String) :
    (t.setAudio index name).entries.lookup j =
      if j = index then some name else t.entries.lookup j := by
  rw [setAudio, List.lookup_cons]
  by_cases same : j = index
  · rw [if_pos same, beq_iff_eq.mpr same]
  · have others : (t.entries.filter (·.1 != index)).lookup j = t.entries.lookup j := by
      induction t.entries with
      | nil => rfl
      | cons e entries ih =>
        obtain ⟨k, n⟩ := e
        by_cases dropped : k = index
        · have different : (j == k) = false := by simp [dropped, same]
          rw [List.filter_cons_of_neg (by simp [dropped]), ih, List.lookup_cons, different]
        · rw [List.filter_cons_of_pos (by simp [dropped]), List.lookup_cons, List.lookup_cons, ih]
    rw [if_neg same, beq_eq_false_iff_ne.mpr same, others]

theorem audio?_eq (t : StringTable) (index : Int32) :
    t.audio? index = ((t.entries.lookup index).map Text.trimmed).filter (· ≠ "") := by
  unfold audio?
  cases t.entries.lookup index with
  | none => rfl
  | some name =>
    by_cases blank : Text.trimmed name = "" <;> simp [blank, Option.filter]

end StringTable

/-! ## Corpora -/

/-- What the resource of a corpus tells a store.  A fault counts for more than a content, and
without either there is no data. -/
inductive CorpusResource.Tells : CorpusResource → StoredResource → Prop
  | corrupt (i : Identity) (label? : Option String) (content? : Option Content)
      (reason : String) : Tells ⟨i, label?, content?, some reason⟩ ⟨i, .corrupt reason, label?⟩
  | content (i : Identity) (label? : Option String) (c : Content) :
      Tells ⟨i, label?, some c, none⟩ ⟨i, .content c, label?⟩
  | missing (i : Identity) (label? : Option String) :
      Tells ⟨i, label?, none, none⟩ ⟨i, .missing, label?⟩

theorem CorpusResource.tells_entry (r : CorpusResource) : r.Tells r.entry := by
  obtain ⟨i, label?, content?, corrupt?⟩ := r
  cases corrupt? with
  | some reason => exact .corrupt i label? content? reason
  | none =>
    cases content? with
    | some c => exact .content i label? c
    | none => exact .missing i label?

namespace Corpus

/-- The audio name that is written last for an index.  An entry without a name says nothing
of its index. -/
def audioName? (c : Corpus) (index : Int32) : Option String :=
  c.strings.reverse.findSome? fun s => if s.index = index then s.audio? else none

theorem lookup_stringTable (c : Corpus) (index : Int32) :
    c.stringTable.entries.lookup index = c.audioName? index := by
  obtain ⟨strings, resources⟩ := c
  induction strings using List.reverseRecOn with
  | nil => rfl
  | append_singleton strings s ih =>
    have grown : (Corpus.mk (strings ++ [s]) resources).stringTable =
        match s.audio? with
        | some name => (Corpus.mk strings resources).stringTable.setAudio s.index name
        | none => (Corpus.mk strings resources).stringTable := by
      rw [stringTable, List.foldl_append]
      rfl
    rw [audioName?] at ih ⊢
    rw [grown, List.reverse_append, List.reverse_singleton, List.singleton_append,
      List.findSome?_cons, ← ih]
    cases s.audio? with
    | none => simp
    | some name =>
      rw [StringTable.lookup_setAudio]
      by_cases same : index = s.index
      · rw [if_pos same, if_pos same.symm]
      · rw [if_neg same, if_neg fun h => same h.symm]

end Corpus

/-- A store is an ordered map in which the last word counts.  What can be seen of it follows
from the changes that made it, and only the listings from the reason for which they fail.
The store of a corpus is told the resources of the corpus in turn, and its string table
gives the trimmed name that was written last for an index. -/
theorem Store.recalls_history :
    (∀ changes : List Change,
      (after changes).Recalls (changes.filterMap Change.resource?)
        (changes.reverse.findSome? Change.reason?)) ∧
    (∀ changes : List Change,
      (after (changes.filter (·.resource?.isSome))).load = (after changes).load ∧
        (after (changes.filter (·.resource?.isSome))).label? = (after changes).label? ∧
        (after (changes.filter (·.resource?.isSome))).size = (after changes).size) ∧
    ∀ c : Corpus,
      (∃ entries, List.Forall₂ CorpusResource.Tells c.resources entries ∧
        c.store = told entries ∧ c.store.Recalls entries none) ∧
      ∀ index, c.stringTable.audio? index =
        ((c.audioName? index).map Text.trimmed).filter (· ≠ "") := by
  refine ⟨?_, after_without_reasons, ?_⟩
  · intro changes
    rw [after_eq]
    exact recalls_told_unavailable _ _
  · intro c
    refine ⟨⟨c.resources.map CorpusResource.entry, ?_, c.store_eq, ?_⟩, ?_⟩
    · rw [List.forall₂_map_right_iff, List.forall₂_same]
      intro r _
      exact r.tells_entry
    · rw [c.store_eq]
      exact recalls_told _
    · intro index
      rw [StringTable.audio?_eq, Corpus.lookup_stringTable]

end Unreferenced
