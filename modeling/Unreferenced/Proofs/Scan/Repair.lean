import Unreferenced.Proofs.Scan.Completed

/-!
# Failures only over-report

A corpus is *mended* by resources with new identities, by other payloads for resources
that do not load, and by other scripts for those that do not compile or decompile.  No
such edit takes a reference away (`Content.Mended.refersTo`, `Corpus.Mended.load`), and
resources keep their spelling and their kind (`Corpus.Mended.isFirst_iff`).  So a resource
of the corpus that a scan of the mended one finds unused is found unused before, too
(`Scan.failures_only_overreport`).
-/

namespace Unreferenced

/-! ## Mending -/

/-- Fragments that do not compile have been replaced by others, and the rest stays. -/
inductive ScriptFragment.Mended : List ScriptFragment → List ScriptFragment → Prop
  | nil : Mended [] []
  | keep (f : ScriptFragment) {fs gs : List ScriptFragment} (rest : Mended fs gs) :
    Mended (f :: fs) (f :: gs)
  | replace {f : ScriptFragment} (broken : (Script.compile f.source f.kind).isOk = false)
    (others : List ScriptFragment) {fs gs : List ScriptFragment} (rest : Mended fs gs) :
    Mended (f :: fs) (others ++ gs)

/-- The content has other scripts where scripts do not compile or decompile. -/
inductive Content.Mended : Content → Content → Prop
  | same (content : Content) : Mended content content
  | fragments {fs gs : List ScriptFragment} (h : ScriptFragment.Mended fs gs)
    (fields : List Field) (sections : List Section) :
    Mended (.scriptBearing ⟨fields, fs, sections⟩) (.scriptBearing ⟨fields, gs, sections⟩)
  | script {bytecode : String} (broken : (Script.decompile bytecode .script).isOk = false)
    (content : Content) : Mended (.compiledScript bytecode) content

/-- A content is mended, and a fault may have become anything. -/
inductive Payload.Mended : Payload → Payload → Prop
  | content {content content' : Content} (h : Content.Mended content content') :
    Mended (.content content) (.content content')
  | corrupt (reason : String) (payload : Payload) : Mended (.corrupt reason) payload
  | missing (payload : Payload) : Mended .missing payload

/-- The resource has the same identity and a mended payload. -/
structure CorpusResource.Mended (r s : CorpusResource) : Prop where
  identity : r.identity = s.identity
  payload : Payload.Mended r.payload s.payload

/-- The resources are mended in their order, and others with identities that are not among
the `old` ones may stand between them. -/
inductive CorpusResource.AllMended (old : List Identity) :
    List CorpusResource → List CorpusResource → Prop
  | nil : AllMended old [] []
  | mend {r s : CorpusResource} (h : r.Mended s) {rs ss : List CorpusResource}
    (rest : AllMended old rs ss) : AllMended old (r :: rs) (s :: ss)
  | add {s : CorpusResource} (new : old.any (· == s.identity) = false)
    {rs ss : List CorpusResource} (rest : AllMended old rs ss) : AllMended old rs (s :: ss)

/-- The corpora have the same strings, and the second one has the resources of the first one
mended and others besides. -/
structure Corpus.Mended (c d : Corpus) : Prop where
  strings : c.strings = d.strings
  resources : CorpusResource.AllMended c.identities c.resources d.resources

/-! ## What mending keeps -/

theorem ScriptFragment.Mended.mem {fs gs : List ScriptFragment} (h : Mended fs gs)
    {f : ScriptFragment} (member : f ∈ fs) {code : String}
    (compiles : Script.compile f.source f.kind = .ok code) : f ∈ gs := by
  induction h with
  | nil => exact member
  | keep g rest ih =>
    rcases List.mem_cons.mp member with rfl | member
    · exact List.mem_cons_self
    · exact List.mem_cons_of_mem _ (ih member)
  | replace broken others rest ih =>
    rcases List.mem_cons.mp member with rfl | member
    · rw [compiles] at broken
      cases broken
    · exact List.mem_append_right _ (ih member)

/-- A content refers to all that it referred to before it was mended. -/
theorem Content.Mended.refersTo {content content' : Content} (h : Mended content content')
    {lookup : Int32 → Option String} {target : Kind} {i : Identity}
    (refers : content.RefersTo lookup target i) : content'.RefersTo lookup target i := by
  cases h with
  | same => exact refers
  | fragments h fields sections =>
    rcases refers with names | speaks | ⟨f, member, ⟨code, compiles⟩, cites⟩
    · exact .inl names
    · exact .inr (.inl speaks)
    · exact .inr (.inr ⟨f, h.mem member compiles, ⟨code, compiles⟩, cites⟩)
  | script broken =>
    obtain ⟨body, split, -⟩ := refers
    rw [Script.decompile_eq_ok_iff.mpr ⟨body, split, rfl⟩] at broken
    cases broken

/-- The resources with an old identity are the resources mended, one by one. -/
theorem CorpusResource.AllMended.forall₂_filter {old : List Identity} {rs ss : List CorpusResource}
    (h : AllMended old rs ss) (known : ∀ r ∈ rs, old.any (· == r.identity) = true) :
    List.Forall₂ CorpusResource.Mended rs (ss.filter fun s => old.any (· == s.identity)) := by
  induction h with
  | nil => exact .nil
  | @mend r s first rs ss rest ih =>
    have here : old.any (· == s.identity) = true := by
      rw [← first.identity]
      exact known r List.mem_cons_self
    rw [List.filter_cons, if_pos here]
    exact .cons first (ih fun r member => known r (List.mem_cons_of_mem _ member))
  | add new rest ih =>
    rw [List.filter_cons, if_neg (by rw [new]; decide)]
    exact ih known

namespace Corpus

variable {c d : Corpus}

/-- Whether the corpus has a resource with an identity equal to this one. -/
def has (c : Corpus) (i : Identity) : Bool := c.identities.any (· == i)

theorem has_congr (c : Corpus) {i j : Identity} (same : (i == j) = true) : c.has i = c.has j := by
  unfold has
  simp only [BEq.congr_right same]

theorem Mended.forall₂_filter (h : c.Mended d) : List.Forall₂ CorpusResource.Mended c.resources
    (d.resources.filter fun s => c.has s.identity) := by
  refine h.resources.forall₂_filter ?_
  intro r member
  exact List.any_eq_true.mpr ⟨_, List.mem_map_of_mem member, BEq.rfl⟩

/-- The identities of the corpus are those identities of the mended one that it has. -/
theorem Mended.identities (h : c.Mended d) : c.identities = d.identities.filter c.has := by
  have same := List.Forall₂.imp (fun r s mended => CorpusResource.Mended.identity mended)
    h.forall₂_filter
  rw [Corpus.identities, Corpus.identities, List.filter_map]
  exact List.forall₂_eq_eq_eq ▸ List.forall₂_map_left_iff.mpr (List.forall₂_map_right_iff.mpr same)

/-- Mending keeps which spelling of an identity is the first. -/
theorem Mended.isFirst_iff (h : c.Mended d) (i : Identity) :
    Identity.IsFirst c.identities i ↔ Identity.IsFirst d.identities i ∧ c.has i = true := by
  rw [h.identities, Identity.isFirst_filter fun a b same => c.has_congr same]

/-- What is held of an identity is mended. -/
theorem Mended.payload? (h : c.Mended d) {i : Identity} {p : Payload}
    (held : c.store.payload? i = some p) :
    ∃ p', d.store.payload? i = some p' ∧ Payload.Mended p p' := by
  rw [payload?_store, Option.map_eq_some_iff] at held
  obtain ⟨r, found, rfl⟩ := held
  have known : c.has i = true := List.any_eq_true.mpr
    ⟨_, List.mem_map_of_mem (List.mem_reverse.mp (List.mem_of_find?_eq_some found)),
      by simpa using List.find?_some found⟩
  -- a search for an identity from before does not see the resources that are new
  have seen (s : CorpusResource) :
      decide (c.has s.identity = true ∧ (s.identity == i) = true) = (s.identity == i) := by
    by_cases same : (s.identity == i) = true
    · simp [same, c.has_congr same, known]
    · simp [same]
  have agree (a b : CorpusResource) (mended : a.Mended b) :
      (a.identity == i) = (b.identity == i) := by rw [mended.identity]
  have finds := find?_of_forall₂ (List.forall₂_reverse_iff.mpr h.forall₂_filter) agree
  rw [found, ← List.filter_reverse, List.find?_filter] at finds
  simp only [seen] at finds
  rw [payload?_store]
  generalize d.resources.reverse.find? (·.identity == i) = found' at finds ⊢
  cases finds with
  | some mended => exact ⟨_, rfl, mended.payload⟩

/-- What loads still loads, and is mended. -/
theorem Mended.load (h : c.Mended d) {i : Identity} {content : Content}
    (loads : c.store.load i = .ok content) :
    ∃ content', d.store.load i = .ok content' ∧ Content.Mended content content' := by
  obtain ⟨p', held, mended⟩ := h.payload? (Store.load_eq_ok_iff.mp loads)
  cases mended with
  | content mended => exact ⟨_, Store.load_eq_ok_iff.mpr held, mended⟩

/-- What some inspected resource refers to, some inspected resource of the mended corpus
refers to. -/
theorem Mended.refersTo (h : c.Mended d) {audio : Int32 → Option String} {config : Config}
    {i : Identity} (refers : c.store.source.RefersTo audio config i) :
    d.store.source.RefersTo audio config i := by
  obtain ⟨kind, scannable, listing, lists, r, member, content, loads, contained⟩ := refers
  have lists : c.store.list kind = .ok listing := lists
  rw [Store.list_eq_ok c.unavailable?_store, Except.ok.injEq] at lists
  subst lists
  obtain ⟨first, isKind⟩ := mem_listing_iff.mp member
  have member' := mem_listing_iff.mpr ⟨((h.isFirst_iff r).mp first).1, isKind⟩
  obtain ⟨content', loads', mended⟩ := h.load loads
  obtain ⟨isTarget, refers⟩ := Extraction.contains_ofContent.mp contained
  exact ⟨kind, scannable, _, Store.list_eq_ok d.unavailable?_store kind, r, member', content',
    loads', Extraction.contains_ofContent.mpr ⟨isTarget, mended.refersTo refers⟩⟩

end Corpus

/-! ## Scans of a mended corpus -/

/-- Whatever the second result lists and the corpus has, the first result lists as well. -/
def Corpus.Covers (c : Corpus) (u v : UnusedResources) : Prop :=
  ∀ i ∈ v.resources, c.has i = true → i ∈ u.resources

namespace Scan

/-- **Failures only over-report.**  Let a corpus be mended: resources with new identities
may stand anywhere in it, payloads that do not load may have become anything, and so may
scripts that do not compile or decompile.  Under every valid configuration both scans start,
and whenever they end without being cancelled, each resource of the corpus that the scan of
the mended one finds unused is found unused in the corpus too, in the same spelling. -/
theorem failures_only_overreport {c d : Corpus} (mended : c.Mended d) {config : Config}
    (valid : config.validate = .ok ()) :
    Compared c.Covers config c.store.source d.store.source c.stringTable.audio?
      d.stringTable.audio? := by
  have table : c.stringTable = d.stringTable := by
    rw [Corpus.stringTable, Corpus.stringTable, mended.strings]
  rw [table]
  refine compared_of_ends c.unavailable?_store d.unavailable?_store valid ?_
  intro processors processors' s s' ends ends' i listed known
  obtain ⟨first, isTarget, unreferenced⟩ := ends'.mem_unused_iff.mp listed
  exact ends.mem_unused_iff.mpr
    ⟨(mended.isFirst_iff i).mpr ⟨first, known⟩, isTarget, mt mended.refersTo unreferenced⟩

/-- A corpus of three sounds, an imp that cannot be decoded and a dialogue with a broken script. -/
def faultyCorpus : Corpus :=
  ⟨[], [⟨⟨"One", ⟨"WAV"⟩⟩, none, none, none⟩, ⟨⟨"Imp", ⟨"CRE"⟩⟩, none, none, some "bad data"⟩,
    ⟨⟨"Talk", ⟨"DLG"⟩⟩, none, some (.scriptBearing ⟨[], [⟨.action, "Play("⟩], []⟩), none⟩,
    ⟨⟨"Two", ⟨"WAV"⟩⟩, none, none, none⟩, ⟨⟨"Three", ⟨"WAV"⟩⟩, none, none, none⟩]⟩

/-- The same with a script that plays one sound, an imp that refers to another and an ogre in
front; nothing refers to the third sound. -/
def mendedCorpus : Corpus :=
  ⟨[], [⟨⟨"Ogre", ⟨"CRE"⟩⟩, none, some (.plainText "grunt"), none⟩,
    ⟨⟨"One", ⟨"WAV"⟩⟩, none, none, none⟩,
    ⟨⟨"Imp", ⟨"CRE"⟩⟩, none, some (.structured ⟨[.resourceRef ⟨"WAV"⟩ "one"]⟩), none⟩,
    ⟨⟨"Talk", ⟨"DLG"⟩⟩, none,
      some (.scriptBearing ⟨[], [⟨.action, "Play(\"two.wav\")"⟩], []⟩), none⟩,
    ⟨⟨"Two", ⟨"WAV"⟩⟩, none, none, none⟩, ⟨⟨"Three", ⟨"WAV"⟩⟩, none, none, none⟩]⟩

theorem mended_faulty : faultyCorpus.Mended mendedCorpus := by
  have dialogue : ScriptFragment.Mended [⟨.action, "Play("⟩] [⟨.action, "Play(\"two.wav\")"⟩] :=
    .replace (by decide +kernel) [_] .nil
  refine ⟨rfl, .add (by decide +kernel) (.mend ?_ (.mend ?_ (.mend ?_ (.mend ?_ (.mend ?_ .nil)))))⟩
  · exact ⟨rfl, .missing _⟩
  · exact ⟨rfl, .corrupt _ _⟩
  · exact ⟨rfl, .content (.fragments dialogue [] [])⟩
  · exact ⟨rfl, .missing _⟩
  · exact ⟨rfl, .missing _⟩

/-- The names and the kinds of the resources that a scan has found unused. -/
def foundUnused : Except ScanError ScanOutcome → List (String × String)
  | .ok (.completed u) => u.resources.map fun i => (i.name, i.kind.text)
  | _ => []

/-- Of the mended corpus only the third sound is found unused. -/
theorem resources_mended {v : UnusedResources}
    (completed : (run mendedCorpus.store.source mendedCorpus.stringTable.audio? 4
      (Config.forTarget ⟨"WAV"⟩) .never).result = .ok (.completed v)) :
    v.resources = [⟨"Three", ⟨"WAV"⟩⟩] := by
  have third : foundUnused (run mendedCorpus.store.source mendedCorpus.stringTable.audio? 4
      (Config.forTarget ⟨"WAV"⟩) .never).result = [("Three", "WAV")] := by decide +kernel
  rw [completed] at third
  obtain ⟨⟨name, ⟨text⟩⟩, alone, same⟩ := List.map_eq_singleton_iff.mp third
  cases same
  exact alone

/-- What is found unused when the imp and the dialogue can be inspected, which is the third
sound, was found unused before. -/
theorem failures_only_overreport_sounds : faultyCorpus.Mended mendedCorpus ∧
    Compared faultyCorpus.Covers (Config.forTarget ⟨"WAV"⟩) faultyCorpus.store.source
      mendedCorpus.store.source faultyCorpus.stringTable.audio? mendedCorpus.stringTable.audio? ∧
    ∃ u v, (run faultyCorpus.store.source faultyCorpus.stringTable.audio? 4
        (Config.forTarget ⟨"WAV"⟩) .never).result = .ok (.completed u) ∧
      (run mendedCorpus.store.source mendedCorpus.stringTable.audio? 4
        (Config.forTarget ⟨"WAV"⟩) .never).result = .ok (.completed v) ∧
      v.resources = [⟨"Three", ⟨"WAV"⟩⟩] ∧ ⟨"Three", ⟨"WAV"⟩⟩ ∈ u.resources := by
  have compared := failures_only_overreport mended_faulty
    (show (Config.forTarget ⟨"WAV"⟩).validate = .ok () from rfl)
  obtain ⟨-, u, v, before, after, covers⟩ := compared 4 4
  have alone := resources_mended after
  refine ⟨mended_faulty, compared, u, v, before, after, alone, covers _ ?_ (by decide +kernel)⟩
  rw [alone]
  exact List.mem_singleton_self _

end Scan
end Unreferenced
