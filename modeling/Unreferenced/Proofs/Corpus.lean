import Unreferenced.Corpus
import Unreferenced.Proofs.Content.Format
import Unreferenced.Proofs.Identity.Parse

/-!
# Corpora in JSON

A corpus that is read from any text has proper identities and contents that fit
into the depth at which contents stand in it (`Corpus.sound_of_ofText`).  Such a
corpus, with stable kinds in its references, is read back from its own written form
(`Corpus.Sound.ofText_toJson`).  So however a text was written, the corpus it
describes survives being written and read again (`Corpus.survives_own_format`).
-/

namespace Unreferenced

open Json (Draft Reader Record Member)

/-- A reader that finds a value in a text finds it in the draft of the text. -/
theorem Json.Reader.run_eq_ok {α : Type} {r : Reader α} {text : String} {v : α}
    (h : run r text = .ok v) : ∃ d, r d = .ok v := by
  obtain ⟨w, reads, h⟩ := Reader.bind_eq_ok.mp h
  split at h
  · cases h
    exact ⟨_, reads⟩
  · cases h

/-- A proper identity is read back. -/
theorem Identity.Proper.read_fileName {i : Identity} (h : i.Proper) :
    Reader.identity (Draft.ofJson (.str i.fileName)) = .ok i := by
  refine Reader.bind_eq_ok.mpr ⟨i.fileName, rfl, ?_⟩
  rw [h.parse_fileName]
  rfl

namespace Corpus

/-! ## Written parts -/

theorem stringForm_read (s : CorpusString) :
    stringForm.read (Draft.ofJson (stringJson s)) = .ok s := by
  have names : (stringForm.members.map Member.name).Nodup := by decide
  refine (Record.read_members names [Draft.ofJson (.int s.index.toInt),
    Draft.ofJson (.optStr s.audio?)] rfl).trans ?_
  rw [stringForm, Record.readItems_must (Reader.int32_ofJson s.index),
    Record.readItems_may (Reader.optional_text_ofJson s.audio?)]
  rfl

/-- The resource has a proper identity and a content that is not too deep: content
stands inside three arrays and objects. -/
structure SoundResource (r : CorpusResource) : Prop where
  proper : r.identity.Proper
  fits : ∀ content, r.content? = some content → content.Fits (Json.maxDepth - 3)

/-- All references in the content of the resource are to stable kinds. -/
def StableResource (r : CorpusResource) : Prop :=
  ∀ content, r.content? = some content → content.Stable

/-- The written form of the content of a resource. -/
def contentJson (content? : Option Content) : Json :=
  match content? with
  | some content => content.toJson
  | none => .null

theorem contentJson_read {r : CorpusResource} (sound : SoundResource r)
    (stable : StableResource r) :
    Reader.optional (Content.read (Json.maxDepth - 3)) (Draft.ofJson (contentJson r.content?)) =
      .ok r.content? := by
  cases found : r.content? with
  | none => rfl
  | some content =>
    have read := Content.read_toJson (sound.fits content found) (by decide) (by decide)
      (stable content found)
    obtain ⟨members, isObject⟩ : ∃ members, Draft.ofJson content.toJson = .obj members := by
      cases content <;> exact ⟨_, rfl⟩
    rw [isObject] at read
    rw [contentJson, isObject]
    exact Reader.optional_obj read

theorem resourceForm_read {r : CorpusResource} (sound : SoundResource r)
    (stable : StableResource r) : resourceForm.read (Draft.ofJson (resourceJson r)) = .ok r := by
  have names : (resourceForm.members.map Member.name).Nodup := by decide
  refine (Record.read_members names [Draft.ofJson (.str r.identity.fileName),
    Draft.ofJson (.optStr r.label?), Draft.ofJson (contentJson r.content?),
    Draft.ofJson (.optStr r.corrupt?)] rfl).trans ?_
  rw [resourceForm, Record.readItems_must sound.proper.read_fileName,
    Record.readItems_may (Reader.optional_text_ofJson r.label?),
    Record.readItems_may (contentJson_read sound stable),
    Record.readItems_may (Reader.optional_text_ofJson r.corrupt?)]
  rfl

/-- Every resource has a proper identity and a content that is not too deep. -/
def Sound (c : Corpus) : Prop := ∀ r ∈ c.resources, SoundResource r

/-- All references in all contents are to stable kinds. -/
def Stable (c : Corpus) : Prop := ∀ r ∈ c.resources, StableResource r

/-- A sound corpus with stable kinds is read back. -/
theorem Sound.ofText_toJson {c : Corpus} (sound : c.Sound) (stable : c.Stable) :
    ofText c.toJson.compact = .ok c := by
  have names : (form.members.map Member.name).Nodup := by decide
  have strings := Reader.listOf_ofJson fun s (_ : s ∈ c.strings) => stringForm_read s
  have resources := Reader.listOf_ofJson fun r (member : r ∈ c.resources) =>
    resourceForm_read (sound r member) (stable r member)
  rw [ofText, Reader.run_compact]
  refine (Record.read_members names [Draft.ofJson (.arr (c.strings.map stringJson)),
    Draft.ofJson (.arr (c.resources.map resourceJson))] rfl).trans ?_
  rw [form, Record.readItems_may strings, Record.readItems_may resources]
  rfl

/-! ## Corpora that are read -/

theorem proper_of_read {d : Draft} {i : Identity} (h : Reader.identity d = .ok i) : i.Proper := by
  obtain ⟨s, -, h⟩ := Reader.bind_eq_ok.mp h
  split at h
  · next found =>
    cases h
    exact Identity.proper_of_parse found
  · cases h

/-- A resource that is read is sound. -/
theorem soundResource_of_read {d : Draft} {r : CorpusResource} (h : resourceForm.read d = .ok r) :
    SoundResource r := by
  constructor
  · refine Record.read_required (Q := fun r => r.identity.Proper) h "id"
      ⟨_, List.mem_cons_self, rfl, rfl⟩ ?_ ?_
    · intro m member named part _ v w read
      simp only [resourceForm, List.mem_cons, List.not_mem_nil, or_false] at member
      rcases member with rfl | rfl | rfl | rfl
      · obtain ⟨i, reads, rfl⟩ := Member.must_read.mp read
        exact proper_of_read reads
      all_goals exact absurd named (by decide)
    · intro m member other part _ v w read kept
      simp only [resourceForm, List.mem_cons, List.not_mem_nil, or_false] at member
      rcases member with rfl | rfl | rfl | rfl
      · exact absurd rfl other
      all_goals
        obtain ⟨_, -, rfl⟩ := Member.may_read.mp read
        exact kept
  · refine Record.read_keeps (P := fun r => ∀ content, r.content? = some content →
      content.Fits (Json.maxDepth - 3)) h (by simp [resourceForm]) ?_
    intro m member part _ v w read kept
    simp only [resourceForm, List.mem_cons, List.not_mem_nil, or_false] at member
    rcases member with rfl | rfl | rfl | rfl
    · obtain ⟨_, -, rfl⟩ := Member.must_read.mp read
      exact kept
    · obtain ⟨_, -, rfl⟩ := Member.may_read.mp read
      exact kept
    · obtain ⟨content?, reads, rfl⟩ := Member.may_read.mp read
      rintro content rfl
      exact Content.fits_of_read (by decide) (Reader.optional_eq_some reads)
    · obtain ⟨_, -, rfl⟩ := Member.may_read.mp read
      exact kept

/-- A file holds a corpus exactly if its bytes are those of a text that describes it. -/
theorem ofFile_eq_ok_iff {file? : Option ByteArray} {c : Corpus} :
    ofFile file? = .ok c ↔ ∃ text, file? = some text.toUTF8 ∧ ofText text = .ok c := by
  constructor
  · intro held
    cases decoded : file?.bind String.fromUTF8? with
    | none =>
      rw [ofFile, decoded] at held
      cases held
    | some text =>
      obtain ⟨bytes, rfl, decodes⟩ := Option.bind_eq_some_iff.mp decoded
      have same : bytes = text.toUTF8 := by
        unfold String.fromUTF8? at decodes
        split at decodes
        · cases decodes
          rfl
        · cases decodes
      rw [ofFile, decoded] at held
      cases described : ofText text with
      | error e =>
        simp only [described] at held
        cases held
      | ok c' =>
        simp only [described] at held
        cases held
        exact ⟨text, congrArg some same, described⟩
  · rintro ⟨text, rfl, described⟩
    have decoded : String.fromUTF8? text.toUTF8 = some text := by
      unfold String.fromUTF8?
      rw [String.toUTF8_eq_toByteArray, dif_pos text.isValidUTF8]
      rfl
    rw [ofFile, Option.bind_some, decoded]
    simp only [described]

/-- A file holds the corpus that its text describes. -/
theorem ofFile_toUTF8 {text : String} {c : Corpus} (h : ofText text = .ok c) :
    ofFile (some text.toUTF8) = .ok c :=
  ofFile_eq_ok_iff.mpr ⟨text, rfl, h⟩

/-- A corpus that a text describes is sound. -/
theorem sound_of_ofText {text : String} {c : Corpus} (h : ofText text = .ok c) : c.Sound := by
  obtain ⟨d, reads⟩ := Reader.run_eq_ok h
  refine Record.read_keeps (P := Sound) reads (by simp [form, Sound]) ?_
  intro m member part _ v w read kept
  rcases List.mem_pair.mp member with rfl | rfl
  · obtain ⟨_, -, rfl⟩ := Member.may_read.mp read
    exact kept
  · obtain ⟨resources, reads, rfl⟩ := Member.may_read.mp read
    intro r among
    obtain ⟨items, rfl, members⟩ := Reader.listOf_eq_ok reads
    obtain ⟨item, -, reads⟩ := members r among
    exact soundResource_of_read reads

/-- A corpus survives its own format: whatever text it was read from, if all its
references are to stable kinds, its written form is read back as the same corpus,
and what is read back is written in the same way. -/
theorem survives_own_format {text : String} {corpus : Corpus} (accepted : ofText text = .ok corpus)
    (stable : ∀ r ∈ corpus.resources, ∀ content, r.content? = some content →
      ∀ kind name, content.HasLeaf (.resourceRef kind name) → Kind.ofText kind.text = kind) :
    ofText corpus.toJson.compact = .ok corpus ∧
      ∀ again, ofText corpus.toJson.compact = .ok again →
        again.toJson.compact = corpus.toJson.compact := by
  have readBack := (sound_of_ofText accepted).ofText_toJson stable
  refine ⟨readBack, ?_⟩
  intro again readAgain
  rw [readBack] at readAgain
  cases readAgain
  rfl

/-- A corpus of one resource, written with its members out of order or left out and
with a reference in array form. -/
def reordered : Json :=
  .obj [("resources", .arr [.obj [
    ("content", .obj [("fields", .arr [.obj [("resource_ref", .arr [.str ".itm", .str " ring "])]]),
      ("type", .str "structured")]),
    ("id", .str " Sword.itm")]])]

/-- The corpus that is described there. -/
def reorderedCorpus : Corpus :=
  ⟨[], [⟨⟨"Sword", ⟨"ITM"⟩⟩, none,
    some (.structured ⟨[.resourceRef ⟨"ITM"⟩ " ring "]⟩), none⟩]⟩

theorem survives_own_format_reordered :
    ofText reordered.compact = .ok reorderedCorpus ∧
      ofText reorderedCorpus.toJson.compact = .ok reorderedCorpus := by
  have accepted : ofText reordered.compact = .ok reorderedCorpus := by
    rw [ofText, Reader.run_compact]
    rfl
  refine ⟨accepted, (survives_own_format accepted ?_).1⟩
  intro r among content found kind name leaf
  cases List.mem_singleton.mp among
  cases found
  cases leaf with
  | here => rfl
  | later none => cases none

end Corpus
end Unreferenced
