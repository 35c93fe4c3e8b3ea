import Unreferenced.Content.Format
import Unreferenced.Store
import Unreferenced.StringTable

/-!
# Corpora

A corpus describes a whole collection of resources: the audio names of its
string table and its resources.  It is kept as a JSON text, and a store and a
string table are made from it.
-/

namespace Unreferenced

/-- An entry of the string table. -/
structure CorpusString where
  index : Int32
  audio? : Option String
deriving Repr

/-- A resource of a corpus.  One with a fault cannot be decoded; one with
neither a fault nor a content is listed but has no data. -/
structure CorpusResource where
  identity : Identity
  label? : Option String
  content? : Option Content
  corrupt? : Option String

/-- A description of a collection of resources. -/
structure Corpus where
  strings : List CorpusString
  resources : List CorpusResource

namespace CorpusResource

/-- What a store holds of the resource. -/
def payload (r : CorpusResource) : Payload :=
  match r.corrupt?, r.content? with
  | some reason, _ => .corrupt reason
  | none, some content => .content content
  | none, none => .missing

end CorpusResource

namespace Corpus

/-- The store of the resources, put in one after the other. -/
def store (c : Corpus) : Store :=
  c.resources.foldl (fun s r => s.put r.identity r.payload r.label?) Store.empty

/-- The string table of the entries with an audio name, a later one replacing
an earlier one of the same index. -/
def stringTable (c : Corpus) : StringTable :=
  c.strings.foldl
    (fun t s =>
      match s.audio? with
      | some name => t.setAudio s.index name
      | none => t)
    StringTable.empty

/-! ## Written form -/

/-- The written form of an entry of the string table. -/
def stringJson (s : CorpusString) : Json :=
  .obj [("index", .int s.index.toInt), ("audio", .optStr s.audio?)]

/-- The written form of a resource. -/
def resourceJson (r : CorpusResource) : Json :=
  .obj [("id", .str r.identity.fileName), ("label", .optStr r.label?),
    ("content", match r.content? with
      | some content => content.toJson
      | none => .null),
    ("corrupt", .optStr r.corrupt?)]

/-- The written form of a corpus. -/
def toJson (c : Corpus) : Json :=
  .obj [("strings", .arr (c.strings.map stringJson)),
    ("resources", .arr (c.resources.map resourceJson))]

/-! ## Reading -/

open Json (Reader Record Member)

/-- What is written of an entry of the string table. -/
def stringForm : Record CorpusString :=
  ⟨⟨0, none⟩,
    [.must "index" Reader.int32 fun i v => { v with index := i },
      .may "audio" (Reader.optional Reader.text) fun a v => { v with audio? := a }], true⟩

/-- What is written of a resource.  Its content stands inside three arrays and
objects. -/
def resourceForm : Record CorpusResource :=
  ⟨⟨⟨"", ⟨""⟩⟩, none, none, none⟩,
    [.must "id" Reader.identity fun i v => { v with identity := i },
      .may "label" (Reader.optional Reader.text) fun l v => { v with label? := l },
      .may "content" (Reader.optional (Content.read (Json.maxDepth - 3)))
        fun c v => { v with content? := c },
      .may "corrupt" (Reader.optional Reader.text) fun r v => { v with corrupt? := r }], true⟩

/-- What is written of a corpus. -/
def form : Record Corpus :=
  ⟨⟨[], []⟩,
    [.may "strings" (Reader.listOf stringForm.read) fun s v => { v with strings := s },
      .may "resources" (Reader.listOf resourceForm.read) fun r v => { v with resources := r }],
    true⟩

/-- The corpus that a text describes. -/
def ofText (text : String) : Except Json.ReadError Corpus :=
  Reader.run form.read text

end Corpus

/-! ## Files -/

/-- The reason for which a file gives no corpus. -/
inductive CorpusError
  /-- There is no such file, or its bytes are no text. -/
  | unreadable
  /-- The text describes no corpus. -/
  | invalid (error : Json.ReadError)
deriving DecidableEq, Repr

/-- The corpus in a file with these bytes, or in a file that is not there. -/
def Corpus.ofFile (bytes? : Option ByteArray) : Except CorpusError Corpus :=
  match bytes?.bind String.fromUTF8? with
  | none => .error .unreadable
  | some text =>
    match Corpus.ofText text with
    | .ok corpus => .ok corpus
    | .error error => .error (.invalid error)

end Unreferenced
