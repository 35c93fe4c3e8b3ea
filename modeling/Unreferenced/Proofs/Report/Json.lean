import Unreferenced.Proofs.Config
import Unreferenced.Proofs.Corpus
import Unreferenced.Proofs.Json.Pretty
import Unreferenced.Proofs.Report.Entries

/-!
# Reports in JSON

A report is read back from its JSON text if it is *sound* (`Report.Sound.ofText_jsonText`):
the target kind is stable, the resources are proper, and the counters and the seconds have
64 bits.  What a manifest names is proper and a kind that can be checked is stable.  So
reports of completed scans survive being written and read again, whatever the labels, the
counters and the duration are (`Report.readBack_of_completes`).
-/

namespace Unreferenced

open Json (Draft Reader Record Member)

/-! ## Parts of a report -/

/-- All counters have 64 bits. -/
structure ScanStats.Fits (s : ScanStats) : Prop where
  totalResources : s.totalResources < Reader.countBound
  scanned : s.scanned < Reader.countBound
  loadFailures : s.loadFailures < Reader.countBound
  scriptFailures : s.scriptFailures < Reader.countBound
  referencesFound : s.referencesFound < Reader.countBound
  removed : s.removed < Reader.countBound
  initialCandidates : s.initialCandidates < Reader.countBound

/-- Counters of 64 bits are read back. -/
theorem ScanStats.Fits.read_toJson {s : ScanStats} (h : s.Fits) :
    ScanStats.form.read (Draft.ofJson s.toJson) = .ok s := by
  have names : (ScanStats.form.members.map Member.name).Nodup := by decide
  refine (Record.read_members names ([s.totalResources, s.scanned, s.loadFailures,
    s.scriptFailures, s.referencesFound, s.removed, s.initialCandidates].map
      fun n => Draft.ofJson (.nat n)) rfl).trans ?_
  rw [ScanStats.form, List.map_cons, Record.readItems_must (Reader.count_ofJson h.totalResources),
    List.map_cons, Record.readItems_must (Reader.count_ofJson h.scanned),
    List.map_cons, Record.readItems_must (Reader.count_ofJson h.loadFailures),
    List.map_cons, Record.readItems_must (Reader.count_ofJson h.scriptFailures),
    List.map_cons, Record.readItems_must (Reader.count_ofJson h.referencesFound),
    List.map_cons, Record.readItems_must (Reader.count_ofJson h.removed),
    List.map_cons, Record.readItems_must (Reader.count_ofJson h.initialCandidates)]
  rfl

namespace Duration

/-- Nothing is carried over from the nanoseconds of a duration. -/
theorem ofParts_self (d : Duration) : ofParts d.secs d.nanos = d := by
  have none : d.nanos / 1000000000 = 0 := Nat.div_eq_of_lt d.nanos_lt
  have all : d.nanos % 1000000000 = d.nanos := Nat.mod_eq_of_lt d.nanos_lt
  cases d
  simp_all [ofParts]

/-- A duration whose seconds have 64 bits is read back. -/
theorem read_toJson {d : Duration} (short : d.secs < Reader.countBound) :
    Duration.read (Draft.ofJson d.toJson) = .ok d := by
  have names : (form.members.map Member.name).Nodup := by decide
  have nanos : Reader.natBelow 4294967296 (Draft.ofJson (.nat d.nanos)) = .ok d.nanos :=
    Reader.natBelow_ofJson (Nat.lt_trans d.nanos_lt (by decide))
  have parts : form.read (Draft.ofJson d.toJson) = .ok (d.secs, d.nanos) := by
    refine (Record.read_members names [Draft.ofJson (.nat d.secs), Draft.ofJson (.nat d.nanos)]
      rfl).trans ?_
    rw [form, Record.readItems_must (Reader.count_ofJson short), Record.readItems_must nanos]
    rfl
  refine Reader.bind_eq_ok.mpr ⟨_, parts, ?_⟩
  show (if (ofParts d.secs d.nanos).secs < Reader.countBound then
    Except.ok (ofParts d.secs d.nanos) else _) = _
  rw [ofParts_self, if_pos short]

end Duration

namespace Report

/-- An entry for a proper resource is read back, whatever its label is. -/
theorem entryForm_read {e : ReportEntry} (proper : e.resource.Proper) :
    entryForm.read (Draft.ofJson (entryJson e)) = .ok e := by
  have names : (entryForm.members.map Member.name).Nodup := by decide
  refine (Record.read_members names [Draft.ofJson (.str e.resource.fileName),
    Draft.ofJson (.str e.label)] rfl).trans ?_
  rw [entryForm, Record.readItems_must proper.read_fileName,
    Record.readItems_must (Reader.text_ofJson e.label)]
  rfl

/-! ## Sound reports -/

/-- The target kind is stable, the resources are proper, and the counters and the seconds
have 64 bits. -/
structure Sound (r : Report) : Prop where
  target : r.target.IsStable
  entries : ∀ e ∈ r.entries, e.resource.Proper
  stats : r.stats.Fits
  duration : r.duration.secs < Reader.countBound

/-- A sound report is read back from its JSON text. -/
theorem Sound.ofText_jsonText {r : Report} (sound : r.Sound) : ofText r.jsonText = .ok r := by
  have names : (form.members.map Member.name).Nodup := by decide
  have target : Reader.kind (Draft.ofJson (.str r.target.text)) = .ok r.target := by
    rw [Reader.kind_ofJson, sound.target]
  have entries := Reader.listOf_ofJson fun e (member : e ∈ r.entries) =>
    entryForm_read (sound.entries e member)
  rw [ofText, jsonText, Reader.run_pretty]
  refine (Record.read_members names [Draft.ofJson (.str r.target.text),
    Draft.ofJson (.arr (r.entries.map entryJson)), Draft.ofJson r.stats.toJson,
    Draft.ofJson r.duration.toJson] rfl).trans ?_
  rw [form, Record.readItems_must target, Record.readItems_must entries,
    Record.readItems_must sound.stats.read_toJson,
    Record.readItems_must (Duration.read_toJson sound.duration)]
  rfl

/-- A kind that is accepted as a target without leave for any kind is stable. -/
theorem isStable_of_checkTarget {kind : Kind} (accepted : Config.checkTarget kind false = .ok ()) :
    kind.IsStable := by
  apply Kind.isStable_of_isKnown
  rw [Kind.isKnown, Config.checkTarget_eq_ok_iff.mp accepted, Bool.or_true]

/-! ## Reports of scans -/

/-- The resources in the result of a scan of a corpus that a text describes are proper. -/
theorem proper_of_completes {text : String} {corpus : Corpus}
    (described : Corpus.ofText text = .ok corpus) {config : Config}
    {audio : Int32 → Option String} {processors : Nat} {su : Scan.Setup}
    (starts : Scan.Setup.ofConfig corpus.store.source audio processors config = .ok su)
    {unused : UnusedResources} (completes : Scan.Completes su unused)
    {i : Identity} (listed : i ∈ unused.resources) : i.Proper := by
  have first := (completes.isFirst_identities starts listed).1
  obtain ⟨r, among, rfl⟩ := List.mem_map.mp first.mem
  exact (Corpus.sound_of_ofText described r among).proper

/-- **Reports can be read back.**  Take any corpus that a text describes, any kind that is
accepted as a target without leave for any kind, and any completed scan of its store.  The
report of the result with any labels, any counters and any duration, up to their 64 bits,
is read back from its JSON text as it is, and what is read back has the same JSON text. -/
theorem readBack_of_completes {text : String} {corpus : Corpus}
    (described : Corpus.ofText text = .ok corpus) {config : Config}
    (checkable : Config.checkTarget config.target false = .ok ())
    {audio : Int32 → Option String} {processors : Nat} {su : Scan.Setup}
    (starts : Scan.Setup.ofConfig corpus.store.source audio processors config = .ok su)
    {unused : UnusedResources} (completes : Scan.Completes su unused)
    (label? : Identity → Option String) {stats : ScanStats} (fits : stats.Fits)
    {duration : Duration} (short : duration.secs < Reader.countBound) :
    let report := ofUnused label? { unused with stats := stats, duration := duration }
    ofText report.jsonText = .ok report ∧
      ∀ again, ofText report.jsonText = .ok again → again.jsonText = report.jsonText := by
  intro report
  have sound : report.Sound := by
    refine ⟨?_, ?_, fits, short⟩
    · have target := completes.target
      obtain ⟨-, rfl⟩ := Scan.eq_ofStore corpus.unavailable?_store starts
      show unused.target.IsStable
      rw [target]
      exact isStable_of_checkTarget checkable
    · intro e member
      rw [show report.entries = _ from entries_ofUnused label? completes.ascending] at member
      obtain ⟨i, listed, rfl⟩ := List.mem_map.mp member
      exact proper_of_completes described starts completes listed
  refine ⟨sound.ofText_jsonText, ?_⟩
  intro again readAgain
  rw [sound.ofText_jsonText] at readAgain
  cases readAgain
  rfl

/-- The report of the ring is read back, with the largest counters and the longest duration. -/
theorem readBack_of_completes_ring : ∃ report : Report,
    report.entries = [⟨⟨"Ring", ⟨"ITM"⟩⟩, "\"Gold\"\nring"⟩] ∧
      report.stats.totalResources = 18446744073709551615 ∧
      report.duration.secs = 18446744073709551615 ∧ ofText report.jsonText = .ok report := by
  have checkable : Config.checkTarget (Config.forTarget ⟨"ITM"⟩).target false = .ok () := rfl
  have fits : (⟨18446744073709551615, 1, 1, 0, 0, 0, 1⟩ : ScanStats).Fits := by
    constructor <;> decide
  have short : (⟨18446744073709551615, 999999999, by decide⟩ : Duration).secs <
    Reader.countBound := by decide
  obtain ⟨unused, completes, found⟩ := completes_ring
  have readBack := (readBack_of_completes ofText_ring checkable ofConfig_ring completes
    ringCorpus.store.label? fits short).1
  refine ⟨_, ?_, rfl, rfl, readBack⟩
  exact entries_ring found

end Report
end Unreferenced
