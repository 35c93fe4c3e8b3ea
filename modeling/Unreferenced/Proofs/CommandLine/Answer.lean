import Unreferenced.Proofs.CommandLine.World
import Unreferenced.Proofs.LetterCase.Scan
import Unreferenced.Proofs.Report.Shown

/-!
# What a check answers

Once its kind and its corpus are accepted, a check cannot fail any more but by not saving its
report: the scan starts, every schedule comes to an end, and all of them to one result
(`Scan.Ends.unused_eq`).  So there is one report for a kind and a corpus (`Report.IsOf`), and
every answer, carried out in any world, prints and saves this one
(`CommandLine.check_fails_cleanly`).
-/

namespace Unreferenced

/-! ## Scans of one corpus -/

namespace Scan

variable {su : Setup} {s s' : State}

/-- Whatever a run that nobody cancels has done so far, it can go on to an end. -/
def Setup.AlwaysEnds (su : Setup) : Prop :=
  ∀ actions s, follow su (State.initial su false) actions = some s → .cancel ∉ actions →
    ∃ more last, follow su s more = some last ∧ Ends su last

theorem Setup.alwaysEnds (slot : 1 ≤ su.limit) : su.AlwaysEnds := by
  intro actions s run never
  obtain ⟨more, rest, quiet, -⟩ := follow_drive su s
  refine ⟨more, _, rest, actions ++ more, ?_, ?_, drive_closed (Admission.follow run) slot⟩
  · rw [follow_append, run, Option.bind_some, rest]
  · rw [List.mem_append]
    exact not_or_intro never quiet

/-- Scans of a corpus for one kind end with one result, whatever the numbers of jobs and of
processors and the schedules are. -/
theorem Ends.unused_eq {corpus : Corpus} {audio : Int32 → Option String} {config : Config}
    {processors processors' : Nat} (jobs : Nat)
    (ends : Ends (.ofStore corpus.store audio processors config) s)
    (ends' : Ends (.ofStore corpus.store audio processors'
      { config with concurrencyLimit := jobs }) s') :
    s.unused (.ofStore corpus.store audio processors config) =
      s'.unused (.ofStore corpus.store audio processors'
        { config with concurrencyLimit := jobs }) := by
  -- neither what is listed nor what the jobs find depends on how many run at once
  have agrees : (Setup.ofStore corpus.store audio processors config).Agrees
      (.ofStore corpus.store audio processors' { config with concurrencyLimit := jobs }) :=
    ⟨rfl, rfl, rfl, fun _ => rfl⟩
  have stats := (agrees.matches_of_ends ends ends').stats
  have resources : s.candidates.snapshot = s'.candidates.snapshot := by
    refine Identity.eq_of_ascending ends.completes.ascending ends'.completes.ascending ?_
    intro i
    exact ends.mem_unused_iff.trans ends'.mem_unused_iff.symm
  exact congrArg₂ (UnusedResources.mk config.target · · Duration.zero) resources stats

end Scan

/-! ## The report of a corpus -/

namespace Report

/-- The report for a kind: it lists the resources of the corpus that have this kind and that
nothing refers to, in strictly ascending order and with their labels, it counts the faults of
the corpus, and every scan that ends without being cancelled gives this report. -/
structure IsOf (r : Report) (corpus : Corpus) (kind : Kind) : Prop where
  target : r.target = kind
  listed : ∀ i, i ∈ r.entries.map (·.resource) ↔ Identity.IsFirst corpus.identities i ∧
    i.kind = kind ∧
    ¬ corpus.store.source.RefersTo corpus.stringTable.audio? (Config.forTarget kind) i
  ascending : (r.entries.map (·.resource)).Pairwise fun a b => Identity.order a b = .lt
  labels : ∀ e ∈ r.entries, e.label = (corpus.store.label? e.resource).getD ""
  failures : r.failures = corpus.faults
  scans : ∀ processors jobs s,
    let su := Scan.Setup.ofStore corpus.store corpus.stringTable.audio? processors
      { Config.forTarget kind with concurrencyLimit := jobs }
    Scan.Ends su s → r = ofUnused corpus.store.label? (s.unused su)

theorem exists_isOf (corpus : Corpus) (kind : Kind) : ∃ r : Report, r.IsOf corpus kind := by
  -- any one of the scans gives the report; the others agree with it
  let su := Scan.Setup.ofStore corpus.store corpus.stringTable.audio? 1 (Config.forTarget kind)
  obtain ⟨s, ends⟩ : ∃ s, Scan.Ends su s :=
    ⟨_, Scan.Ends.drive (Scan.one_le_effectiveConcurrency 1 (Config.forTarget kind))⟩
  have ascending := ends.completes.ascending
  have resources := resources_ofUnused corpus.store.label? ascending
  refine ⟨ofUnused corpus.store.label? (s.unused su), rfl, ?_, ?_, ?_, ends.faults rfl, ?_⟩
  · intro i
    rw [resources]
    exact ends.mem_unused_iff
  · rw [resources]
    exact ascending
  · intro e member
    rw [entries_ofUnused corpus.store.label? ascending] at member
    obtain ⟨i, -, rfl⟩ := List.mem_map.mp member
    rfl
  · intro processors jobs s' su' ends'
    rw [Scan.Ends.unused_eq jobs ends ends']

variable {r : Report} {corpus : Corpus} {kind : Kind}

/-- What is printed of the report of a corpus that a text describes shows the report, if the
kind can be checked. -/
theorem IsOf.shows_printed (h : r.IsOf corpus kind) {text : String}
    (described : Corpus.ofText text = .ok corpus) (checkable : kind.isCheckable = true)
    (duration : Duration) (format : CommandLine.OutputFormat) :
    (r.lasting duration).Shows format (CommandLine.printed format (r.lasting duration)) := by
  refine Report.shows_printed ?_ ?_ format
  · show r.target.IsStable
    rw [h.target]
    exact isStable_of_checkTarget (Config.checkTarget_eq_ok_iff.mpr checkable)
  · intro e member
    have first := ((h.listed e.resource).mp (List.mem_map_of_mem member)).1
    obtain ⟨resource, among, same⟩ := List.mem_map.mp first.mem
    rw [← same]
    exact (Corpus.sound_of_ofText described resource among).proper

end Report

namespace CommandLine

/-! ## Answers under any schedule -/

/-- The answers that a check may give after this time: the kind or the corpus is rejected, the
scan does not start, or it ends under some schedule. -/
inductive Check.MayAnswer (check : Check) (processors : Nat) (file? : Option ByteArray)
    (duration : Duration) : Answer → Prop
  | kindRejected {fault : ConfigFault} (rejected : check.config = .error fault) :
      MayAnswer check processors file? duration .failure
  | corpusRejected {config : Config} {error : CorpusError} (accepted : check.config = .ok config)
      (rejected : Corpus.ofFile file? = .error error) :
      MayAnswer check processors file? duration .failure
  | scanFailed {config : Config} {corpus : Corpus} {error : ScanError}
      (accepted : check.config = .ok config) (described : Corpus.ofFile file? = .ok corpus)
      (fails : Scan.Setup.ofConfig corpus.store.source corpus.stringTable.audio? processors
        config = .error error) : MayAnswer check processors file? duration .failure
  | scanned {config : Config} {corpus : Corpus} {su : Scan.Setup} {s : Scan.State}
      (accepted : check.config = .ok config) (described : Corpus.ofFile file? = .ok corpus)
      (starts : Scan.Setup.ofConfig corpus.store.source corpus.stringTable.audio? processors
        config = .ok su) (ends : Scan.Ends su s) :
      MayAnswer check processors file? duration (check.answer
        ((ScanStatus.ofResult corpus.store.label? (.ok (s.outcome su))).report?.map
          (·.lasting duration)))

/-- The kind can be checked, and the file can be read and is a text that describes the
corpus. -/
def Accepts (kind : String) (file? : Option ByteArray) (corpus : Corpus) : Prop :=
  (Kind.ofText kind).isCheckable = true ∧
    ∃ text : String, file? = some text.toUTF8 ∧ Corpus.ofText text = .ok corpus

/-- The kind and the file are accepted. -/
def Accepted (kind : String) (file? : Option ByteArray) : Prop :=
  ∃ corpus, Accepts kind file? corpus

/-- The program's own answer is one of them. -/
theorem Check.mayAnswer_report? (check : Check) (processors : Nat) (file? : Option ByteArray)
    (duration : Duration) : check.MayAnswer processors file? duration
      (check.answer ((check.report? processors file?).map (·.lasting duration))) := by
  cases accepted : check.config with
  | error fault =>
    rw [Check.report?, accepted]
    exact .kindRejected accepted
  | ok config =>
    cases described : Corpus.ofFile file? with
    | error error =>
      rw [Check.report?, accepted, described]
      exact .corpusRejected accepted described
    | ok corpus =>
      obtain ⟨s, ends, reported⟩ := Check.exists_report? accepted described processors
      have starts := Scan.ofConfig_source corpus.unavailable?_store
        (Check.config_eq_ok accepted).1 corpus.stringTable.audio? processors
      have answer : check.MayAnswer processors file? duration _ :=
        .scanned accepted described starts ends
      rw [ends.outcome] at answer
      rw [reported]
      exact answer

/-! ## One report for a kind and a corpus -/

variable {check : Check} {processors : Nat} {file? : Option ByteArray} {duration : Duration}
variable {answer : Answer}

/-- A check that is not accepted prints and saves nothing and fails. -/
theorem Check.MayAnswer.eq_failure (h : check.MayAnswer processors file? duration answer)
    (rejected : ¬ Accepted check.kind file?) : answer = .failure := by
  cases h with
  | kindRejected | corpusRejected | scanFailed => rfl
  | scanned accepted described =>
    exact absurd ⟨_, (Check.config_eq_ok_iff.mp accepted).1, Corpus.ofFile_eq_ok_iff.mp described⟩
      rejected

/-- A check that is accepted prints and saves the report of the corpus for its kind. -/
theorem Check.MayAnswer.eq_answer (h : check.MayAnswer processors file? duration answer)
    {corpus : Corpus} (accepts : Accepts check.kind file? corpus) {report : Report}
    (isOf : report.IsOf corpus (Kind.ofText check.kind)) :
    answer = check.answer (some (report.lasting duration)) := by
  obtain ⟨checkable, described⟩ := accepts
  rw [← Corpus.ofFile_eq_ok_iff] at described
  cases h with
  | @kindRejected fault rejected =>
    rw [Check.config_eq_ok_iff.mpr ⟨checkable, rfl⟩] at rejected
    cases rejected
  | corpusRejected _ rejected =>
    rw [described] at rejected
    cases rejected
  | @scanFailed _ corpus' _ accepted _ fails =>
    rw [Scan.ofConfig_source corpus'.unavailable?_store (Check.config_eq_ok accepted).1] at fails
    cases fails
  | @scanned _ corpus' _ s accepted described' starts ends =>
    obtain rfl : corpus' = corpus := by
      rw [described] at described'
      exact (Except.ok.inj described').symm
    rw [Scan.ofConfig_source corpus'.unavailable?_store (Check.config_eq_ok accepted).1] at starts
    obtain rfl := (Except.ok.inj starts).symm
    obtain ⟨-, rfl⟩ := Check.config_eq_ok_iff.mp accepted
    rw [ends.outcome, isOf.scans processors check.jobs s ends]
    rfl

/-! ## Checks in a world -/

/-- How a check leaves a world if it fails or succeeds cleanly, given whether its kind and its
corpus are accepted, the report that is due, and the time that the scan took. -/
structure Check.EndsCleanly (check : Check) (accepted : Prop) (report : Report)
    (duration : Duration) (w : World) (status : UInt32) (after : World) : Prop where
  /-- Success means that nothing is rejected and that the output file, if any, can be
  written. -/
  status : status = 0 ↔ accepted ∧ ∀ path, check.output? = some path → w.writable path = true
  /-- What is rejected leaves the world as it was. -/
  rejected : ¬ accepted → after = w
  /-- The whole report is printed, whether it can be saved or not. -/
  printed : accepted →
    (report.lasting duration).Shows check.format
      (CommandLine.printed check.format (report.lasting duration)) ∧
    after.stdout = w.stdout ++ CommandLine.printed check.format (report.lasting duration)
  /-- The report is saved in one form, however it is printed and whatever time it took. -/
  saved : accepted → ∀ path, check.output? = some path → w.writable path = true →
    report.IsSavedAs report.text ∧ after.files path = some report.text.toUTF8
  /-- Other files are left alone. -/
  others : ∀ path, check.output? ≠ some path → after.files path = w.files path

/-- Carrying out the answer with a report. -/
theorem Check.endsCleanly_answer {accepted : Prop} (holds : accepted) {report : Report}
    (w : World) (shows : (report.lasting duration).Shows check.format
      (printed check.format (report.lasting duration))) :
    let answer := check.answer (some (report.lasting duration))
    check.EndsCleanly accepted report duration w (answer.exitStatus w.writable)
      (w.after answer) := by
  intro answer
  have save : answer.save? = check.output?.map fun path => (path, report.text) := rfl
  refine ⟨?_, fun rejected => absurd holds rejected, ?_, ?_, ?_⟩
  · rw [and_iff_right holds, Answer.exitStatus, save]
    cases check.output? with
    | none => simp [answer, Check.answer]
    | some path => cases writable : w.writable path <;> simp [answer, Check.answer, writable]
  · exact fun _ => ⟨shows, World.stdout_after w answer⟩
  · intro _ path asked writable
    refine ⟨report.isSavedAs_text, World.files_after ?_ writable⟩
    rw [save, asked, Option.map_some]
  · intro path other
    apply World.files_after_of_ne
    rwa [save, Option.map_map, Function.comp_def, Option.map_id']

/-- Carrying out the answer to a check that is rejected. -/
theorem Check.endsCleanly_failure {accepted : Prop} (fails : ¬ accepted) (report : Report)
    (w : World) : check.EndsCleanly accepted report duration w
      (Answer.failure.exitStatus w.writable) (w.after .failure) := by
  have same : w.after .failure = w := by
    show { w with stdout := w.stdout ++ "" } = w
    rw [String.append_empty]
  refine ⟨?_, fun _ => same, fun holds => absurd holds fails, fun holds => absurd holds fails, ?_⟩
  · exact iff_of_false (by decide : ¬ (1 : UInt32) = 0) fun h => fails h.1
  · intro path _
    rw [same]

/-- **A check fails cleanly.**  For every kind and corpus file there is one report, that of the
corpus for this kind if they are accepted, such that the following holds of every check of
this kind, whatever its number of jobs, its format, its output file and its progress display
are, and on any number of processors.  If the kind and the corpus are accepted, then the scan
starts and every run of it comes to an end.  Carrying out any answer that the check may give,
in any world, ends cleanly with this report: with status zero exactly if the kind can be
checked, the file is a text that describes a corpus, and the output file, if there is one, can
be written; with the world as it was if the kind or the corpus is rejected; and otherwise with
the whole report printed in the form asked for, in which only the time that the scan took may
vary, and with its text in the output file if that can be written, and no other file
touched.  The program itself, run in a world that has the corpus file, carries out such an
answer. -/
theorem check_fails_cleanly (kind : String) (file? : Option ByteArray) :
    ∃ report : Report,
      (∀ corpus, Accepts kind file? corpus → report.IsOf corpus (Kind.ofText kind)) ∧
      ∀ check : Check, check.kind = kind →
        (∀ processors config corpus, check.config = .ok config → Corpus.ofFile file? = .ok corpus →
          ∃ su, Scan.Setup.ofConfig corpus.store.source corpus.stringTable.audio? processors
            config = .ok su ∧ su.AlwaysEnds) ∧
        (∀ processors duration answer, check.MayAnswer processors file? duration answer →
          ∀ w : World, let (status, after) := (answer.carryOut World.perform).run w
            check.EndsCleanly (Accepted kind file?) report duration w status after) ∧
        ∀ (args : List String) (w : World), Request.ofArguments args = .unused check →
          w.files check.corpus = file? →
          ∃ answer, check.MayAnswer 1 file? (Duration.ofNanos w.elapsed) answer ∧
            (program World.surroundings args).run w = (answer.carryOut World.perform).run w := by
  have exists_report : ∃ report : Report, ∀ corpus, Accepts kind file? corpus →
      report.IsOf corpus (Kind.ofText kind) := by
    by_cases accepted : Accepted kind file?
    · obtain ⟨corpus, accepts⟩ := accepted
      obtain ⟨report, isOf⟩ := Report.exists_isOf corpus (Kind.ofText kind)
      refine ⟨report, ?_⟩
      intro corpus' accepts'
      have described := Corpus.ofFile_eq_ok_iff.mpr accepts.2
      rw [Corpus.ofFile_eq_ok_iff.mpr accepts'.2] at described
      rw [Except.ok.inj described]
      exact isOf
    · exact ⟨⟨Kind.ofText kind, [], ScanStats.zero, Duration.zero⟩,
        fun corpus accepts => absurd ⟨corpus, accepts⟩ accepted⟩
  obtain ⟨report, isOf⟩ := exists_report
  refine ⟨report, isOf, ?_⟩
  rintro check rfl
  refine ⟨?_, ?_, ?_⟩
  · intro processors config corpus accepted described
    exact ⟨_, Scan.ofConfig_source corpus.unavailable?_store (Check.config_eq_ok accepted).1 _
      processors, Scan.Setup.alwaysEnds (Scan.one_le_effectiveConcurrency processors config)⟩
  · intro processors duration answer given w
    rw [World.run_carryOut]
    by_cases accepted : Accepted check.kind file?
    · have ⟨corpus, accepts⟩ := accepted
      obtain rfl := given.eq_answer accepts (isOf corpus accepts)
      have ⟨checkable, text, _, described⟩ := accepts
      exact Check.endsCleanly_answer accepted w
        ((isOf corpus accepts).shows_printed described checkable duration check.format)
    · obtain rfl := given.eq_failure accepted
      exact Check.endsCleanly_failure accepted report w
  · rintro args w asked rfl
    exact ⟨_, check.mayAnswer_report? 1 _ _, World.run_program asked w⟩

/-- The arguments that ask for the unused resources of a kind in a file, in this form. -/
def ringArgs (kind format : String) : List String :=
  ["unused", "--corpus", "corpus.json", "--kind", kind, "--jobs", "2", "--format", format,
    "--output", "rings.txt"]

/-- The check that they ask for. -/
def ringCheck (kind : String) (format : OutputFormat) : Check :=
  ⟨"corpus.json", kind, 2, format, some "rings.txt", false⟩

/-- A world that has the corpus of a ring in a file, and in which a scan takes five
milliseconds. -/
def ringWorld (writable : Bool) : World where
  stdout := ""
  files path := if path = "corpus.json" then some Report.ringJson.compact.toUTF8 else none
  writable _ := writable
  remains _ := none
  elapsed := 5000000

/-- What the report on the ring holds. -/
theorem eq_of_isOf_ring {report : Report} (isOf : report.IsOf Report.ringCorpus ⟨"ITM"⟩) :
    report = ⟨⟨"ITM"⟩, [⟨⟨"Ring", ⟨"ITM"⟩⟩, "\"Gold\"\nring"⟩], ⟨1, 1, 1, 0, 0, 0, 1⟩,
      Duration.zero⟩ := by
  obtain ⟨s, ends, found, stats⟩ := Report.ends_ring
  rw [isOf.scans 1 0 s ends, ← stats, ← Report.entries_ring found]
  rfl

/-- If the report on the ring cannot be saved, then the check fails, but has printed all of
it.  If it can be saved, then the file does not depend on the form of what is printed, which
is read back.  A kind that cannot be checked leaves the world alone. -/
theorem check_fails_cleanly_ring :
    (∃ status after,
      (program World.surroundings (ringArgs "itm" "text")).run (ringWorld false) = (status, after) ∧
      status ≠ 0 ∧ after.stdout = Report.ended ["", Report.rule, " 1 unused ITMs found",
        " 1 resources scanned, 1 candidates, 0 referenced, 1 failed to load in 5ms", Report.rule,
        "", "  Ring.ITM         \"Gold\"\nring", "",
        " 1 resource(s) could not be fully inspected; some entries may be in use"]) ∧
    (∃ after json,
      (program World.surroundings (ringArgs "itm" "json")).run (ringWorld true) = (0, after) ∧
      after.files "rings.txt" = some (Report.ended ["Result of ITM usage check",
        "Number of hits: 1", "File: Ring.ITM  Name: \"Gold\"\nring"]).toUTF8 ∧
      after.stdout = json ++ "\n" ∧ Report.ofText json = .ok ⟨⟨"ITM"⟩,
        [⟨⟨"Ring", ⟨"ITM"⟩⟩, "\"Gold\"\nring"⟩], ⟨1, 1, 1, 0, 0, 0, 1⟩,
        Duration.ofNanos 5000000⟩) ∧
    ∃ status, (program World.surroundings (ringArgs "xyz" "text")).run (ringWorld true) =
      (status, ringWorld true) ∧ status ≠ 0 := by
  -- the program is run in a world where the report can be saved or not
  have ends (kind form : String) (format : OutputFormat) (writable : Bool)
      (asked : Request.ofArguments (ringArgs kind form) = .unused (ringCheck kind format)) :
      ∃ report : Report,
        (∀ corpus, Accepts kind (some Report.ringJson.compact.toUTF8) corpus →
          report.IsOf corpus (Kind.ofText kind)) ∧
        ∃ status after,
          (program World.surroundings (ringArgs kind form)).run (ringWorld writable) =
            (status, after) ∧
          (ringCheck kind format).EndsCleanly
            (Accepted kind (some Report.ringJson.compact.toUTF8)) report
            (Duration.ofNanos 5000000) (ringWorld writable) status after := by
    obtain ⟨report, isOf, checks⟩ := check_fails_cleanly kind (some Report.ringJson.compact.toUTF8)
    obtain ⟨-, cleanly, runs⟩ := checks (ringCheck kind format) rfl
    obtain ⟨answer, given, run⟩ := runs _ (ringWorld writable) asked rfl
    have clean := cleanly _ _ _ given (ringWorld writable)
    exact ⟨report, isOf, _, _, run, clean⟩
  have accepts : Accepts "itm" (some Report.ringJson.compact.toUTF8) Report.ringCorpus :=
    ⟨by decide, _, rfl, Report.ofText_ring⟩
  refine ⟨?_, ?_, ?_⟩
  · obtain ⟨report, isOf, status, after, run, clean⟩ := ends "itm" "text" .text false
      (by decide +kernel)
    obtain rfl := eq_of_isOf_ring (isOf _ accepts)
    obtain ⟨shows, stdout⟩ := clean.printed ⟨_, accepts⟩
    generalize printed _ _ = text at shows stdout
    refine ⟨status, after, run, ?_, ?_⟩
    · intro success
      exact absurd ((clean.status.mp success).2 "rings.txt" rfl) (by decide)
    · rw [stdout]
      cases shows with
      | display display =>
        obtain ⟨headline, lines, headed, shown, rfl⟩ := display
        cases headed with
        | none empty => cases empty
        | some =>
          rcases shown with - | ⟨line, ⟨⟩⟩
          rcases line with unlabelled | ⟨blanks, labelled, rfl⟩
          · exact absurd unlabelled (by decide)
          · decide +kernel
  · obtain ⟨report, isOf, status, after, run, clean⟩ := ends "itm" "json" .json true
      (by decide +kernel)
    obtain rfl := eq_of_isOf_ring (isOf _ accepts)
    have success := clean.status.mpr ⟨⟨_, accepts⟩, fun _ _ => rfl⟩
    obtain ⟨saved, file⟩ := clean.saved ⟨_, accepts⟩ "rings.txt" rfl rfl
    obtain ⟨shows, stdout⟩ := clean.printed ⟨_, accepts⟩
    generalize printed _ _ = text at shows stdout
    cases shows with
    | json readBack =>
      refine ⟨after, _, ?_, ?_, stdout.trans String.empty_append, readBack ?_ ?_⟩
      · rw [run, success]
      · rw [file, saved]
        rfl
      · constructor <;> decide
      · decide
  · obtain ⟨report, -, status, after, run, clean⟩ := ends "xyz" "text" .text true
      (by decide +kernel)
    have rejected : ¬ Accepted "xyz" (some Report.ringJson.compact.toUTF8) := by
      rintro ⟨_, checkable, -⟩
      exact absurd checkable (by decide)
    rw [clean.rejected rejected] at run
    exact ⟨status, run, fun success => rejected (clean.status.mp success).1⟩

end CommandLine
end Unreferenced
