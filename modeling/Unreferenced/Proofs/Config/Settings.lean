import Unreferenced.Proofs.Config
import Unreferenced.Proofs.Json.Choice
import Unreferenced.Proofs.Scan.Call

/-!
# Configurations with the same settings

A configuration with some of its members given can be built, written down and read, and if only
the target is given it can be made from the target alone.  The three ways have their own checks
and defaults.  They come to the same configuration or to the same fault, whichever members are
given and in whatever order they are given and written, as long as the kinds among them are read
back from their texts (`three_ways_agree`).  A kind that is not stable is another one in a
configuration that is read, and a source that fails to list a kind may say what it likes, also
that the configuration is invalid (`three_ways_need_not_agree`).

The builder's choice, filled up with the defaults, is what putting the settings into the blank
record makes (`ConfigChoice.filled_chosen`).  So the reader, which does just this, reads the
filled choice, and the builder checks it (`ConfigChoice.build_of_target?`).
-/

namespace Unreferenced

open Json (Draft Entry Reader Record)

/-! ## Settings -/

/-- A kind given for a configuration: by a text that names it, or as a kind there is. -/
inductive GivenKind
  | named (text : String)
  | actual (kind : Kind)

namespace GivenKind

/-- The kind that a builder is given. -/
def kind : GivenKind → Kind
  | named text => Kind.ofText text
  | actual kind => kind

/-- The text that is written for the kind. -/
def written : GivenKind → String
  | named text => text
  | actual kind => kind.text

/-- The reader makes the kind that was given: a text always names the same kind, and a kind
there is has to be stable. -/
def IsReadBack : GivenKind → Prop
  | named _ => True
  | actual kind => kind.IsStable

instance : DecidablePred IsReadBack
  | named _ => inferInstanceAs (Decidable True)
  | actual kind => inferInstanceAs (Decidable kind.IsStable)

theorem isReadBack_iff {g : GivenKind} : g.IsReadBack ↔ Kind.ofText g.written = g.kind := by
  cases g with
  | named text => exact iff_of_true trivial rfl
  | actual kind => exact Iff.rfl

end GivenKind

/-- A member given for a configuration, with its value. -/
inductive Setting
  | target (kind : GivenKind)
  | scannable (kinds : List GivenKind)
  | concurrencyLimit (limit : UInt64)
  | progressInterval (interval : UInt64)
  | allowAnyTarget (allow : Bool)

namespace Setting

/-- The name of the member. -/
def name : Setting → String
  | target _ => "target_kind"
  | scannable _ => "scannable_kinds"
  | concurrencyLimit _ => "concurrency_limit"
  | progressInterval _ => "progress_interval"
  | allowAnyTarget _ => "allow_any_target"

/-- The kinds among the value. -/
def kinds : Setting → List GivenKind
  | target kind => [kind]
  | scannable kinds => kinds
  | _ => []

/-- The written form of the value. -/
def toJson : Setting → Json
  | target kind => .str kind.written
  | scannable kinds => .arr (kinds.map fun kind => .str kind.written)
  | concurrencyLimit limit => .nat limit.toNat
  | progressInterval interval => .nat interval.toNat
  | allowAnyTarget allow => .bool allow

/-- The configuration with the setting as it is read. -/
def put : Setting → Config → Config
  | target kind, c => { c with target := Kind.ofText kind.written }
  | scannable kinds, c => { c with scannable := kinds.map fun kind => Kind.ofText kind.written }
  | concurrencyLimit limit, c => { c with concurrencyLimit := limit.toNat }
  | progressInterval interval, c => { c with progressInterval := interval.toNat }
  | allowAnyTarget allow, c => { c with allowAnyTarget := allow }

/-- The choice with the setting chosen. -/
def choose : Setting → ConfigChoice → ConfigChoice
  | target kind, c => { c with target? := some kind.kind }
  | scannable kinds, c => { c with scannable? := some (kinds.map GivenKind.kind) }
  | concurrencyLimit limit, c => { c with concurrencyLimit? := some limit.toNat }
  | progressInterval interval, c => { c with progressInterval? := some interval.toNat }
  | allowAnyTarget allow, c => { c with allowAnyTarget? := some allow }

/-- The setting as it is written and read. -/
def entry (s : Setting) : Entry Config := ⟨s.name, Draft.ofJson s.toJson, s.put⟩

/-- Settings of different members can be put in either order. -/
theorem put_comm {s s' : Setting} (other : s.name ≠ s'.name) (c : Config) :
    s.put (s'.put c) = s'.put (s.put c) := by
  cases s <;> cases s' <;> first | exact absurd rfl other | rfl

/-- Settings of different members can be put in any order. -/
theorem foldl_put_of_perm {settings settings' : List Setting} (order : settings.Perm settings')
    (distinct : (settings.map name).Nodup) (c : Config) :
    settings.foldl (fun c s => s.put c) c = settings'.foldl (fun c s => s.put c) c := by
  refine order.foldl_eq' (fun s member s' member' c => ?_) c
  by_cases same : s.name = s'.name
  · rw [List.inj_on_of_nodup_map distinct member member' same]
  · exact (put_comm same c).symm

/-- Every setting is a member of the written form and reads as it is put. -/
theorem takes_entry (s : Setting) : Config.form.Takes s.entry := by
  cases s with
  | target kind =>
    refine ⟨_, .head _, rfl, fun c => ?_⟩
    exact Json.Member.must_read.mpr ⟨Kind.ofText kind.written, rfl, rfl⟩
  | scannable kinds =>
    have one (kind : GivenKind) (_ : kind ∈ kinds) :
        Reader.kind (Draft.ofJson (.str kind.written)) = .ok (Kind.ofText kind.written) := rfl
    refine ⟨_, .tail _ (.head _), rfl, fun c => ?_⟩
    exact Json.Member.may_read.mpr ⟨_, Reader.listOf_map_ofJson one, rfl⟩
  | concurrencyLimit limit =>
    refine ⟨_, .tail _ (.tail _ (.head _)), rfl, fun c => ?_⟩
    exact Json.Member.may_read.mpr ⟨_, Reader.count_ofJson limit.toNat_lt, rfl⟩
  | progressInterval interval =>
    refine ⟨_, .tail _ (.tail _ (.tail _ (.head _))), rfl, fun c => ?_⟩
    exact Json.Member.may_read.mpr ⟨_, Reader.count_ofJson interval.toNat_lt, rfl⟩
  | allowAnyTarget allow =>
    refine ⟨_, .tail _ (.tail _ (.tail _ (.tail _ (.head _)))), rfl, fun c => ?_⟩
    exact Json.Member.may_read.mpr ⟨allow, rfl, rfl⟩

end Setting

/-! ## Building -/

namespace ConfigChoice

variable {settings : List Setting}

/-- The choice that a builder has after these settings. -/
def chosen (settings : List Setting) : ConfigChoice :=
  settings.foldl (fun c s => s.choose c) none

/-- The configuration with the chosen members and the defaults of the others; a target that is
not chosen has no name. -/
def filled (c : ConfigChoice) : Config :=
  ⟨c.target?.getD ⟨""⟩, c.scannable?.getD Kind.scannable, c.concurrencyLimit?.getD 0,
    c.progressInterval?.getD Config.defaultInterval, c.allowAnyTarget?.getD false⟩

/-- Filling up a choice is putting its settings into the blank record, if their kinds are read
back. -/
theorem filled_chosen (readBack : ∀ s ∈ settings, ∀ kind ∈ s.kinds, kind.IsReadBack) :
    (chosen settings).filled = settings.foldl (fun c s => s.put c) Config.form.blank := by
  have general (choice : ConfigChoice) : (settings.foldl (fun c s => s.choose c) choice).filled =
      settings.foldl (fun c s => s.put c) choice.filled := by
    induction settings generalizing choice with
    | nil => rfl
    | cons s settings ih =>
      obtain ⟨first, others⟩ := List.forall_mem_cons.mp readBack
      rw [List.foldl_cons, List.foldl_cons, ih others]
      congr 1
      cases s with
      | target kind =>
        have same := GivenKind.isReadBack_iff.mp (first kind List.mem_cons_self)
        rw [Setting.put, same]
        rfl
      | scannable kinds =>
        have same : (kinds.map fun kind => Kind.ofText kind.written) = kinds.map GivenKind.kind :=
          List.map_congr_left fun kind member => GivenKind.isReadBack_iff.mp (first kind member)
        rw [Setting.put, same]
        rfl
      | _ => rfl
  exact general none

/-- The checks look at the target, at the leave for any kind and at how many kinds there are to
inspect.  So they find the same fault in a filled choice and in what is read, if the target is
read back. -/
theorem check_filled_chosen (readBack : ∀ kind, .target kind ∈ settings → kind.IsReadBack) :
    (chosen settings).filled.check =
      (settings.foldl (fun c s => s.put c) Config.form.blank).check := by
  have general (choice : ConfigChoice) (c : Config) (target : choice.filled.target = c.target)
      (allow : choice.filled.allowAnyTarget = c.allowAnyTarget)
      (kinds : choice.filled.scannable.isEmpty = c.scannable.isEmpty) :
      (settings.foldl (fun c s => s.choose c) choice).filled.check =
        (settings.foldl (fun c s => s.put c) c).check := by
    induction settings generalizing choice c with
    | nil =>
      unfold Config.check Config.checkScannable
      rw [List.foldl_nil, List.foldl_nil, target, allow, kinds]
    | cons s settings ih =>
      have others (kind : GivenKind) (member : .target kind ∈ settings) : kind.IsReadBack :=
        readBack kind (List.mem_cons_of_mem _ member)
      rw [List.foldl_cons, List.foldl_cons]
      cases s with
      | target kind =>
        have same := GivenKind.isReadBack_iff.mp (readBack kind List.mem_cons_self)
        exact ih others _ _ same.symm allow kinds
      | scannable given =>
        refine ih others _ _ target allow ?_
        show (given.map GivenKind.kind).isEmpty = (given.map _).isEmpty
        rw [List.isEmpty_map, List.isEmpty_map]
      | concurrencyLimit limit => exact ih others _ _ target allow kinds
      | progressInterval interval => exact ih others _ _ target allow kinds
      | allowAnyTarget allowed => exact ih others _ _ target rfl kinds
  exact general none Config.form.blank rfl rfl rfl

/-- A target is chosen exactly if it is among the settings. -/
theorem isSome_target?_chosen (settings : List Setting) :
    (chosen settings).target?.isSome = true ↔ ∃ kind, .target kind ∈ settings := by
  have general (choice : ConfigChoice) :
      (settings.foldl (fun c s => s.choose c) choice).target?.isSome = true ↔
        choice.target?.isSome = true ∨ ∃ kind, .target kind ∈ settings := by
    induction settings generalizing choice with
    | nil => simp
    | cons s settings ih =>
      rw [List.foldl_cons, ih]
      cases s <;> simp [Setting.choose]
  exact (general none).trans (or_iff_right nofun)

/-- A builder without a target fails. -/
theorem build_of_target?_none {c : ConfigChoice} (missing : c.target? = .none) :
    c.build = .error .noTarget := by
  rw [build, missing]
  rfl

/-- A builder with a target checks the filled choice: its default of the kinds to inspect, which
it does not check, is not empty. -/
theorem build_of_target? {c : ConfigChoice} (given : c.target?.isSome = true) :
    c.build = c.filled.check.map fun _ => c.filled := by
  obtain ⟨target?, scannable?, limit?, interval?, allow?⟩ := c
  obtain ⟨kind, rfl⟩ := Option.isSome_iff_exists.mp given
  simp only [build, Config.check, filled, Option.getD_some, pure_bind]
  cases Config.checkTarget kind (allow?.getD false) with
  | error fault => rfl
  | ok =>
    cases scannable? with
    | none => rfl
    | some kinds =>
      simp only [Option.getD_some]
      cases Config.checkScannable kinds <;> rfl

/-- A builder with a target builds the filled choice, which then passes the checks, or fails for
the reason for which the filled choice does not pass them. -/
theorem build_or_fault {c : ConfigChoice} (given : c.target?.isSome = true) :
    (c.build = .ok c.filled ∧ c.filled.check = .ok ()) ∨
      ∃ fault, c.build = .error fault ∧ c.filled.check = .error fault := by
  rw [build_of_target? given]
  cases c.filled.check with
  | ok => exact .inl ⟨rfl, rfl⟩
  | error fault => exact .inr ⟨fault, rfl, rfl⟩

end ConfigChoice

/-! ## Reading -/

namespace Config

/-- The settings that a text gives, in some order and no others, as the members of an object or
as the first items of an array. -/
def IsGivenBy (settings : List Setting) (text : String) : Prop :=
  ∃ (d : Draft) (written : List Setting), Draft.ofChars text.toList = (d, []) ∧
    written.Perm settings ∧ form.Gives (written.map Setting.entry) d

variable {settings : List Setting}

/-- Any settings are given by some text. -/
theorem exists_isGivenBy (settings : List Setting) : ∃ text, IsGivenBy settings text := by
  refine ⟨(Json.obj (settings.map fun s => (s.name, s.toJson))).compact, _, settings,
    Draft.ofChars_of_tokens (Json.tokens_compact _), .refl _, ?_⟩
  rw [Draft.ofJson, Draft.ofMembers_eq_map, List.map_map]
  have listed := Record.lists_self form (settings.map Setting.entry)
  rw [List.map_map] at listed
  exact .object listed

/-- Of the members only the target is required. -/
theorem isComplete_names_iff :
    Record.isComplete form.members (settings.map Setting.name) = true ↔
      ∃ kind, .target kind ∈ settings := by
  have required : Record.isComplete form.members (settings.map Setting.name) =
      (settings.map Setting.name).contains "target_kind" := by
    simp [Record.isComplete, form, Json.Member.must, Json.Member.may]
  rw [required, List.contains_iff_mem, List.mem_map]
  constructor
  · rintro ⟨s, member, named⟩
    cases s with
    | target kind => exact ⟨kind, member⟩
    | _ => simp [Setting.name] at named
  · rintro ⟨kind, member⟩
    exact ⟨_, member, rfl⟩

/-- A text is read as the blank record with the settings that it gives, if the target is among
them. -/
theorem ofText_of_isGivenBy (distinct : (settings.map Setting.name).Nodup) {text : String}
    (given : IsGivenBy settings text) :
    ofText text =
      if (ConfigChoice.chosen settings).target?.isSome then
        .ok (settings.foldl (fun c s => s.put c) form.blank)
      else .error .malformed := by
  obtain ⟨d, written, drafted, order, gives⟩ := given
  have names : (form.members.map Json.Member.name).Nodup := by decide
  have entryNames : (written.map Setting.entry).map Entry.name = written.map Setting.name := by
    rw [List.map_map]
    rfl
  have distinct' : (written.map Setting.name).Nodup := (order.map _).nodup_iff.mpr distinct
  have taken : ∀ e ∈ written.map Setting.entry, form.Takes e := by
    intro e member
    obtain ⟨s, -, rfl⟩ := List.mem_map.mp member
    exact s.takes_entry
  have complete : Record.isComplete form.members (written.map Setting.name) =
      (ConfigChoice.chosen settings).target?.isSome := by
    rw [Bool.eq_iff_iff, ConfigChoice.isSome_target?_chosen, isComplete_names_iff]
    simp only [order.mem_iff]
  rw [ofText, Reader.run_of_draft _ drafted,
    gives.read rfl names taken (entryNames ▸ distinct'), entryNames, complete, List.foldl_map,
    ← Setting.foldl_put_of_perm order distinct']
  rfl

/-! ## The three ways -/

/-- Configurations made from the same settings agree.

Some text gives any settings.  If the target is among them, then all texts that give them are
read as one configuration.  If the builder succeeds, what it builds is this configuration, if
all kinds among the settings are read back; it is the one with all defaults if the target is
the only setting; and it is valid, so that a call for it answers that it is invalid only if that
is the error with which the source fails to list one of its kinds.  If the builder fails and the
target is read back, the configuration that is read is not valid, with the fault that the builder
found.

Without a target the builder fails, and no text is read. -/
theorem three_ways_agree (settings : List Setting) (distinct : (settings.map Setting.name).Nodup) :
    (∃ text, IsGivenBy settings text) ∧
    ((∃ kind, .target kind ∈ settings) → ∃ c : Config,
      (∀ text, IsGivenBy settings text → ofText text = .ok c) ∧
      (∀ built, (ConfigChoice.chosen settings).build = .ok built →
        ((∀ s ∈ settings, ∀ kind ∈ s.kinds, kind.IsReadBack) → built = c) ∧
        (∀ kind, settings = [.target kind] → built = forTarget kind.kind) ∧
        built.validate = .ok () ∧
        ∀ (sc : Scan.Scanner) cancelled actions call,
          (Scan.Call.initial cancelled).follow sc built actions = some call →
          ∀ reason, call.result? = some (.error (.invalidConfig reason)) →
            ∃ kind ∈ built.scannable ++ [built.target],
              sc.source.list kind = .error (.invalidConfig reason)) ∧
      ∀ fault, (ConfigChoice.chosen settings).build = .error fault →
        (∀ kind, .target kind ∈ settings → kind.IsReadBack) →
        c.validate = .error (.invalidConfig fault.message)) ∧
    ((¬∃ kind, .target kind ∈ settings) →
      (ConfigChoice.chosen settings).build = .error .noTarget ∧
      ∀ text, IsGivenBy settings text → ofText text = .error .malformed) := by
  refine ⟨exists_isGivenBy settings, fun target => ?_, fun missing => ?_⟩
  · have given := (ConfigChoice.isSome_target?_chosen settings).mpr target
    refine ⟨settings.foldl (fun c s => s.put c) form.blank, fun text written => ?_, ?_, ?_⟩
    · rw [ofText_of_isGivenBy distinct written, if_pos given]
    · intro built success
      rcases ConfigChoice.build_or_fault given with ⟨filled, passed⟩ | ⟨fault, unbuilt, -⟩
      · rw [filled] at success
        obtain rfl := Except.ok.inj success
        have valid : (ConfigChoice.chosen settings).filled.validate = .ok () := by
          rw [validate, passed]
        refine ⟨ConfigChoice.filled_chosen, ?_, valid, ?_⟩
        · rintro kind rfl
          rfl
        · intro sc cancelled actions call run reason ended
          exact Scan.Call.exists_unlisted run valid ended
      · rw [unbuilt] at success
        cases success
    · intro fault failure readBack
      rcases ConfigChoice.build_or_fault given with ⟨filled, -⟩ | ⟨fault', unbuilt, found⟩
      · rw [filled] at failure
        cases failure
      · rw [unbuilt] at failure
        obtain rfl := Except.error.inj failure
        rw [validate, ← ConfigChoice.check_filled_chosen readBack, found]
  · have absent : (ConfigChoice.chosen settings).target?.isSome = false := by
      rw [← Bool.not_eq_true, ConfigChoice.isSome_target?_chosen]
      exact missing
    refine ⟨ConfigChoice.build_of_target?_none (by simpa using absent), fun text written => ?_⟩
    rw [ofText_of_isGivenBy distinct written, absent]
    rfl

/-- Items are checked with all defaults.  Of a target that cannot be checked and no kinds to
inspect, the builder and the check after reading both report the target.  A scan of creatures
for sounds, with kinds as they are, answers that the configuration is invalid where the source
says so of the creatures. -/
theorem three_ways_agree_item_table :
    let items : List Setting := [.target (.named ".itm")]
    let nothing : List Setting := [.scannable [], .target (.named "2da")]
    let sounds : List Setting := [.target (.actual ⟨"WAV"⟩), .scannable [.actual ⟨"CRE"⟩]]
    let source : Source :=
      ⟨fun k => if k.text = "CRE" then .error (.invalidConfig "no index") else .ok [],
        fun id => .error (.notFound id), fun _ => none⟩
    let refused : Scan.Call := ⟨.refused (.invalidConfig "no index"), true, [⟨"CRE"⟩]⟩
    ((items.map Setting.name).Nodup ∧
      ∃ text, IsGivenBy items text ∧ ofText text = .ok (forTarget ⟨"ITM"⟩) ∧
        (forTarget ⟨"ITM"⟩).validate = .ok ()) ∧
    ((nothing.map Setting.name).Nodup ∧
      ∃ text c, IsGivenBy nothing text ∧ ofText text = .ok c ∧
        c.validate = .error (.invalidConfig "2DA is not a checkable resource kind")) ∧
    (sounds.map Setting.name).Nodup ∧
      ∃ text c, IsGivenBy sounds text ∧ ofText text = .ok c ∧ c.validate = .ok () ∧
        (Scan.Call.initial true).follow (.fresh source (fun _ => none) 1) c
          [.dispatch, .dispatch] = some refused ∧
        ∃ kind ∈ c.scannable ++ [c.target],
          source.list kind = .error (.invalidConfig "no index") := by
  intro items nothing sounds source refused
  refine ⟨?_, ?_, ?_⟩
  · have distinct : (items.map Setting.name).Nodup := by decide
    obtain ⟨⟨text, given⟩, reads, -⟩ := three_ways_agree items distinct
    obtain ⟨c, all, succeeds, -⟩ := reads ⟨_, List.mem_cons_self⟩
    have readBack : ∀ s ∈ items, ∀ kind ∈ s.kinds, kind.IsReadBack := by decide
    have built : (ConfigChoice.chosen items).build = .ok (forTarget ⟨"ITM"⟩) := by decide
    obtain ⟨same, -, valid, -⟩ := succeeds _ built
    exact ⟨distinct, text, given, same readBack ▸ all text given, valid⟩
  · have distinct : (nothing.map Setting.name).Nodup := by decide
    obtain ⟨⟨text, given⟩, reads, -⟩ := three_ways_agree nothing distinct
    obtain ⟨c, all, -, fails⟩ := reads ⟨_, .tail _ (.head _)⟩
    have readBack : ∀ kind, Setting.target kind ∈ nothing → kind.IsReadBack := by
      simp [nothing, GivenKind.IsReadBack]
    have unbuilt : (ConfigChoice.chosen nothing).build = .error (.notCheckable ⟨"2DA"⟩) := by
      decide
    refine ⟨distinct, text, c, given, all text given, ?_⟩
    rw [fails _ unbuilt readBack]
    decide
  · have distinct : (sounds.map Setting.name).Nodup := by decide
    obtain ⟨⟨text, given⟩, reads, -⟩ := three_ways_agree sounds distinct
    obtain ⟨c, all, succeeds, -⟩ := reads ⟨_, List.mem_cons_self⟩
    have readBack : ∀ s ∈ sounds, ∀ kind ∈ s.kinds, kind.IsReadBack := by decide
    have built : (ConfigChoice.chosen sounds).build =
        .ok { forTarget ⟨"WAV"⟩ with scannable := [⟨"CRE"⟩] } := by decide
    obtain ⟨same, -, valid, run⟩ := succeeds _ built
    obtain rfl := same readBack
    have followed : (Scan.Call.initial true).follow (.fresh source (fun _ => none) 1)
        { forTarget ⟨"WAV"⟩ with scannable := [⟨"CRE"⟩] } [.dispatch, .dispatch] =
          some refused := rfl
    exact ⟨distinct, text, _, given, all text given, valid, followed,
      run _ _ _ _ followed _ rfl⟩

/-- The kind that ". .itm" names is another one in a configuration that is read, which may be
valid where the builder finds a fault.  And a call for a configuration that was built answers
that it is invalid where this is the error of the source. -/
theorem three_ways_need_not_agree :
    let items : List Setting := [.target (.actual (Kind.ofText ". .itm"))]
    let source : Source :=
      ⟨fun _ => .error (.invalidConfig "no index"), fun id => .error (.notFound id), fun _ => none⟩
    ((ConfigChoice.chosen (.allowAnyTarget true :: items)).build =
        .ok { forTarget ⟨" .ITM"⟩ with allowAnyTarget := true } ∧
      ∃ text, IsGivenBy (.allowAnyTarget true :: items) text ∧
        ofText text = .ok { forTarget ⟨"ITM"⟩ with allowAnyTarget := true }) ∧
    ((ConfigChoice.chosen items).build = .error (.notCheckable ⟨" .ITM"⟩) ∧
      ∃ text, IsGivenBy items text ∧ ofText text = .ok (forTarget ⟨"ITM"⟩) ∧
        (forTarget ⟨"ITM"⟩).validate = .ok ()) ∧
    (ConfigChoice.chosen [.target (.named "itm")]).build = .ok (forTarget ⟨"ITM"⟩) ∧
      ∃ call, (Scan.Call.initial false).follow (.fresh source (fun _ => none) 1)
          (forTarget ⟨"ITM"⟩) [.dispatch, .dispatch] = some call ∧
        call.result? = some (.error (.invalidConfig "no index")) := by
  intro items source
  refine ⟨⟨by decide, ?_⟩, ⟨by decide, ?_⟩, by decide, _, rfl, rfl⟩
  · obtain ⟨text, given⟩ := exists_isGivenBy (.allowAnyTarget true :: items)
    refine ⟨text, given, ?_⟩
    rw [ofText_of_isGivenBy (by decide) given]
    decide
  · obtain ⟨text, given⟩ := exists_isGivenBy items
    refine ⟨text, given, ?_, by decide⟩
    rw [ofText_of_isGivenBy (by decide) given]
    decide

end Config
end Unreferenced
