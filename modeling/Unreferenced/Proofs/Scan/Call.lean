import Unreferenced.Proofs.Scan.Completed
import Unreferenced.Scan.Call

/-!
# Calls that fail

A call fails before its scan starts, or not at all.  Wherever a call stands, its stage and the
listings that it has asked for tell what the source and the configuration are like
(`Call.Stands`, kept by every step).  It is refused with the first cause there is, before any
load and any event, and once the scan machine runs it returns what the machine comes to
(`fails_only_before_start`).

A call is finite: a step takes up some of the listings that are left or of the work of the
machine (`Call.Stands.remaining_step`), and the program's own scan is one of the calls
(`Call.exists_follow_run`).
-/

namespace Unreferenced

/-! ## Listings -/

/-- What is listed of a kind, if the listing succeeds. -/
def Source.listing (source : Source) (kind : Kind) : List Identity :=
  match source.list kind with
  | .ok listing => listing
  | .error _ => []

theorem Source.list_eq_ok_listing {source : Source} {kind : Kind} {listing : List Identity}
    (h : source.list kind = .ok listing) : source.listing kind = listing := by
  rw [Source.listing, h]

/-- Of several failures the first one counts. -/
theorem mapM_eq_error {α β ε : Type} {f : α → Except ε β} {before : List α} {x : α} {e : ε}
    (succeed : ∀ y ∈ before, ∃ z, f y = .ok z) (fails : f x = .error e) (after : List α) :
    (before ++ x :: after).mapM f = .error e := by
  induction before with
  | nil =>
    rw [List.nil_append, List.mapM_cons, fails]
    rfl
  | cons y before ih =>
    obtain ⟨z, first⟩ := succeed y List.mem_cons_self
    rw [List.cons_append, List.mapM_cons, first,
      ih fun y member => succeed y (List.mem_cons_of_mem _ member)]
    rfl

namespace Scan

/-- Why a call is refused: the kinds that it asks for until then, and the error.  The
configuration is not valid, or some kind cannot be listed and those before it can. -/
inductive Refuses (source : Source) (config : Config) : List Kind → ScanError → Prop
  | invalid {e : ScanError} (invalid : config.validate = .error e) : Refuses source config [] e
  | unlisted {before after : List Kind} {kind : Kind} {e : ScanError}
      (valid : config.validate = .ok ())
      (order : config.scannable ++ [config.target] = before ++ kind :: after)
      (listed : ∀ k ∈ before, ∃ listing, source.list k = .ok listing)
      (fails : source.list kind = .error e) : Refuses source config (before ++ [kind]) e

variable {source : Source} {config : Config} {asked : List Kind} {e : ScanError}

/-- There is a cause exactly if something is wrong with the configuration or a listing. -/
theorem exists_refuses_iff : (∃ asked e, Refuses source config asked e) ↔
    (∃ e, config.validate = .error e) ∨
      ∃ kind ∈ config.scannable ++ [config.target], ∃ e, source.list kind = .error e := by
  constructor
  · rintro ⟨_, e, invalid | ⟨-, order, -, fails⟩⟩
    · exact .inl ⟨e, invalid⟩
    · refine .inr ⟨_, ?_, e, fails⟩
      rw [order]
      exact List.mem_append_right _ List.mem_cons_self
  · cases valid : config.validate with
    | error e => exact fun _ => ⟨[], e, .invalid valid⟩
    | ok =>
      rintro (⟨e, ⟨⟩⟩ | ⟨kind, member, e, fails⟩)
      cases found : (config.scannable ++ [config.target]).find? fun k => !(source.list k).isOk with
      | none =>
        have listed := List.find?_eq_none.mp found kind member
        rw [fails] at listed
        exact absurd rfl listed
      | some first =>
        obtain ⟨unlisted, before, after, order, listed⟩ := List.find?_eq_some_iff_append.mp found
        obtain ⟨e, fails⟩ : ∃ e, source.list first = .error e := by
          cases answer : source.list first with
          | ok l => rw [answer] at unlisted; cases unlisted
          | error e => exact ⟨e, rfl⟩
        refine ⟨_, e, .unlisted valid order ?_ fails⟩
        intro k earlier
        cases answer : source.list k with
        | ok l => exact ⟨l, rfl⟩
        | error e =>
          have := listed k earlier
          rw [answer] at this
          cases this

/-- A scan that has a cause to be refused does not start, and the cause is the reason. -/
theorem Refuses.ofConfig_eq (h : Refuses source config asked e) (audio : Int32 → Option String)
    (processors : Nat) (compiler : Script.Compiler) :
    Setup.ofConfig source audio processors config compiler = .error e := by
  rw [Setup.ofConfig]
  cases h with
  | invalid invalid =>
    rw [invalid]
    rfl
  | @unlisted before after kind _ valid order listed fails =>
    have all := mapM_eq_error listed fails after
    rw [← order, List.mapM_append, List.mapM_cons, List.mapM_nil] at all
    rw [valid]
    cases listings : config.scannable.mapM source.list with
    | error e' =>
      rw [listings] at all
      cases all
      rfl
    | ok ls =>
      cases targets : source.list config.target with
      | error e' =>
        rw [listings, targets] at all
        cases all
        rfl
      | ok ts =>
        rw [listings, targets] at all
        cases all

/-- A scan has one cause to be refused only. -/
theorem Refuses.unique {asked' : List Kind} {e' : ScanError} (h : Refuses source config asked e)
    (h' : Refuses source config asked' e') : e = e' := by
  have same := h.ofConfig_eq (fun _ => none) 1 Script.literal
  rw [h'.ofConfig_eq] at same
  exact (Except.error.inj same).symm

/-- With a valid configuration the cause is a listing. -/
theorem Refuses.exists_unlisted (h : Refuses source config asked e)
    (valid : config.validate = .ok ()) :
    ∃ kind ∈ config.scannable ++ [config.target], source.list kind = .error e := by
  cases h with
  | invalid invalid =>
    rw [valid] at invalid
    cases invalid
  | @unlisted _ _ kind _ _ order _ fails =>
    refine ⟨kind, ?_, fails⟩
    rw [order]
    exact List.mem_append_right _ List.mem_cons_self

/-! ## Where a call stands -/

namespace Call

variable {sc : Scanner} {c after : Call}

/-- Where a call may stand, stage by stage. -/
inductive Stands (sc : Scanner) (config : Config) : Call → Prop
  | called (cancelled : Bool) : Stands sc config ⟨.called, cancelled, []⟩
  | listing {asked rest : List Kind} (cancelled : Bool) (valid : config.validate = .ok ())
      (order : config.scannable = asked ++ rest)
      (listed : ∀ k ∈ asked, sc.source.list k = .ok (sc.source.listing k)) :
      Stands sc config ⟨.listing rest (asked.flatMap sc.source.listing), cancelled, asked⟩
  | started {su : Setup} {s : State} {actions : List Action} (cancelled : Bool)
      (starts : Setup.ofConfig sc.source sc.audio sc.processors config sc.compiler = .ok su)
      (run : Scan.follow su (State.initial su cancelled) actions = some s) :
      Stands sc config ⟨.started su s, cancelled, config.scannable ++ [config.target]⟩
  | refused {asked : List Kind} {e : ScanError} (cancelled : Bool)
      (refuses : Refuses sc.source config asked e) : Stands sc config ⟨.refused e, cancelled, asked⟩

/-- What a step of a call can do: the machine takes it, the call goes on to the machine, or the
token is cancelled before the machine runs. -/
theorem step_cases {a : Action} (taken : c.step sc config a = some after) :
    (∃ su s s', c.stage = .started su s ∧ Scan.step su s a = some s' ∧
      after = { c with stage := .started su s' }) ∨
    (a = .dispatch ∧ c.begin? sc config = some after) ∨
    (a = .cancel ∧ c.cancelled = false ∧ (∀ su s, c.stage ≠ .started su s) ∧
      after = { c with cancelled := true }) := by
  unfold Call.step at taken
  split at taken
  · next su s stage =>
    obtain ⟨s', moved, rfl⟩ := Option.map_eq_some_iff.mp taken
    exact .inl ⟨su, s, s', stage, moved, rfl⟩
  · exact .inr (.inl ⟨rfl, taken⟩)
  · next waiting =>
    cases active : c.cancelled with
    | false =>
      rw [active] at taken
      cases taken
      exact .inr (.inr ⟨rfl, rfl, waiting, rfl⟩)
    | true =>
      rw [active] at taken
      cases taken
  · cases taken

/-- Before the machine runs, the dispatcher brings the call on. -/
theorem step_dispatch (sc : Scanner) (config : Config)
    (waiting : ∀ su s, c.stage ≠ .started su s) :
    c.step sc config .dispatch = c.begin? sc config := by
  unfold Call.step
  split
  · next su s stage => exact absurd stage (waiting su s)
  all_goals first | rfl | contradiction

/-- Once it runs, the machine takes the steps of the call. -/
theorem step_started (sc : Scanner) (config : Config) (su : Setup) (s : State) (cancelled : Bool)
    (asked : List Kind) (a : Action) :
    Call.step sc config ⟨.started su s, cancelled, asked⟩ a =
      (Scan.step su s a).map fun s => ⟨.started su s, cancelled, asked⟩ := by
  unfold Call.step
  rfl

/-- One more listing brings a call on, or the call is refused. -/
theorem Stands.list {kind : Kind} {next : List Identity → Stage} (valid : config.validate = .ok ())
    (rest : List Kind) (order : config.scannable ++ [config.target] = c.asked ++ kind :: rest)
    (listed : ∀ k ∈ c.asked, sc.source.list k = .ok (sc.source.listing k))
    (goesOn : sc.source.list kind = .ok (sc.source.listing kind) →
      Stands sc config ⟨next (sc.source.listing kind), c.cancelled, c.asked ++ [kind]⟩) :
    Stands sc config (c.list sc kind next) := by
  unfold Call.list
  cases answer : sc.source.list kind with
  | ok listing =>
    obtain rfl := Source.list_eq_ok_listing answer
    exact goesOn answer
  | error e =>
    refine .refused c.cancelled (.unlisted valid order ?_ answer)
    intro k earlier
    exact ⟨_, listed k earlier⟩

/-- Before the machine runs, a step brings the call on. -/
theorem Stands.begin? (h : Stands sc config c) (taken : c.begin? sc config = some after) :
    Stands sc config after := by
  cases h with
  | called cancelled =>
    unfold Call.begin? at taken
    cases valid : config.validate with
    | ok =>
      simp only [valid, Option.some.injEq] at taken
      rw [← taken]
      exact .listing cancelled valid (List.nil_append _).symm (by simp)
    | error e =>
      simp only [valid, Option.some.injEq] at taken
      rw [← taken]
      exact .refused cancelled (.invalid valid)
  | @listing asked rest cancelled valid order listed =>
    have further {kind : Kind} (answer : sc.source.list kind = .ok (sc.source.listing kind)) :
        ∀ k ∈ asked ++ [kind], sc.source.list k = .ok (sc.source.listing k) := by
      intro k member
      rcases List.mem_append.mp member with earlier | last
      · exact listed k earlier
      · rw [List.mem_singleton.mp last]
        exact answer
    cases rest with
    | cons kind rest =>
      cases taken
      refine .list valid (rest ++ [config.target]) (by simp [order]) listed ?_
      intro answer
      have order' : config.scannable = (asked ++ [kind]) ++ rest := by simp [order]
      have stands := Stands.listing cancelled valid order' (further answer)
      rwa [List.flatMap_append, List.flatMap_singleton] at stands
    | nil =>
      cases taken
      rw [List.append_nil] at order
      refine .list valid [] (by rw [order]) listed ?_
      intro answer
      rw [← order] at listed ⊢
      have starts := ofConfig_eq_ok valid listed answer sc.audio sc.processors sc.compiler
      exact @started _ _ _ _ [] cancelled starts rfl
  | started => cases taken
  | refused => cases taken

/-- Every step of a call keeps where it may stand. -/
theorem Stands.step {a : Action} (h : Stands sc config c)
    (taken : c.step sc config a = some after) : Stands sc config after := by
  rcases step_cases taken with ⟨su, s, s', stage, moved, rfl⟩ | ⟨-, taken⟩ | ⟨-, -, waiting, rfl⟩
  · cases h with
    | @started _ _ actions cancelled starts run =>
      cases stage
      refine @started _ _ su s' (actions ++ [a]) cancelled starts ?_
      rw [follow_append, run, Option.bind_some, follow_cons, moved]
      rfl
    | _ => cases stage
  · exact h.begin? taken
  · cases h with
    | called => exact .called true
    | listing _ valid order listed => exact .listing true valid order listed
    | started => exact absurd rfl (waiting _ _)
    | refused _ refuses => exact .refused true refuses

theorem Stands.follow {actions : List Action} (h : Stands sc config c)
    (run : c.follow sc config actions = some after) : Stands sc config after := by
  induction actions generalizing c with
  | nil =>
    cases run
    exact h
  | cons a rest ih =>
    obtain ⟨mid, first, run⟩ := Option.bind_eq_some_iff.mp run
    exact ih (h.step first) run

/-! ## Coming to an end -/

/-- A bound on the steps of the machine, if it comes to run and the token is cancelled. -/
def work (sc : Scanner) (config : Config) : Nat :=
  match Setup.ofConfig sc.source sc.audio sc.processors config sc.compiler with
  | .ok su => Scan.remaining su (State.initial su true)
  | .error _ => 0

/-- A bound on the steps that a call still takes. -/
def remaining (sc : Scanner) (config : Config) (c : Call) : Nat :=
  match c.stage with
  | .called => config.scannable.length + 3 + work sc config + if c.cancelled then 0 else 1
  | .listing rest _ => rest.length + 2 + work sc config + if c.cancelled then 0 else 1
  | .started su s => Scan.remaining su s
  | .refused _ => if c.cancelled then 0 else 1

/-- Before the machine runs, a step takes up one of the listings or the check. -/
theorem Stands.remaining_begin? (h : Stands sc config c)
    (taken : c.begin? sc config = some after) :
    after.remaining sc config < c.remaining sc config := by
  cases h with
  | called cancelled =>
    unfold Call.begin? at taken
    cases valid : config.validate with
    | ok =>
      simp only [valid, Option.some.injEq] at taken
      rw [← taken]
      simp only [remaining]
      omega
    | error e =>
      simp only [valid, Option.some.injEq] at taken
      rw [← taken]
      simp only [remaining]
      omega
  | @listing asked rest cancelled valid order listed =>
    cases rest with
    | cons kind rest =>
      cases taken
      cases answer : sc.source.list kind with
      | ok listing =>
        simp only [Call.list, answer, remaining, List.length_cons]
        omega
      | error e =>
        simp only [Call.list, answer, remaining]
        omega
    | nil =>
      cases taken
      cases answer : sc.source.list config.target with
      | ok targets =>
        rw [List.append_nil] at order
        subst order
        have starts := ofConfig_eq_ok valid listed answer sc.audio sc.processors sc.compiler
        simp only [Call.list, answer, remaining, work, starts, Scan.remaining, Scanner.setup,
          State.initial]
        simp only [if_true]
        omega
      | error e =>
        simp only [Call.list, answer, remaining]
        omega
  | started => cases taken
  | refused => cases taken

/-- Every step of a call takes up some of what remains. -/
theorem Stands.remaining_step {a : Action} (h : Stands sc config c)
    (taken : c.step sc config a = some after) :
    after.remaining sc config < c.remaining sc config := by
  rcases step_cases taken with ⟨su, s, s', stage, moved, rfl⟩ | ⟨-, taken⟩ |
    ⟨-, active, waiting, rfl⟩
  · have less := Scan.remaining_step moved
    simpa only [remaining, stage] using less
  · exact h.remaining_begin? taken
  · cases stage : c.stage with
    | started su s => exact absurd stage (waiting su s)
    | _ => simp [remaining, stage, active]

theorem Stands.length_le {actions : List Action} (h : Stands sc config c)
    (run : c.follow sc config actions = some after) :
    actions.length + after.remaining sc config ≤ c.remaining sc config := by
  induction actions generalizing c with
  | nil =>
    cases run
    simp
  | cons a rest ih =>
    obtain ⟨mid, first, run⟩ := Option.bind_eq_some_iff.mp run
    have less := h.remaining_step first
    have others := ih (h.step first) run
    rw [List.length_cons]
    omega

theorem result?_started {su : Setup} {s : State} (closed : s.dispatcher.isClosed = true)
    (cancelled : Bool) (asked : List Kind) :
    result? ⟨.started su s, cancelled, asked⟩ = some (.ok (s.outcome su)) := by
  unfold result?
  cases place : s.dispatcher with
  | closed b => simp [place]
  | _ =>
    rw [place] at closed
    cases closed

/-- A call that has not come to its end can go on, whether or not anybody cancels. -/
theorem Stands.exists_step (h : Stands sc config c) (running : c.result? = none) :
    ∃ a, a ≠ .cancel ∧ (c.step sc config a).isSome = true := by
  cases h with
  | called cancelled =>
    refine ⟨.dispatch, nofun, ?_⟩
    rw [step_dispatch sc config (by simp), Call.begin?]
    cases config.validate <;> rfl
  | @listing asked rest cancelled valid order listed =>
    refine ⟨.dispatch, nofun, ?_⟩
    rw [step_dispatch sc config (by simp)]
    cases rest <;> rfl
  | @started su s actions cancelled starts run =>
    cases closed : s.dispatcher.isClosed with
    | true =>
      rw [result?_started closed] at running
      cases running
    | false =>
      have slot := (Setup.conforms_of_ofConfig starts).one_le_limit
      refine ⟨choose .never s, choose_never_ne_cancel s, ?_⟩
      have possible := step_choose_isSome (Admission.follow run) slot closed
      rw [step_started, Option.isSome_map, possible]
  | refused => cases running

/-! ## The program's own call -/

/-- Before the machine runs, the dispatcher alone brings a call to its end or to the machine. -/
theorem exists_follow_listing (sc : Scanner) (config : Config) (cancelled : Bool)
    (rest : List Kind) (resources : List Identity) (asked : List Kind) :
    ∃ actions c, Call.follow sc config ⟨.listing rest resources, cancelled, asked⟩ actions = some c ∧
      c.cancelled = cancelled ∧
      ((∃ e, c.stage = .refused e) ∨
        ∃ su, c.stage = .started su (State.initial su cancelled)) := by
  induction rest generalizing resources asked with
  | nil =>
    refine ⟨[.dispatch], _, rfl, rfl, ?_⟩
    cases answer : sc.source.list config.target with
    | ok targets =>
      refine .inr ⟨sc.setup config resources targets, ?_⟩
      simp only [Call.list, answer]
    | error e =>
      refine .inl ⟨e, ?_⟩
      simp only [Call.list, answer]
  | cons kind rest ih =>
    cases answer : sc.source.list kind with
    | ok listing =>
      obtain ⟨actions, c, run, begun⟩ := ih (resources ++ listing) (asked ++ [kind])
      refine ⟨.dispatch :: actions, c, ?_, begun⟩
      rw [Call.follow, step_dispatch sc config (by simp), Call.begin?, Option.bind_some, Call.list,
        answer]
      exact run
    | error e =>
      refine ⟨[.dispatch], _, rfl, rfl, .inl ⟨e, ?_⟩⟩
      simp only [Call.list, answer]

theorem exists_follow_initial (sc : Scanner) (config : Config) (cancelled : Bool) :
    ∃ actions c, (initial cancelled).follow sc config actions = some c ∧
      c.cancelled = cancelled ∧
      ((∃ e, c.stage = .refused e) ∨
        ∃ su, c.stage = .started su (State.initial su cancelled)) := by
  have first := step_dispatch (c := initial cancelled) sc config (by simp [initial])
  rw [initial, Call.begin?] at first
  cases valid : config.validate with
  | ok =>
    obtain ⟨actions, c, run, begun⟩ :=
      exists_follow_listing sc config cancelled config.scannable [] []
    refine ⟨.dispatch :: actions, c, ?_, begun⟩
    rw [Call.follow, initial, first, valid]
    exact run
  | error e =>
    refine ⟨[.dispatch], ⟨.refused e, cancelled, []⟩, ?_, rfl, .inl ⟨e, rfl⟩⟩
    rw [Call.follow, initial, first, valid]
    rfl

/-- Once the machine runs, the call does what the machine does. -/
theorem follow_started (sc : Scanner) (config : Config) (su : Setup) (s : State)
    (cancelled : Bool) (asked : List Kind) (actions : List Action) :
    Call.follow sc config ⟨.started su s, cancelled, asked⟩ actions =
      (Scan.follow su s actions).map fun s => ⟨.started su s, cancelled, asked⟩ := by
  induction actions generalizing s with
  | nil => rfl
  | cons a rest ih =>
    rw [Call.follow, step_started, follow_cons]
    cases Scan.step su s a with
    | none => rfl
    | some s' => exact ih s'

theorem follow_append (earlier later : List Action) :
    c.follow sc config (earlier ++ later) =
      (c.follow sc config earlier).bind fun mid => mid.follow sc config later := by
  induction earlier generalizing c with
  | nil => rfl
  | cons a earlier ih =>
    rw [List.cons_append, Call.follow, Call.follow]
    cases c.step sc config a with
    | none => rfl
    | some mid => exact ih

/-- The program's own scan is a call, and this call returns what the program does. -/
theorem exists_follow_run (sc : Scanner) (config : Config) (cancellation : Cancellation) :
    ∃ actions c, (initial cancellation.isBefore).follow sc config actions = some c ∧
      let scan := run sc.source sc.audio sc.processors config cancellation sc.compiler
      c.result? = some scan.result ∧ c.loads = scan.loads ∧ c.events = scan.events := by
  generalize before : cancellation.isBefore = cancelled
  obtain ⟨actions, ⟨stage, flag, asked⟩, run, same, ⟨e, refused⟩ | ⟨su, started⟩⟩ :=
    exists_follow_initial sc config cancelled
  · cases refused
    refine ⟨actions, _, run, ?_⟩
    cases Stands.follow (.called _) run with
    | refused _ refuses =>
      rw [Scan.run, refuses.ofConfig_eq]
      exact ⟨rfl, rfl, rfl⟩
  · cases started
    cases Stands.follow (.called _) run with
    | started _ starts _ =>
      obtain ⟨more, machine, -⟩ := exists_follow_drive su cancellation (State.initial su cancelled)
      have slot := (Setup.conforms_of_ofConfig starts).one_le_limit
      have closed := isClosed_drive cancellation (Admission.initial su cancelled) slot
      have whole : (initial cancelled).follow sc config (actions ++ more) = some
          ⟨.started su (drive su cancellation (State.initial su cancelled)), flag,
            config.scannable ++ [config.target]⟩ := by
        rw [follow_append, run, Option.bind_some, follow_started, machine, Option.map_some]
      refine ⟨actions ++ more, _, whole, ?_⟩
      rw [Scan.run, starts, before]
      exact ⟨result?_started closed _ _, rfl, rfl⟩

/-! ## When a call fails -/

/-- A call that has come to its end was refused before any load and any event, or nothing
stood in its way. -/
theorem Stands.ended {r : Except ScanError ScanOutcome} (h : Stands sc config c)
    (ended : c.result? = some r) :
    (∃ outcome, r = .ok outcome ∧ ¬∃ asked e, Refuses sc.source config asked e) ∨
      ∃ e, r = .error e ∧ Refuses sc.source config c.asked e ∧ c.loads = [] ∧ c.events = [] := by
  cases h with
  | called => cases ended
  | listing => cases ended
  | @started su s _ _ starts _ =>
    refine .inl ⟨s.outcome su, ?_, ?_⟩
    · cases closed : s.dispatcher.isClosed with
      | true =>
        rw [result?_started closed] at ended
        exact (Option.some.inj ended).symm
      | false =>
        unfold Call.result? at ended
        cases place : s.dispatcher with
        | closed b =>
          rw [place] at closed
          cases closed
        | _ =>
          simp only [place] at ended
          cases ended
    · rintro ⟨asked, e, refuses⟩
      rw [refuses.ofConfig_eq] at starts
      cases starts
  | @refused _ e _ refuses =>
    cases ended
    exact .inr ⟨e, rfl, refuses, rfl, rfl⟩

/-- With a valid configuration a call returns no errors but those of listings. -/
theorem exists_unlisted {cancelled : Bool} {actions : List Action} {e : ScanError}
    (run : (initial cancelled).follow sc config actions = some c)
    (valid : config.validate = .ok ()) (ended : c.result? = some (.error e)) :
    ∃ kind ∈ config.scannable ++ [config.target], sc.source.list kind = .error e := by
  rcases (Stands.follow (.called cancelled) run).ended ended with ⟨_, ⟨⟩, _⟩ | ⟨_, ⟨⟩, refuses, _⟩
  exact refuses.exists_unlisted valid

end Call

/-- What a scanner has sent before makes no difference to a call. -/
theorem Scanner.follow_fresh (sc : Scanner) (config : Config) (c : Call) (actions : List Action) :
    c.follow (.fresh sc.source sc.audio sc.processors sc.compiler) config actions =
      c.follow sc config actions := by
  induction actions generalizing c with
  | nil => rfl
  | cons a rest ih =>
    rw [Call.follow, Call.follow]
    show Option.bind (c.step sc config a) _ = _
    congr 1
    funext mid
    exact ih mid

/-- A scanner that was refused a scan has sent nothing. -/
theorem Scanner.after_eq_self {sc : Scanner} {c : Call} (events : c.events = []) :
    sc.after c = sc := by
  rw [Scanner.after, events, List.append_nil]

/-- A call is refused exactly if the configuration is not valid or one of the kinds to inspect
or the target kind cannot be listed.

Every call comes to an end, however its steps and those of its tasks are ordered, and can go on
until then.  If there is a cause to refuse it, then it returns the first one, whether or not its
token is cancelled, and it has loaded and sent nothing and left the scanner as it was, so that
the next call goes as that of a scanner never called before.  Otherwise it returns an outcome,
whatever the loads and the scripts come to.

The program's own scan is one of the calls. -/
theorem fails_only_before_start (sc : Scanner) (config : Config) (cancelled : Bool) :
    ((∃ asked e, Refuses sc.source config asked e) ↔
      (∃ e, config.validate = .error e) ∨
        ∃ kind ∈ config.scannable ++ [config.target], ∃ e, sc.source.list kind = .error e) ∧
    (∃ bound, ∀ actions c, (Call.initial cancelled).follow sc config actions = some c →
      actions.length ≤ bound ∧
      (c.result? = none → ∃ a, a ≠ .cancel ∧ (c.step sc config a).isSome = true) ∧
      ∀ r, c.result? = some r →
        (∀ e, r = .error e ↔ ∃ asked, Refuses sc.source config asked e) ∧
        ((¬∃ asked e, Refuses sc.source config asked e) → ∃ outcome, r = .ok outcome) ∧
        ∀ e, r = .error e →
          Refuses sc.source config c.asked e ∧ c.loads = [] ∧ c.events = [] ∧ sc.after c = sc ∧
          ∀ config' cancelled' actions',
            (Call.initial cancelled').follow (sc.after c) config' actions' =
              (Call.initial cancelled').follow
                (.fresh sc.source sc.audio sc.processors sc.compiler) config' actions') ∧
    ∀ cancellation : Cancellation, cancellation.isBefore = cancelled →
      ∃ actions c, (Call.initial cancelled).follow sc config actions = some c ∧
        let scan := run sc.source sc.audio sc.processors config cancellation sc.compiler
        c.result? = some scan.result ∧ c.loads = scan.loads ∧ c.events = scan.events := by
  refine ⟨exists_refuses_iff,
    ⟨(Call.initial cancelled).remaining sc config, fun actions c run => ?_⟩, ?_⟩
  · have first : Call.Stands sc config (Call.initial cancelled) := .called cancelled
    have stands := first.follow run
    have short := first.length_le run
    refine ⟨by omega, stands.exists_step, fun r ended => ?_⟩
    rcases stands.ended ended with ⟨outcome, rfl, free⟩ | ⟨e, rfl, refuses, loads, events⟩
    · refine ⟨fun e => ⟨nofun, ?_⟩, fun _ => ⟨outcome, rfl⟩, nofun⟩
      rintro ⟨asked, refuses⟩
      exact absurd ⟨asked, e, refuses⟩ free
    · have same : sc.after c = sc := Scanner.after_eq_self events
      refine ⟨fun e' => ⟨?_, ?_⟩, fun free => absurd ⟨_, e, refuses⟩ free, ?_⟩
      · rintro ⟨⟩
        exact ⟨_, refuses⟩
      · rintro ⟨asked, refuses'⟩
        rw [refuses.unique refuses']
      · rintro _ ⟨⟩
        refine ⟨refuses, loads, events, same, fun config' cancelled' actions' => ?_⟩
        rw [same, Scanner.follow_fresh]
  · rintro cancellation rfl
    exact Call.exists_follow_run sc config cancellation

/-- Where only creatures can be listed, a scan of creatures and items for sounds is refused for
the items, though its token is cancelled, and the sounds are not asked for. -/
theorem fails_only_before_start_items :
    let source : Source :=
      ⟨fun k => if k.text = "CRE" then .ok [] else .error (.storeUnavailable k.text),
        fun id => .error (.notFound id), fun _ => none⟩
    let config : Config := ⟨⟨"WAV"⟩, [⟨"CRE"⟩, ⟨"ITM"⟩], 1, 100, false⟩
    Cancellation.isBefore .before = true ∧
      Refuses source config [⟨"CRE"⟩, ⟨"ITM"⟩] (.storeUnavailable "ITM") ∧
      (run source (fun _ => none) 1 config .before).result = .error (.storeUnavailable "ITM") := by
  intro source config
  have refuses : Refuses source config ([⟨"CRE"⟩] ++ [⟨"ITM"⟩]) (.storeUnavailable "ITM") := by
    have listed : ∀ k ∈ [(⟨"CRE"⟩ : Kind)], ∃ listing, source.list k = .ok listing := by
      intro k member
      rw [List.mem_singleton.mp member]
      exact ⟨[], rfl⟩
    exact .unlisted rfl rfl listed rfl
  obtain ⟨-, ⟨bound, all⟩, own⟩ :=
    fails_only_before_start (.fresh source (fun _ => none) 1) config true
  obtain ⟨actions, c, followed, ended, -⟩ := own .before rfl
  obtain ⟨-, -, answer⟩ := all actions c followed
  exact ⟨rfl, refuses, ((answer _ ended).1 _).mpr ⟨_, refuses⟩⟩

end Scan
end Unreferenced
