/-
This file proves that it makes no difference to the work who listens. A session prints while it
works, and what it prints depends on the messenger; but as long as nothing that it prints is
refused, it does exactly what the same work does that only keeps a log, and it has printed what the
log shows to that messenger. This is proved session by session: printing, settling, emitting and
catching tell what they do, and sessions made of such sessions do so too.

Two messengers to whom everything can be printed therefore see the same outcome, the same world and
the same errors. The only thing that can tell them apart is the output stream.
-/
import Stencil.Proofs.Outcomes
import Stencil.Session.Expand

namespace Stencil

/-! ### Telling -/

/-- Everything can be printed to the messenger: it asks for nothing on the output stream, or the
stream takes every character. -/
def Messenger.TakesAll (messenger : Messenger) : Prop :=
  messenger.verbose = false ∨ messenger.asciiOnly = false

theorem Event.show_of_takesAll {messenger : Messenger} (takes : messenger.TakesAll)
    (event : Event) :
    event.show messenger.verbose messenger.asciiOnly =
      (Log.output messenger.verbose [event], none) := by
  obtain ⟨verbose, asciiOnly⟩ := messenger
  cases verbose with
  | false => rfl
  | true =>
    obtain rfl : asciiOnly = false := takes.resolve_left Bool.noConfusion
    show (printed event.prints, none) = (printed ([event].flatMap Event.prints), none)
    rw [List.flatMap_singleton]

/-- The console once a log has been shown to a messenger, in the world that the work has left. -/
def Console.hear {World : Type} (console : Console World) (messenger : Messenger) (world : World)
    (log : Log) : Console World :=
  ⟨world, console.output ++ log.output messenger.verbose, console.errors ++ log.errors,
    console.warnings ++ log.warnings⟩

section

variable {World : Type} (console : Console World) (messenger : Messenger)

theorem Console.hear_nil (world : World) :
    console.hear messenger world [] = { console with world := world } := by
  obtain ⟨_, output, errors, warnings⟩ := console
  have nothing : Log.output messenger.verbose [] = "" := by
    cases messenger.verbose <;> rfl
  rw [Console.hear, nothing]
  simp [Log.errors, Log.warnings, printed]

theorem Console.hear_hear (middle world : World) (first rest : Log) :
    (console.hear messenger middle first).hear messenger world rest =
      console.hear messenger world (first ++ rest) := by
  simp only [Console.hear, Log.output_append, Log.errors_append, Log.warnings_append,
    String.append_assoc, List.append_assoc]

end

/-- The work that a run is in any world: it leaves the world alone. -/
def Run.inWorld {World Result : Type} (run : Run Result) (world : World) : Work World Result :=
  ⟨world, run.log, run.outcome⟩

/-- One piece of work after another, unless the first one was ended. -/
def Work.andThen {World First Second : Type} (first : Work World First)
    (second : First → World → Work World Second) : Work World Second :=
  match first.outcome with
  | .ok result =>
    let rest := second result first.world
    ⟨rest.world, first.log ++ rest.log, rest.outcome⟩
  | .error abort => ⟨first.world, first.log, .error abort⟩

/-- A piece of work, and what follows it or follows its failure. Anything but a failure ends it. -/
def Work.orElse {World First Second : Type} (first : Work World First)
    (good : First → World → Work World Second) (bad : Failure → World → Work World Second) :
    Work World Second :=
  match first.outcome with
  | .ok result =>
    let rest := good result first.world
    ⟨rest.world, first.log ++ rest.log, rest.outcome⟩
  | .error (.failure failure) =>
    let rest := bad failure first.world
    ⟨rest.world, first.log ++ rest.log, rest.outcome⟩
  | .error abort => ⟨first.world, first.log, .error abort⟩

namespace Session

variable {World Result : Type}

/-- In every world the session does the work, and prints what its log shows. -/
def Tells (session : Session World Result) (work : World → Work World Result) : Prop :=
  ∀ messenger : Messenger, messenger.TakesAll → ∀ console : Console World,
    session messenger console =
      (console.hear messenger (work console.world).world (work console.world).log,
        (work console.world).outcome.mapError .abort)

theorem Tells.congr {session : Session World Result} {work other : World → Work World Result}
    (tells : session.Tells work) (same : ∀ world, work world = other world) :
    session.Tells other := by
  rwa [← funext same]

theorem tells_pure (result : Result) :
    (pure result : Session World Result).Tells fun world => ⟨world, [], .ok result⟩ := by
  intro messenger _ console
  rw [Console.hear_nil]
  rfl

theorem tells_settle (outcome : Except Abort Result) :
    (settle outcome : Session World Result).Tells fun world => ⟨world, [], outcome⟩ := by
  intro messenger _ console
  rw [Console.hear_nil]
  rfl

theorem tells_quiet (outcome : Except Abort Result) :
    (settle outcome : Session World Result).Tells (Run.quiet outcome).inWorld :=
  tells_settle outcome

theorem tells_world : (world : Session World World).Tells fun world => ⟨world, [], .ok world⟩ := by
  intro messenger _ console
  rw [Console.hear_nil]
  rfl

theorem tells_say (event : Event) :
    (say event : Session World Unit).Tells fun world => ⟨world, [event], .ok ()⟩ := by
  intro messenger takes console
  have errors : Log.errors [event] = printed event.errorPrints := by
    rw [Log.errors, List.flatMap_singleton]
  have warnings : Log.warnings [event] = event.warning?.toList := by
    rw [Log.warnings, List.filterMap_cons]
    cases event.warning? <;> rfl
  rw [say, Event.show_of_takesAll takes, Console.hear, errors, warnings]
  rfl

theorem tells_emit (workspace : Workspace World) (name text : Text) :
    (emit workspace name text).Tells fun world =>
      ⟨(workspace.emit world name text).1, [],
        Generate.ending (workspace.emit world name text).2⟩ := by
  have ending (emitted : Except Failure Unit) :
      emitted.mapError (fun failure => Halt.abort (.failure failure)) =
        (Generate.ending emitted).mapError .abort := by
    cases emitted <;> rfl
  intro messenger _ console
  rw [Console.hear_nil]
  exact congrArg (Prod.mk _) (ending _)

theorem Tells.bind {First Second : Type} {first : Session World First}
    {second : First → Session World Second} {work : World → Work World First}
    {more : First → World → Work World Second} (before : first.Tells work)
    (after : ∀ result, (second result).Tells (more result)) :
    (first >>= second).Tells fun world => (work world).andThen more := by
  intro messenger takes console
  show Session.andThen first second messenger console = _
  rw [Session.andThen, before messenger takes console]
  dsimp only
  generalize work console.world = done
  obtain ⟨middle, log, outcome⟩ := done
  cases outcome with
  | error abort => rfl
  | ok result =>
    have rest := after result messenger takes (console.hear messenger middle log)
    rw [Console.hear_hear] at rest
    exact rest

theorem Tells.bind_caught {First Second : Type} {session : Session World First}
    {next : Except Failure First → Session World Second} {work : World → Work World First}
    {good : First → World → Work World Second} {bad : Failure → World → Work World Second}
    (tells : session.Tells work) (goesOn : ∀ result, (next (.ok result)).Tells (good result))
    (fails : ∀ failure, (next (.error failure)).Tells (bad failure)) :
    (caught session >>= next).Tells fun world => (work world).orElse good bad := by
  intro messenger takes console
  show Session.andThen (caught session) next messenger console = _
  rw [Session.andThen, caught, tells messenger takes console]
  dsimp only
  generalize work console.world = done
  obtain ⟨middle, log, outcome⟩ := done
  cases outcome with
  | ok result =>
    have rest := goesOn result messenger takes (console.hear messenger middle log)
    rw [Console.hear_hear] at rest
    exact rest
  | error abort =>
    cases abort with
    | failure failure =>
      have rest := fails failure messenger takes (console.hear messenger middle log)
      rw [Console.hear_hear] at rest
      exact rest
    | _ => rfl

/-- Sessions in place of runs. -/
theorem Tells.bind_run {First Second : Type} {first : Session World First}
    {second : First → Session World Second} {run : Run First} {more : First → Run Second}
    (before : first.Tells run.inWorld)
    (after : ∀ result, (second result).Tells (more result).inWorld) :
    (first >>= second).Tells (run >>= more).inWorld := by
  refine (before.bind after).congr fun world => ?_
  show _ = (run.andThen more).inWorld world
  obtain ⟨log, outcome⟩ := run
  cases outcome <;> rfl

theorem tells_sayAll (log : Log) :
    (sayAll log : Session World Unit).Tells fun world => ⟨world, log, .ok ()⟩ := by
  induction log with
  | nil => exact tells_pure ()
  | cons event log inductionHypothesis => exact (tells_say event).bind fun _ => inductionHypothesis

/-! ### Generating -/

theorem tells_step (label : String) (transform : Text → Except Abort Text) (text : Text) :
    (step label transform text : Session World Text).Tells
      (Generate.step label transform text).inWorld :=
  Tells.bind_run (tells_quiet (transform text)) fun after =>
    Tells.bind_run (tells_say (.transformation label text after)) fun _ => tells_pure after

theorem tells_withoutDirectives (unit : SourceUnit) (markers : List Marker) (text : Text) :
    (steps (fun marker => "directive `" ++ marker.name.str ++ "`")
      (fun marker text => Generate.ending (Directive.stripAll unit.sigil marker text))
      markers text : Session World Text).Tells
      (Generate.withoutDirectives unit markers text).inWorld := by
  induction markers generalizing text with
  | nil => exact tells_pure text
  | cons marker markers inductionHypothesis =>
    exact Tells.bind_run (tells_step _ _ _) fun after => inductionHypothesis after

theorem tells_withoutImports (names : List Text) (text : Text) :
    (steps (fun name => "import `" ++ name.str ++ "`")
      (fun name text => .ok (Import.erase name text)) names text : Session World Text).Tells
      (Generate.withoutImports names text).inWorld := by
  induction names generalizing text with
  | nil => exact tells_pure text
  | cons name names inductionHypothesis =>
    exact Tells.bind_run (tells_step _ _ _) fun after => inductionHypothesis after

theorem tells_withRules [CharacterNames] (owner : Text) (rules : List Rule) (text : Text) :
    (steps Generate.ruleLabel (fun rule text => rule.apply owner text) rules text :
      Session World Text).Tells (Generate.withRules owner rules text).inWorld := by
  induction rules generalizing text with
  | nil => exact tells_pure text
  | cons rule rules inductionHypothesis =>
    exact Tells.bind_run (tells_step _ _ _) fun after => inductionHypothesis after

theorem tells_withTypes [CharacterNames] (owner : Text) (bindings : List (Text × Text))
    (text : Text) :
    (steps
      (fun binding => "type parameter `" ++ binding.1.str ++ "` --> `" ++ binding.2.str ++ "`")
      (fun binding text => (Rule.wholeIdentifier binding.1 binding.2).apply owner text)
      bindings text : Session World Text).Tells
      (Generate.withTypes owner bindings text).inWorld := by
  induction bindings generalizing text with
  | nil => exact tells_pure text
  | cons binding bindings inductionHypothesis =>
    exact Tells.bind_run (tells_step _ _ _) fun after => inductionHypothesis after

theorem tells_unprotect (placeholder : Placeholder) (text : Text) :
    (unprotect placeholder text : Session World Text).Tells
      (placeholder.unprotect text).inWorld := by
  refine ((tells_sayAll _).bind fun _ => tells_settle _).congr fun world => ?_
  rw [Work.andThen, Run.inWorld]
  simp only [List.append_nil]

theorem tells_generate [CharacterNames] (unit : SourceUnit) (spec : Spec) :
    (Session.generate unit spec : Session World Text).Tells
      (Stencil.generate unit spec).inWorld := by
  refine Tells.bind_run (tells_quiet (Placeholder.choose _)) fun placeholder => ?_
  refine Tells.bind_run (tells_withoutDirectives unit _ _) fun text => ?_
  refine Tells.bind_run (tells_withoutImports _ text) fun text => ?_
  refine Tells.bind_run (tells_step _ _ text) fun text => ?_
  refine Tells.bind_run (tells_withRules unit.name _ text) fun text => ?_
  refine Tells.bind_run (tells_withTypes unit.name _ text) fun text => ?_
  refine Tells.bind_run (tells_step _ _ text) fun text => ?_
  exact Tells.bind_run (tells_unprotect placeholder text) fun text => tells_pure _

/-! ### Expanding -/

theorem tells_attempt [CharacterNames] (workspace : Workspace World) (unit : SourceUnit)
    (used : List Text) (spec : Spec) :
    (attempt workspace unit used spec).Tells fun world =>
      Expand.attempt workspace unit used world spec := by
  refine ((tells_settle _).bind fun _ =>
    (tells_generate unit spec).bind fun text => tells_emit workspace _ text).congr fun world => ?_
  rw [Expand.attempt]
  cases Expand.validate unit used spec with
  | error failure => rfl
  | ok valid =>
    simp only [Generate.ending, Work.andThen, Run.inWorld, List.nil_append]
    generalize Stencil.generate unit spec = run
    obtain ⟨log, outcome⟩ := run
    cases outcome with
    | error abort => rfl
    | ok text =>
      simp only [List.append_nil]
      obtain ⟨after, emitted⟩ := workspace.emit world (unit.qualify spec.target) text
      cases emitted <;> rfl

/-- A line for a record, and the record in front of those that follow. -/
theorem Tells.record {session : Session World (List Record)}
    {work : World → Work World (List Record)} (tells : session.Tells work) (event : Event)
    (record : Record) :
    (do
      say event
      let rest ← session
      return record :: rest : Session World (List Record)).Tells fun world =>
        ⟨(work world).world, event :: (work world).log,
          (work world).outcome.map (record :: ·)⟩ := by
  refine ((tells_say event).bind fun _ => tells.bind fun rest =>
    tells_pure (record :: rest)).congr fun world => ?_
  simp only [Work.andThen]
  generalize work world = done
  obtain ⟨after, log, outcome⟩ := done
  cases outcome with
  | error abort => rfl
  | ok rest => simp only [List.append_nil, List.singleton_append, Except.map]

theorem tells_records [CharacterNames] (workspace : Workspace World) (unit : SourceUnit)
    (used : List Text) (specs : List Spec) :
    (records workspace unit used specs).Tells fun world =>
      Expand.records workspace unit used world specs := by
  induction specs generalizing used with
  | nil => exact tells_pure []
  | cons spec specs inductionHypothesis =>
    have rest := inductionHypothesis (used ++ [spec.target])
    refine ((tells_attempt workspace unit used spec).bind_caught
      (fun _ => rest.record (Expand.emissionEvent unit.name (unit.qualify spec.target)) _)
      (fun failure =>
        rest.record (Expand.failureEvent unit.name (unit.qualify spec.target) failure) _)).congr
      fun world => ?_
    rw [Expand.records, Work.orElse]
    generalize Expand.attempt workspace unit used world spec = tried
    obtain ⟨after, log, outcome⟩ := tried
    cases outcome with
    | ok done => rfl
    | error abort => cases abort <;> rfl

theorem tells_unit [CharacterNames] (workspace : Workspace World) (source : SourceUnit)
    (specs : List Spec) :
    (unit workspace source specs).Tells fun world =>
      Expand.unit workspace source world specs := by
  by_cases empty : specs.isEmpty = true
  · rw [Session.unit, if_pos empty]
    refine (tells_settle _).congr fun world => ?_
    rw [Expand.unit, if_pos empty]
  · rw [Session.unit, if_neg empty]
    refine ((tells_records workspace source [] specs).bind fun list =>
      tells_pure (Report.mk source.name list)).congr fun world => ?_
    rw [Expand.unit, if_neg empty, Work.andThen]
    dsimp only
    generalize Expand.records workspace source [] world specs = done
    obtain ⟨after, log, outcome⟩ := done
    cases outcome with
    | error abort => rfl
    | ok list => simp only [List.append_nil, Except.map]

theorem tells_failed (source : Text) (failure : Failure) (specs : List Spec) :
    (failed source failure specs : Session World (List Record)).Tells fun world =>
      ⟨world,
        specs.map fun spec =>
          Expand.failureEvent source (qualifyName (packageName source) spec.target) failure,
        .ok (specs.map fun spec =>
          .failed (qualifyName (packageName source) spec.target) failure)⟩ := by
  induction specs with
  | nil => exact tells_pure []
  | cons spec specs inductionHypothesis => exact inductionHypothesis.record _ _

/-! ### Expanding what rules declare -/

/-- What an entry is expanded to, once it is known what the workspace has for it. -/
theorem tells_source [CharacterNames] (workspace : Workspace World) (entry : StoreEntry)
    (specs : List Spec) (source : Except Abort SourceUnit) :
    (match source with
      | .ok source => unit workspace source specs
      | .error (.failure (.sourceNotFound reason)) => do
        let list ← failed entry.template.name (.sourceNotFound reason) specs
        return ⟨entry.template.name, list⟩
      | .error abort => settle (.error abort) : Session World Report).Tells fun world =>
      match source with
      | .ok source => Expand.unit workspace source world specs
      | .error (.failure (.sourceNotFound reason)) =>
        (Expand.failAll entry.template.name specs (.sourceNotFound reason)).inWorld world
      | .error abort => ⟨world, [], .error abort⟩ := by
  cases source with
  | ok source => exact tells_unit workspace source specs
  | error abort =>
    cases abort with
    | failure failure =>
      cases failure with
      | sourceNotFound reason =>
        refine ((tells_failed entry.template.name (.sourceNotFound reason) specs).bind fun list =>
          tells_pure (Report.mk entry.template.name list)).congr fun world => ?_
        simp only [Work.andThen, Run.inWorld, Expand.failAll, List.append_nil]
      | _ => exact tells_settle _
    | _ => exact tells_settle _

theorem tells_entry [CharacterNames] (workspace : Workspace World) (entry : StoreEntry) :
    (Session.entry workspace entry).Tells fun world => entry.expand workspace world := by
  refine ((tells_settle entry.specs).bind fun specs =>
    (tells_say (entry.event specs)).bind fun _ =>
      tells_world.bind fun world =>
        tells_source workspace entry specs (entry.unit workspace world)).congr fun world => ?_
  rw [StoreEntry.expand]
  cases entry.specs with
  | error abort => rfl
  | ok specs =>
    simp only [Work.andThen, List.nil_append]
    cases entry.unit workspace world with
    | ok source => rfl
    | error abort =>
      cases abort with
      | failure failure => cases failure <;> rfl
      | _ => rfl

theorem tells_store [CharacterNames] (workspace : Workspace World) (entries : Store) :
    (store workspace entries).Tells fun world => entries.expand workspace world := by
  induction entries with
  | nil => exact tells_pure []
  | cons first entries inductionHypothesis =>
    refine ((tells_entry workspace first).bind fun report =>
      inductionHypothesis.bind fun reports => tells_pure (report :: reports)).congr fun world => ?_
    rw [Store.expand, Work.andThen]
    dsimp only
    generalize first.expand workspace world = expanded
    obtain ⟨middle, log, outcome⟩ := expanded
    cases outcome with
    | error abort => rfl
    | ok report =>
      simp only [Work.andThen]
      generalize Store.expand workspace entries middle = rest
      obtain ⟨after, more, outcome⟩ := rest
      cases outcome with
      | error abort => rfl
      | ok reports => simp only [List.append_nil, Except.map]

theorem tells_readRules [CharacterNames] (file text : Text) :
    (readRules file text : Session World Store).Tells fun world =>
      ⟨world, (Store.readRules [] file text).log,
        (Store.readRules [] file text).outcome.map fun _ =>
          (Store.readRules [] file text).world⟩ := by
  rw [Session.readRules, Store.readRules]
  rcases Reading.all [] text with ⟨reading, _ | stop⟩
  · exact tells_pure _
  · cases stop with
    | refused error =>
      refine ((tells_sayAll (error.events file)).bind fun _ => tells_settle _).congr fun world => ?_
      simp only [Work.andThen, List.append_nil, Except.map]
    | aborted abort => exact tells_settle _

theorem tells_expandRules [CharacterNames] (workspace : Workspace World) (file text : Text) :
    (Session.expandRules workspace file text).Tells
      (Stencil.expandRules workspace file text) := by
  refine ((tells_readRules file text).bind fun declared => tells_store workspace declared).congr
    fun world => ?_
  rw [Stencil.expandRules, Work.andThen]
  dsimp only
  generalize Store.readRules [] file text = read
  obtain ⟨declared, log, outcome⟩ := read
  cases outcome <;> rfl

/-! ### Two messengers -/

/-- A verbose and a quiet run of the same work from the same console. They end in the same way,
which is the way the work ends, leave the same world and have printed the same errors and warnings;
the output stream has what the log of the work shows in the one case, and nothing new in the
other. -/
structure Alike (console : Console World) (work : Work World Result)
    (verbose quiet : Console World × Except Halt Result) : Prop where
  outcome : verbose.2 = quiet.2
  world : verbose.1.world = quiet.1.world
  errors : verbose.1.errors = quiet.1.errors
  warnings : verbose.1.warnings = quiet.1.warnings
  silent : quiet.1.output = console.output
  spoken : verbose.1.output = console.output ++ work.log.output true
  ends : quiet.2 = work.outcome.mapError .abort
  leaves : quiet.1.world = work.world
  blames : quiet.1.errors = console.errors ++ work.log.errors

theorem Tells.alike {session : Session World Result} {work : World → Work World Result}
    (tells : session.Tells work) (console : Console World) (asciiOnly : Bool) :
    Alike console (work console.world) (session ⟨true, false⟩ console)
      (session ⟨false, asciiOnly⟩ console) := by
  rw [tells ⟨true, false⟩ (Or.inr rfl) console, tells ⟨false, asciiOnly⟩ (Or.inl rfl) console]
  exact
    { outcome := rfl
      world := rfl
      errors := rfl
      warnings := rfl
      silent := String.append_empty
      spoken := rfl
      ends := rfl
      leaves := rfl
      blames := rfl }

/-- Verbosity never changes what happens. Whether rules are read and expanded or a unit is expanded
at some specs, in whatever workspace: the messenger that is told everything, on a stream that takes
every character, and the one that is told errors only, on any stream, see the same reports or the
same end, the same world and the same errors, and the latter finds nothing on its output stream. -/
theorem verbosity_changes_output_only [CharacterNames] (workspace : Workspace World)
    (console : Console World) (asciiOnly : Bool) :
    (∀ file text, Alike console (Stencil.expandRules workspace file text console.world)
      (expandRules workspace file text ⟨true, false⟩ console)
      (expandRules workspace file text ⟨false, asciiOnly⟩ console)) ∧
    (∀ source specs, Alike console (Expand.unit workspace source console.world specs)
      (unit workspace source specs ⟨true, false⟩ console)
      (unit workspace source specs ⟨false, asciiOnly⟩ console)) :=
  ⟨fun file text => (tells_expandRules workspace file text).alike console asciiOnly,
    fun source specs => (tells_unit workspace source specs).alike console asciiOnly⟩

-- A stream that takes ASCII only refuses the hidden header, and the verbose run ends there.
section

attribute [local instance] CharacterNames.signs

example :
    (Session.unit (Workspace.memory [] []) ⟨"Cell".toList, "class Cell<T> ".toList, [['T']], [], [],
        SourceUnit.defaultSigil⟩ [⟨"IntCell".toList, ["int".toList], [], false⟩]
      ⟨true, true⟩ (.start [])).2 = .error (.unprintable .transformation) := by
  decide +kernel

end

end Session

end Stencil
