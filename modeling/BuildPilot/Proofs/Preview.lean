import BuildPilot.Proofs.Program

/-!
# Previews

A dry run is a preview of the live run: it goes through the same plans, prints a line for each
command and each removal, has its runner note the commands, and changes nothing. The main statement
compares what it notes with what a live run hands to its runner.
-/

namespace BuildPilot

open FileSystem

/-! ## What a plan looks like in a preview -/

/-- The tasks in front of one whose command cannot be composed. -/
def composable (ts : List Task) : List Task := ts.takeWhile (· ≠ .giveUp)

/-- What a task asks of the runner. -/
def Task.request? : Task → Option Request
  | .run step => some step.request
  | _ => none

/-- What an event asked of the runner. -/
def Event.request? (e : Event) : Option Request := e.task.request?

/-- What a dry run says about a task. -/
def Task.preview? (outputRoot : Path) : Task → Option String
  | .run step => some s!"{step.description} (cwd={step.cwd}) {Command.format step.command}"
  | .removeOutput => some s!"remove {outputRoot}"
  | _ => none

/-- The line of a dry run. -/
def previewLine (s : String) : Printed := { stream := .out, text := "[dry-run] " ++ s ++ "\n" }

/-- Whether a printed text is the line of a dry run. -/
def Printed.isPreview (p : Printed) : Bool := "[dry-run] ".toList.isPrefixOf p.text.toList

theorem composable_append_of_mem {ts : List Task} (h : .giveUp ∈ ts) (us : List Task) :
    composable (ts ++ us) = composable ts := by
  induction ts with
  | nil => simp at h
  | cons t ts ih =>
    by_cases ht : t = .giveUp
    · subst ht
      simp [composable]
    · have := ih (by simpa [Ne.symm ht] using h)
      simpa [composable, ht] using this

theorem composable_append_of_not_mem {ts : List Task} (h : .giveUp ∉ ts) (us : List Task) :
    composable (ts ++ us) = ts ++ composable us := by
  induction ts with
  | nil => rfl
  | cons t ts ih =>
    obtain ⟨ht, hts⟩ := not_or.mp (mt List.mem_cons.mpr h)
    have := ih hts
    simpa [composable, Ne.symm ht] using this

theorem composable_of_not_mem {ts : List Task} (h : .giveUp ∉ ts) : composable ts = ts := by
  have := composable_append_of_not_mem h []
  rwa [List.append_nil, show composable [] = [] from rfl, List.append_nil] at this

theorem isPreview_previewLine (s : String) : (previewLine s).isPreview = true := by
  simp [previewLine, Printed.isPreview]

theorem filter_isPreview_debug (c : Console) (s : String) :
    (c.debug s).filter Printed.isPreview = [] := by
  unfold Console.debug
  split
  · simp [Console.line, Printed.isPreview]
  · rfl

theorem dry_eq_previewLine {c : Console} (dry : c.dryRun = true) (s : String) :
    c.dry s = [previewLine s] := by
  rw [Console.dry, if_pos dry]
  rfl

/-! ## Acts that preview a plan -/

/-- The act shows the tasks of a plan, has their commands noted, and leaves the files alone; where a
command cannot be composed, it gives up. -/
def Act.Previews {α : Type} (act : Act α) (outputRoot : Path) (ts : List Task) : Prop :=
  ∀ s, let run := act.runIn s
    run.2.files = s.files ∧
    run.2.noted = s.noted ++ ((composable ts).filterMap Task.request?).map Request.noted ∧
    (∃ printed, run.2.printed = s.printed ++ printed ∧ printed.filter Printed.isPreview =
      ((composable ts).filterMap (Task.preview? outputRoot)).map previewLine) ∧
    (run.1.map fun _ => ()) = if .giveUp ∈ ts then .error .longNumber else .ok ()

namespace Act

variable {α β : Type} {root : Path} {ts us : List Task}

theorem previews_nil {act : Act α} (ps : List Printed) {a : α}
    (h : ∀ s, act.runIn s = (.ok a, { s with printed := s.printed ++ ps }))
    (hps : ps.filter Printed.isPreview = []) : act.Previews root [] := by
  intro s
  rw [h]
  exact ⟨rfl, by simp [composable], ⟨ps, rfl, hps⟩, rfl⟩

theorem Previews.bind {act : Act α} {f : α → Act β} (h : act.Previews root ts)
    (hf : ∀ a, (f a).Previews root us) : (act >>= f).Previews root (ts ++ us) := by
  intro s
  obtain ⟨files, noted, ⟨ps, printed, lines⟩, ended⟩ := h s
  rw [runIn_bind]
  by_cases gives : .giveUp ∈ ts
  · rw [if_pos gives] at ended
    match hr : act.runIn s with
    | (.ok a, t) => rw [hr] at ended; cases ended
    | (.error e, t) =>
      rw [hr] at files noted printed ended
      cases ended
      rw [composable_append_of_mem gives, if_pos (List.mem_append_left us gives)]
      exact ⟨files, noted, ⟨ps, printed, lines⟩, rfl⟩
  · rw [if_neg gives] at ended
    match hr : act.runIn s with
    | (.error e, t) => rw [hr] at ended; cases ended
    | (.ok a, t) =>
      rw [hr] at files noted printed
      obtain ⟨files', noted', ⟨ps', printed', lines'⟩, ended'⟩ := hf a t
      rw [composable_of_not_mem gives] at noted lines
      rw [composable_append_of_not_mem gives]
      refine ⟨files'.trans files, ?_, ⟨ps ++ ps', ?_, ?_⟩, ?_⟩
      · rw [noted', noted]
        simp
      · rw [printed', printed, List.append_assoc]
      · rw [List.filter_append, lines, lines']
        simp
      · rw [ended']
        simp [gives]

theorem previews_forM {f : β → Act Unit} {plan : β → List Task}
    (h : ∀ b, (f b).Previews root (plan b)) :
    ∀ l : List β, (l.forM f).Previews root (l.flatMap plan)
  | [] => previews_nil [] (fun s => by rw [List.append_nil]; rfl) rfl
  | b :: l => by
    rw [List.flatMap_cons]
    exact (h b).bind fun _ => previews_forM h l

end Act

/-! ## Dry runs -/

/-- A dry run of a configuration, as the command line asks for it. -/
def Executor.preview (config : Configuration) (level : Level) (machine : Machine) : Executor :=
  ⟨config, .recording, ⟨level, true⟩, true, machine⟩

namespace Executor

open Act

variable {config : Configuration} {level : Level} {machine : Machine}

theorem previews_debug (s : String) :
    (print ((preview config level machine).console.debug s)).Previews config.outputRoot [] :=
  previews_nil _ (fun _ => rfl) (filter_isPreview_debug _ s)

theorem announce_preview (step : Step) :
    ((preview config level machine).announce step) =
      ((Task.run step).preview? config.outputRoot).toList.map previewLine := by
  change Console.dry ⟨level, true⟩ _ = [previewLine _]
  rw [dry_eq_previewLine rfl]
  simp [toString, String.append_assoc]

theorem previews_runStep (step : Step) :
    ((preview config level machine).runStep step).Previews config.outputRoot [.run step] := by
  intro s
  refine ⟨rfl, rfl, ⟨(preview config level machine).announce step, ?_, ?_⟩, rfl⟩
  · exact List.append_nil _
  · rw [announce_preview]
    exact List.filter_cons_of_pos (isPreview_previewLine _)

theorem previews_giveUp :
    ((preview config level machine).undertake .giveUp).Previews config.outputRoot [.giveUp] := by
  intro s
  exact ⟨rfl, (List.append_nil _).symm, ⟨[], (List.append_nil _).symm, rfl⟩, rfl⟩

theorem previews_runSteps (extra : ExtraArgs) (a : Action) :
    ((preview config level machine).runSteps extra a).Previews config.outputRoot
      (config.ownTasks extra machine.processors a) := by
  have own : (preview config level machine).config.ownSteps? extra
      (preview config level machine).machine.processors a =
      config.ownSteps? extra machine.processors a := rfl
  unfold runSteps Configuration.ownTasks
  rw [own]
  cases config.ownSteps? extra machine.processors a with
  | some steps =>
    dsimp only
    rw [List.map_eq_flatMap]
    exact previews_forM previews_runStep steps
  | none => exact previews_giveUp

/-- What belongs to a build after its commands does not show in a preview. -/
theorem previews_afterBuild :
    (preview config level machine).afterBuild.Previews config.outputRoot config.afterBuild := by
  intro s
  change ((pure () : Act Unit).runIn s).2.files = _ ∧ _
  unfold Configuration.afterBuild
  split
  · exact ⟨rfl, (List.append_nil _).symm, ⟨[], (List.append_nil _).symm, rfl⟩, rfl⟩
  · exact ⟨rfl, (List.append_nil _).symm, ⟨[], (List.append_nil _).symm, rfl⟩, rfl⟩

theorem previews_cleanall :
    (preview config level machine).cleanall.Previews config.outputRoot [.removeOutput] := by
  intro s
  refine ⟨rfl, (List.append_nil _).symm, ⟨[previewLine _], rfl, ?_⟩, rfl⟩
  rw [List.filter_cons_of_pos (isPreview_previewLine _)]
  rfl

theorem previews_build (extra : ExtraArgs) :
    ((preview config level machine).build extra).Previews config.outputRoot
      (config.plan extra machine.processors .build) :=
  (previews_runSteps extra .build).bind fun _ => previews_afterBuild

/-- A dry run of an action is a preview of its plan. -/
theorem previews_carryOut (extra : ExtraArgs) :
    ∀ a : Action, ((preview config level machine).carryOut extra a).Previews config.outputRoot
      (config.plan extra machine.processors a)
  | .build => previews_build extra
  | .rebuild => (previews_runSteps extra .rebuild).bind fun _ => previews_afterBuild
  | .clean => previews_runSteps extra .clean
  | .cleanall => previews_cleanall
  | .test => (previews_build extra).bind fun _ => previews_runSteps extra .test
  | .retest => previews_runSteps extra .retest
  | .analyze => (previews_build extra).bind fun _ => previews_runSteps extra .analyze

theorem previews_runActions (extra : ExtraArgs) (actions : List Action) :
    (actions.forM ((preview config level machine).runAction extra)).Previews config.outputRoot
      (actions.flatMap (config.plan extra machine.processors)) :=
  previews_forM (fun a => (previews_debug _).bind fun _ => previews_carryOut extra a) actions

theorem previews_execute (config : Configuration) (level : Level) (machine : Machine)
    (actions : List Action) (extra : ExtraArgs) :
    ((preview config level machine).execute (actions.map Action.name) extra).Previews
      config.outputRoot ((Action.requested actions).flatMap
        (config.plan extra machine.processors)) := by
  rw [execute_names, ← List.append_nil (List.flatMap _ _)]
  exact (previews_runActions extra _).bind fun _ =>
    previews_nil [] (fun s => by rw [List.append_nil]; rfl) rfl

end Executor

/-! ## The dry run of the program -/

namespace CommandLine

variable {m : Machine} {a : Arguments}

theorem handle_of_dryRun (dry : a.dryRun = true) (runner : Runner) :
    handle m runner a = handle m .none a := by
  unfold handle
  simp only [dry, if_true]

theorem executorFor_of_dryRun (dry : a.dryRun = true) (runner : Runner) (c : Configuration) :
    executorFor m runner a c = Executor.preview c (consoleOf a).level m := by
  unfold executorFor consoleOf
  rw [dry, if_pos rfl]
  rfl

theorem files_handle_of_dryRun (dry : a.dryRun = true) (runner : Runner) (s : Session) :
    ((handle m runner a).runIn s).2.files = s.files := by
  have previewed (actions : List Action) (c : Configuration) (t : Session) :
      ((carryOut m runner a actions c).runIn t).2.files = t.files := by
    rw [carryOut, executorFor_of_dryRun dry]
    exact (Executor.previews_execute c _ m actions a.extraArgs t).1
  have h := handle_cases m runner a s
  generalize ((handle m runner a).runIn s).1 = r, ((handle m runner a).runIn s).2 = t at h
  cases h with
  | unready fault quiet => exact quiet.1
  | @failed actions c t u e ready quiet hrun =>
    have := previewed actions c t
    rw [hrun] at this
    exact this.trans quiet.1
  | @finished actions as c t u ready quiet hrun =>
    have := previewed actions c t
    rw [hrun] at this
    exact this.trans quiet.1

/-- Asked for a dry run, the program leaves the files as they are and does not use its runner. -/
theorem runArguments_of_dryRun (dry : a.dryRun = true) (runner : Runner) (s : Session) :
    (runArguments m runner a).runIn s = (runArguments m .none a).runIn s ∧
      ((runArguments m runner a).runIn s).2.files = s.files := by
  refine ⟨?_, ?_⟩
  · rw [runIn_runArguments, runIn_runArguments, handle_of_dryRun dry]
  · have files := files_handle_of_dryRun (m := m) dry runner s
    rw [runIn_runArguments]
    match hrun : (handle m runner a).runIn s with
    | (.ok (), t) =>
      rw [hrun] at files
      exact files
    | (.error e, t) =>
      rw [hrun] at files
      exact files

end CommandLine

/-! ## Previews and live runs -/

/-- A run in which nothing fails, unless a command cannot be composed, asks the runner for the
commands in front of the one that cannot. -/
theorem Course.requests {x : Executor} {fs gs : FileSystem} {ts : List Task} {es : List Event}
    {r : Except Failure Unit} (h : Course fs ts es r gs) (genuine : ∀ e ∈ es, e.Genuine x)
    (fine : ∀ e ∈ es, e.failure? = none ∨ e.task = .giveUp) :
    es.filterMap Event.request? = (composable ts).filterMap Task.request? := by
  induction h with
  | done => rfl
  | @next e o ts es r gs went rest ih =>
    have ih := ih (fun e he => genuine e (.tail _ he)) fun e he => fine e (.tail _ he)
    have goes : e.task ≠ .giveUp := fun gives => by
      have := (genuine e (.head _)).failure?_of_giveUp gives
      simp [Event.failure?, went] at this
    have htasks : composable (e.task :: ts) = e.task :: composable ts := by
      simp [composable, goes]
    rw [htasks, List.filterMap_cons, List.filterMap_cons, ih]
    rfl
  | @failed e f ts went =>
    have gives : e.task = .giveUp := by
      rcases fine e (.head _) with h | h
      · simp [Event.failure?, went] at h
      · exact h
    rw [gives]
    simp [composable, Event.request?, gives, Task.request?]

namespace Executor

open Act

/-- A dry run leaves the files alone, has its runner note the commands that a live run of the same
configuration asks its own runner for when nothing fails, and prints a line for each of them and for
each removal. Asked for a dry run, the program neither changes files nor uses its runner. -/
theorem dryRun_previews_live (config : Configuration) (level : Level) (machine : Machine)
    (actions : List Action) (extra : ExtraArgs) (s : Session) :
    let names := actions.map Action.name
    let plan := (Action.requested actions).flatMap (config.plan extra machine.processors)
    let dry := ((preview config level machine).execute names extra).runIn s
    dry.1 = (if .giveUp ∈ plan then .error .longNumber else .ok (Action.requested actions)) ∧
    dry.2.files = s.files ∧
    (∃ notes, dry.2.noted = s.noted ++ notes ∧
      notes = ((composable plan).filterMap Task.request?).map Request.noted ∧
      ∀ (runner : Runner) (console : Console) (other : Machine) (t : Session),
        let live : Executor :=
          ⟨config, runner, console, false, { other with processors := machine.processors }⟩
        ∃ events, ((live.execute names extra).runIn t).2.events = t.events ++ events ∧
          (∀ e ∈ events, e.Genuine live) ∧
          ((∀ e ∈ events, e.failure? = none ∨ e.task = .giveUp) →
            (events.filterMap Event.request?).map Request.noted = notes)) ∧
    (∃ printed, dry.2.printed = s.printed ++ printed ∧ printed.filter Printed.isPreview =
      ((composable plan).filterMap (Task.preview? config.outputRoot)).map previewLine) ∧
    ∀ (args : List String) (a : CommandLine.Arguments),
      CommandLine.Arguments.parse args = .ok a → a.dryRun = true →
      ∀ (runner : Runner) (t : Session),
        let run := (CommandLine.run machine runner args).runIn t
        run.2.files = t.files ∧ run = (CommandLine.run machine .none args).runIn t := by
  intro names plan dry
  obtain ⟨files, noted, printed, ended⟩ :=
    previews_execute config level machine actions extra s
  obtain ⟨-, -, -, -, answer⟩ := execute_course (preview config level machine) actions extra s
  refine ⟨?_, files, ⟨_, noted, rfl, fun runner console other t => ?_⟩, printed, ?_⟩
  · change dry.1.map _ = _ at ended
    change ∀ as, dry.1 = .ok as → _ at answer
    cases hr : dry.1 with
    | ok as =>
      rw [hr] at ended
      rw [answer as hr]
      split at ended
      · cases ended
      · rw [if_neg ‹_›]
    | error f =>
      rw [hr] at ended
      split at ended
      · cases ended
        rw [if_pos ‹_›]
      · cases ended
  · intro live
    obtain ⟨events, hevents, genuine, course, -⟩ := execute_course live actions extra t
    refine ⟨events, hevents, genuine, fun fine => ?_⟩
    rw [course.requests genuine fine]
    rfl
  · intro args a parsed dry runner t run
    obtain ⟨same, keeps⟩ := CommandLine.runArguments_of_dryRun (m := machine) dry runner t
    rw [← CommandLine.run_of_parse parsed, ← CommandLine.run_of_parse parsed] at same
    rw [← CommandLine.run_of_parse parsed] at keeps
    exact ⟨keeps, same⟩

/-- A configuration for retesting in the directory `/p`. -/
def retesting : Configuration where
  buildType := .debug
  toolchain := Registry.gcc
  toolchainArgs := []
  projectDir := ⟨.root, ["p"]⟩
  outputRoot := ⟨.root, ["p", "build"]⟩
  buildDir := ⟨.root, ["p", "build", "gcc", "Debug"]⟩
  skipTests := false
  testFilter := []
  verbose := false
  jobs := none
  generator := "Ninja"
  repeatUntilFail := 3
  headerFilter := "include/"
  missingEnvironment := []

theorem dryRun_previews_live_retesting :
    let start : Session := { files := .empty }
    let live : Executor := ⟨retesting, .recording, {}, false, .faultless⟩
    let lived := (live.execute ["retest"] (.ofSwitches [])).runIn start
    let dry :=
      ((preview retesting .info .faultless).execute ["retest"] (.ofSwitches [])).runIn start
    dry.2.noted = [⟨["ctest", "--rerun-failed", "--output-on-failure"],
      some "/p/build/gcc/Debug", some "Re-run failed tests"⟩] ∧
    (lived.2.events.filterMap Event.request?).map Request.noted = dry.2.noted ∧
    ((CommandLine.run .faultless .recording ["--dry-run"]).runIn start).2.files = .empty := by
  intro start live lived dry
  obtain ⟨-, -, ⟨notes, noted, -, lives⟩, -, runs⟩ :=
    dryRun_previews_live retesting .info .faultless [.retest] (.ofSwitches []) start
  obtain ⟨events, hevents, -, same⟩ := lives .recording {} .faultless start
  have hlived : lived.2.events = [⟨_, _, _, _⟩] := rfl
  have hall : lived.2.events = events := hevents
  have fine : ∀ e ∈ events, e.failure? = none ∨ e.task = .giveUp := by
    rw [← hall, hlived]
    intro e he
    rw [List.mem_singleton] at he
    rw [he]
    exact .inl rfl
  refine ⟨rfl, ?_, (runs ["--dry-run"] _ rfl rfl .recording start).1⟩
  rw [hall, same fine]
  exact noted.symm

end Executor

end BuildPilot
