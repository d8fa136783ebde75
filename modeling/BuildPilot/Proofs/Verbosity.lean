import BuildPilot.Proofs.Preview
import Mathlib.Data.List.Forall2

/-!
# Verbosity

A verbose run differs from a quiet one in flags of its commands and in what it prints. The two runs
are put side by side: from sessions with the same files at the same time, each part of the quiet run
and the same part of the verbose one end alike, and their events correspond one to one.
-/

namespace BuildPilot

open FileSystem

/-! ## Corresponding commands -/

/-- `step.Louder native step'`: what `step` is in a quiet run, `step'` is in a verbose one, where
`native` are the extra arguments for the native tool. -/
inductive Step.Louder (native : List String) : Step → Step → Prop
  | configure (arguments : List String) (cwd : Path) :
      Louder native ⟨"cmake" :: "-S" :: arguments, cwd, "Generate build files"⟩
        ⟨"cmake" :: "-S" :: arguments, cwd, "Generate build files"⟩
  | build (arguments : List String) (cwd : Path) :
      Louder native
        ⟨"cmake" :: "--build" :: arguments ++ (if native.isEmpty then [] else "--" :: native), cwd,
          "Build project"⟩
        ⟨"cmake" :: "--build" :: arguments ++ "--" :: "-v" :: native, cwd, "Build project"⟩
  | test (jobs repeats : Int) (pattern : Option String) (cwd : Path) :
      Louder native
        ⟨["ctest", "-j", toString jobs, "--schedule-random", "--repeat-until-fail",
          toString repeats, "--output-on-failure"] ++ (pattern.elim [] fun p => ["-R", p]), cwd,
          "Run tests"⟩
        ⟨["ctest", "-j", toString jobs, "--schedule-random", "--repeat-until-fail",
          toString repeats, "--output-on-failure"] ++ "-V" :: (pattern.elim [] fun p => ["-R", p]),
          cwd, "Run tests"⟩
  | retest (cwd : Path) :
      Louder native ⟨["ctest", "--rerun-failed", "--output-on-failure"], cwd, "Re-run failed tests"⟩
        ⟨["ctest", "--rerun-failed", "--output-on-failure", "-V"], cwd, "Re-run failed tests"⟩
  | analyze (buildDir filter : String) (cwd : Path) :
      Louder native
        ⟨["run-clang-tidy", "-p", buildDir, filter, "-quiet"], cwd, "Run static analysis"⟩
        ⟨["run-clang-tidy", "-p", buildDir, filter], cwd, "Run static analysis"⟩

/-- Tasks that correspond are the same, but for the flags of a command. -/
inductive Task.Louder (native : List String) : Task → Task → Prop
  | run {step step' : Step} (h : step.Louder native step') :
      Louder native (.run step) (.run step')
  | same {t : Task} (h : ∀ step, t ≠ .run step) : Louder native t t

/-- Events that correspond: tasks that do, undertaken on the same files with the same result. -/
structure Event.Louder (native : List String) (e e' : Event) : Prop where
  task : e.task.Louder native e'.task
  before : e.before = e'.before
  after : e.after = e'.after
  failure : e.failure? = e'.failure?

/-- The step that an event ran. -/
def Event.step? (e : Event) : Option Step :=
  match e.task with
  | .run step => some step
  | _ => none

namespace Step.Louder

variable {native : List String} {step step' : Step}

theorem cwd_eq (h : step.Louder native step') : step.cwd = step'.cwd := by
  cases h <;> rfl

theorem description_eq (h : step.Louder native step') : step.description = step'.description := by
  cases h <;> rfl

end Step.Louder

theorem Event.Louder.step? {native : List String} {e e' : Event} (h : e.Louder native e') :
    Option.Rel (Step.Louder native) e.step? e'.step? := by
  have task := h.task
  unfold Event.step?
  generalize e.task = t, e'.task = t' at task
  cases task with
  | run hstep => exact .some hstep
  | same other =>
    cases t with
    | run step => exact absurd rfl (other step)
    | _ => exact .none

namespace Configuration

variable (c : Configuration) (extra : ExtraArgs)

theorem buildSteps_louder :
    ({ c with verbose := false }.buildSteps extra).Forall₂ (Step.Louder extra.native)
      ({ c with verbose := true }.buildSteps extra) := by
  refine .cons (.configure _ _) (.cons ?_ .nil)
  exact .build (c.buildDir.toString :: "-j" :: c.jobArguments ++ extra.build) c.projectDir

/-- A pattern that is empty selects nothing, as no pattern does. -/
theorem testCommand_eq (processors : Option Nat) : c.testCommand processors =
    ["ctest", "-j", toString (c.testJobs processors), "--schedule-random", "--repeat-until-fail",
      toString c.repeatUntilFail, "--output-on-failure"] ++ (if c.verbose then ["-V"] else []) ++
      (c.testPattern?.filter fun p => !p.isEmpty).elim [] fun p => ["-R", p] := by
  unfold testCommand
  congr 1
  cases c.testPattern? with
  | none => rfl
  | some p => cases hp : p.isEmpty <;> simp [Option.filter, hp]

theorem testSteps_louder (native : List String) (processors : Option Nat) :
    ({ c with verbose := false }.testSteps processors).Forall₂ (Step.Louder native)
      ({ c with verbose := true }.testSteps processors) := by
  unfold testSteps
  rw [testCommand_eq, testCommand_eq]
  exact .cons (.test (c.testJobs processors) c.repeatUntilFail
    (c.testPattern?.filter fun p => !p.isEmpty) c.buildDir) .nil

/-- The commands of an action by itself correspond to those of the verbose configuration. -/
theorem ownSteps_louder (processors : Option Nat) :
    ∀ a : Action, ({ c with verbose := false }.ownSteps extra processors a).Forall₂
      (Step.Louder extra.native) ({ c with verbose := true }.ownSteps extra processors a)
  | .build => buildSteps_louder c extra
  | .rebuild => buildSteps_louder c (extra.extended _)
  | .clean => buildSteps_louder c (extra.extended _)
  | .cleanall => .nil
  | .test => testSteps_louder c _ processors
  | .retest => .cons (.retest c.buildDir) .nil
  | .analyze =>
    .cons (.analyze c.buildDir.toString ("-header-filter=" ++ c.headerFilter) c.buildDir) .nil

end Configuration

/-! ## Acts side by side -/

/-- The sessions have the same files at the same time. -/
structure Session.Agrees (s t : Session) : Prop where
  files : s.files = t.files
  clock : s.clock = t.clock

/-- From `s` on to `s'` and from `t` on to `t'`, the events correspond one to one. -/
def Session.Paired (R : Event → Event → Prop) (s t s' t' : Session) : Prop :=
  ∃ es fs, s'.events = s.events ++ es ∧ t'.events = t.events ++ fs ∧ es.Forall₂ R fs

namespace Session.Paired

variable {R : Event → Event → Prop} {s t s' t' s'' t'' : Session}

theorem of_same_events (hs : s'.events = s.events) (ht : t'.events = t.events) :
    Paired R s t s' t' :=
  ⟨[], [], by rw [hs, List.append_nil], by rw [ht, List.append_nil], .nil⟩

theorem trans (h : Paired R s t s' t') (h' : Paired R s' t' s'' t'') : Paired R s t s'' t'' := by
  obtain ⟨es, fs, hes, hfs, pairs⟩ := h
  obtain ⟨es', fs', hes', hfs', pairs'⟩ := h'
  refine ⟨es ++ es', fs ++ fs', ?_, ?_, List.rel_append pairs pairs'⟩
  · rw [hes', hes, List.append_assoc]
  · rw [hfs', hfs, List.append_assoc]

end Session.Paired

namespace Act

variable {α β γ : Type} {R : Event → Event → Prop}

/-- Started in sessions that agree, the acts come to the same, in sessions that agree again, with
events that correspond. -/
def Parallel (R : Event → Event → Prop) (act act' : Act α) : Prop :=
  ∀ s t, s.Agrees t → (act.runIn s).1 = (act'.runIn t).1 ∧
    (act.runIn s).2.Agrees (act'.runIn t).2 ∧
    Session.Paired R s t (act.runIn s).2 (act'.runIn t).2

theorem parallel_pure (a : α) : Parallel R (pure a) (pure a) :=
  fun _ _ agree => ⟨rfl, agree, .of_same_events rfl rfl⟩

theorem parallel_throw (e : Failure) : Parallel R (throw e : Act α) (throw e) :=
  fun _ _ agree => ⟨rfl, agree, .of_same_events rfl rfl⟩

theorem parallel_print (ps ps' : List Printed) : Parallel R (print ps) (print ps') :=
  fun _ _ agree => ⟨rfl, ⟨agree.files, agree.clock⟩, .of_same_events rfl rfl⟩

theorem parallel_get {f g : Session → Act α}
    (h : ∀ s t, s.Agrees t → Parallel R (f s) (g t)) :
    Parallel R (get >>= f) (get >>= g) := by
  intro s t agree
  rw [runIn_bind_ok (runIn_get s), runIn_bind_ok (runIn_get t)]
  exact h s t agree s t agree

theorem Parallel.bind {act act' : Act α} {f g : α → Act β} (h : act.Parallel R act')
    (hf : ∀ a, (f a).Parallel R (g a)) : (act >>= f).Parallel R (act' >>= g) := by
  intro s t agree
  obtain ⟨same, agree', pairs⟩ := h s t agree
  rw [runIn_bind, runIn_bind]
  match hr : act.runIn s, hr' : act'.runIn t with
  | (.ok a, s'), (r, t') =>
    rw [hr, hr'] at same agree' pairs
    cases same
    obtain ⟨same', agree'', pairs'⟩ := hf a s' t' agree'
    exact ⟨same', agree'', pairs.trans pairs'⟩
  | (.error e, s'), (r, t') =>
    rw [hr, hr'] at same agree' pairs
    cases same
    exact ⟨rfl, agree', pairs⟩

theorem Parallel.discard {act act' : Act α} (h : act.Parallel R act') :
    (discard act).Parallel R (discard act') := by
  rw [discard_eq_bind, discard_eq_bind]
  exact h.bind fun _ => parallel_pure ()

theorem parallel_orFail (failure : FileError → Failure) :
    ∀ r : Except FileError α, Parallel R (orFail failure r) (orFail failure r)
  | .ok a => parallel_pure a
  | .error e => parallel_throw (failure e)

theorem parallel_ask (f : FileSystem → Except FileError α) : Parallel R (ask f) (ask f) := by
  refine parallel_get fun s t agree => ?_
  rw [agree.files]
  exact parallel_orFail .file _

theorem parallel_look (faults : Faults) (op : Operation)
    (f : FileSystem → Except FileError α) : Parallel R (look faults op f) (look faults op f) := by
  refine parallel_get fun s t agree => ?_
  rw [agree.files, agree.clock]
  exact parallel_pure _

theorem parallel_changeLeaving (left : Nat → FileSystem → FileSystem) (faults : Faults)
    (op : Operation) (f : FileSystem → Except FileError FileSystem) :
    Parallel R (changeLeaving left faults op f) (changeLeaving left faults op f) := by
  intro s t agree
  unfold changeLeaving
  rw [runIn_bind_ok (runIn_get s), runIn_bind_ok (runIn_get t)]
  rw [agree.files, agree.clock]
  split
  · exact ⟨rfl, ⟨rfl, rfl⟩, .of_same_events rfl rfl⟩
  · exact ⟨rfl, ⟨rfl, rfl⟩, .of_same_events rfl rfl⟩

theorem parallel_change (faults : Faults) (op : Operation)
    (f : FileSystem → Except FileError FileSystem) :
    Parallel R (change faults op f) (change faults op f) :=
  parallel_changeLeaving _ faults op f

theorem parallel_forM {P : β → γ → Prop} {f : β → Act Unit} {g : γ → Act Unit}
    (h : ∀ b c, P b c → (f b).Parallel R (g c)) {l : List β} {l' : List γ} (hl : l.Forall₂ P l') :
    (l.forM f).Parallel R (l'.forM g) := by
  induction hl with
  | nil => exact parallel_pure ()
  | cons hbc _ ih => exact (h _ _ hbc).bind fun _ => ih

theorem parallel_mapM {f g : β → Act α} (h : ∀ b, (f b).Parallel R (g b)) :
    ∀ l : List β, (l.mapM f).Parallel R (l.mapM g)
  | [] => by
    rw [List.mapM_nil, List.mapM_nil]
    exact parallel_pure []
  | b :: l => by
    rw [List.mapM_cons, List.mapM_cons]
    exact (h b).bind fun a => (parallel_mapM h l).bind fun as => parallel_pure (a :: as)

theorem parallel_filterAuxM {f g : β → Act Bool} (h : ∀ b, (f b).Parallel R (g b)) :
    ∀ l acc : List β, (l.filterAuxM f acc).Parallel R (l.filterAuxM g acc)
  | [], acc => parallel_pure acc
  | b :: l, acc => (h b).bind fun y => parallel_filterAuxM h l (cond y (b :: acc) acc)

theorem parallel_filterM {f g : β → Act Bool} (h : ∀ b, (f b).Parallel R (g b)) (l : List β) :
    (l.filterM f).Parallel R (l.filterM g) :=
  (parallel_filterAuxM h l []).bind fun found => parallel_pure found.reverse

theorem Parallel.undertaking {native : List String} {act act' : Act (Option Command.Outcome)}
    (h : act.Parallel (Event.Louder native) act') {t : Task} (other : ∀ step, t ≠ .run step) :
    (undertaking t act).Parallel (Event.Louder native) (undertaking t act') := by
  intro s s' agree
  obtain ⟨same, agree', pairs⟩ := h s s' agree
  rw [runIn_undertaking, runIn_undertaking, ← same]
  refine ⟨rfl, ⟨agree'.files, agree'.clock⟩, pairs.trans ⟨_, _, rfl, rfl, .cons ?_ .nil⟩⟩
  exact ⟨.same other, agree.files, agree'.files, rfl⟩

end Act

/-! ## Runners that succeed -/

/-- Both runners answer every command by success, and corresponding commands leave the same
files. -/
structure Runner.Alike (native : List String) (quiet loud : Runner) : Prop where
  quiet_succeeds : ∀ clock fs r, ∃ o, (quiet.run clock fs r).result = .ok o
  loud_succeeds : ∀ clock fs r, ∃ o, (loud.run clock fs r).result = .ok o
  files : ∀ clock fs step step', Step.Louder native step step' →
    (quiet.run clock fs step.request).files = (loud.run clock fs step'.request).files

theorem Runner.alike_recording (native : List String) :
    Runner.Alike native .recording .recording where
  quiet_succeeds _ _ _ := ⟨_, rfl⟩
  loud_succeeds _ _ _ := ⟨_, rfl⟩
  files _ _ _ _ _ := rfl

/-! ## The executor -/

namespace Executor

open Act

/-- The quiet run of an executor. -/
def quiet (x : Executor) : Executor := { x with config := { x.config with verbose := false } }

/-- The verbose run of an executor, with a runner and a console of its own. -/
def loud (x : Executor) (runner : Runner) (console : Console) : Executor :=
  { x with config := { x.config with verbose := true }, runner := runner, console := console }

variable {x : Executor} {runner : Runner} {console : Console} {R : Event → Event → Prop}

theorem parallel_removeOutput :
    x.quiet.removeOutput.Parallel R (x.loud runner console).removeOutput := by
  unfold removeOutput
  refine (parallel_ask _).bind fun there => ?_
  split
  · exact parallel_print _ _
  · refine (parallel_print _ _).bind fun _ => ?_
    exact (parallel_changeLeaving _ _ _ _).bind fun r => parallel_orFail _ r

theorem parallel_makeExecutable (p : Path) :
    (x.quiet.makeExecutable p).Parallel R ((x.loud runner console).makeExecutable p) := by
  unfold makeExecutable
  refine (parallel_ask _).bind fun mode => ?_
  split
  · exact parallel_pure false
  · refine (parallel_change _ _ _).bind fun r => ?_
    exact (parallel_orFail _ r).bind fun _ => parallel_pure true

theorem parallel_builtFiles (pattern : String) :
    (x.quiet.builtFiles pattern).Parallel R ((x.loud runner console).builtFiles pattern) := by
  unfold builtFiles
  split
  · exact parallel_throw _
  · exact parallel_ask _

theorem parallel_fixPermissions :
    x.quiet.fixPermissions.Parallel R (x.loud runner console).fixPermissions := by
  have fix (pattern : String) :
      (x.quiet.fixPattern pattern).Parallel R ((x.loud runner console).fixPattern pattern) :=
    (parallel_builtFiles pattern).bind fun found => parallel_filterM parallel_makeExecutable found
  unfold fixPermissions
  refine (parallel_ask _).bind fun dir => ?_
  split
  · exact parallel_pure []
  · refine (parallel_mapM fix _).bind fun fixed => ?_
    exact (parallel_print _ _).bind fun _ => parallel_pure _

theorem parallel_freeTarget :
    x.quiet.freeTarget.Parallel R (x.loud runner console).freeTarget := by
  unfold freeTarget
  refine (parallel_look _ _ _).bind fun occupied => ?_
  split
  · exact parallel_pure _
  · exact parallel_pure _
  · exact parallel_change _ _ _

theorem parallel_placeDatabase :
    x.quiet.placeDatabase.Parallel R (x.loud runner console).placeDatabase := by
  unfold placeDatabase
  change Parallel R (if x.machine.copies then _ else _) (if x.machine.copies then _ else _)
  split
  · exact parallel_change _ _ _
  · refine (parallel_change _ _ _).bind fun linked => ?_
    split
    · exact parallel_pure _
    · exact parallel_change _ _ _

theorem parallel_replaceDatabase :
    x.quiet.replaceDatabase.Parallel R (x.loud runner console).replaceDatabase := by
  unfold replaceDatabase
  refine (parallel_look _ _ _).bind fun there => ?_
  split
  · exact parallel_pure _
  · exact parallel_pure _
  · refine parallel_freeTarget.bind fun freed => ?_
    split
    · exact parallel_pure _
    · exact parallel_placeDatabase.bind fun r => parallel_pure _

theorem parallel_publish : x.quiet.publish.Parallel R (x.loud runner console).publish := by
  unfold publish
  refine parallel_replaceDatabase.bind fun r => ?_
  split <;> exact (parallel_print _ _).bind fun _ => parallel_pure _

/-! ## Whole runs -/

variable {extra : ExtraArgs}

theorem runIn_undertake_run {step : Step} {s : Session} {o : Command.Outcome}
    (ho : (x.runner.run s.clock s.files step.request).result = .ok o) :
    let reply := x.runner.run s.clock s.files step.request
    (x.undertake (.run step)).runIn s = (.ok (), {
      files := reply.files
      clock := s.clock + 1
      printed := s.printed ++ reply.lines.map (Printed.mk .out · true)
      noted := s.noted ++ reply.noted
      events := s.events ++ [⟨.run step, s.files, reply.files, .ok (some o)⟩] }) := by
  intro reply
  have run := runIn_command x.runner step.request s
  dsimp only at run
  rw [ho] at run
  rw [undertake, runIn_undertaking, operation, runIn_bind_ok run]
  rfl

theorem parallel_undertake {t : Task} (other : ∀ step, t ≠ .run step) :
    (x.quiet.undertake t).Parallel (Event.Louder extra.native)
      ((x.loud runner console).undertake t) := by
  refine Parallel.undertaking ?_ other
  cases t with
  | run step => exact absurd rfl (other step)
  | fixPermissions => exact parallel_fixPermissions.discard.bind fun _ => parallel_pure none
  | publish => exact parallel_publish.discard.bind fun _ => parallel_pure none
  | removeOutput => exact parallel_removeOutput.bind fun _ => parallel_pure none
  | giveUp => exact parallel_throw _

theorem parallel_afterBuild :
    x.quiet.afterBuild.Parallel (Event.Louder extra.native)
      (x.loud runner console).afterBuild := by
  have publish : (x.quiet.undertake .publish).Parallel (Event.Louder extra.native)
      ((x.loud runner console).undertake .publish) := parallel_undertake nofun
  have fix : (x.quiet.undertake .fixPermissions).Parallel (Event.Louder extra.native)
      ((x.loud runner console).undertake .fixPermissions) := parallel_undertake nofun
  change Parallel _ (if x.dryRun then _ else _) (if x.dryRun then _ else _)
  split
  · exact parallel_pure ()
  · change Parallel _ (if x.config.toolchain.needsPermissionFix then _ else _)
      (if x.config.toolchain.needsPermissionFix then _ else _)
    split
    · exact fix.bind fun _ => publish
    · exact publish

theorem parallel_cleanall :
    x.quiet.cleanall.Parallel (Event.Louder extra.native) (x.loud runner console).cleanall := by
  change Parallel _ (if x.dryRun then _ else _) (if x.dryRun then _ else _)
  split
  · exact parallel_print _ _
  · exact parallel_undertake nofun

section Runs

variable (alike : Runner.Alike extra.native x.runner runner)
include alike

/-- Corresponding steps are run alike. -/
theorem parallel_runStep {step step' : Step} (h : step.Louder extra.native step') :
    (x.quiet.runStep step).Parallel (Event.Louder extra.native)
      ((x.loud runner console).runStep step') := by
  refine (parallel_print _ _).bind fun _ => ?_
  intro s t agree
  obtain ⟨o, ho⟩ := alike.quiet_succeeds s.clock s.files step.request
  obtain ⟨o', ho'⟩ := alike.loud_succeeds t.clock t.files step'.request
  have files := alike.files t.clock t.files step step' h
  rw [runIn_undertake_run (x := x.quiet) ho,
    runIn_undertake_run (x := x.loud runner console) ho', agree.clock, agree.files]
  refine ⟨rfl, ⟨files, rfl⟩, ⟨[_], [_], rfl, rfl, .cons ?_ .nil⟩⟩
  exact ⟨.run h, rfl, files, rfl⟩

theorem parallel_runSteps (a : Action) :
    (x.quiet.runSteps extra a).Parallel (Event.Louder extra.native)
      ((x.loud runner console).runSteps extra a) := by
  have steps : (x.quiet.config.ownSteps extra x.quiet.machine.processors a).Forall₂
      (Step.Louder extra.native) ((x.loud runner console).config.ownSteps extra
        (x.loud runner console).machine.processors a) :=
    Configuration.ownSteps_louder x.config extra x.machine.processors a
  have numbers : x.quiet.config.ownNumbers x.quiet.machine.processors a =
      (x.loud runner console).config.ownNumbers (x.loud runner console).machine.processors a := by
    cases a <;> rfl
  unfold runSteps Configuration.ownSteps?
  rw [numbers]
  by_cases fits : ((x.loud runner console).config.ownNumbers
      (x.loud runner console).machine.processors a).all Numeric.isWritable = true
  · rw [if_pos fits, if_pos fits]
    dsimp only
    exact parallel_forM (fun _ _ h => parallel_runStep alike h) steps
  · rw [if_neg fits, if_neg fits]
    exact parallel_undertake nofun

theorem parallel_build :
    (x.quiet.build extra).Parallel (Event.Louder extra.native)
      ((x.loud runner console).build extra) :=
  (parallel_runSteps alike .build).bind fun _ => parallel_afterBuild

/-- Carrying out an action goes alike in the quiet and in the verbose run. -/
theorem parallel_carryOut :
    ∀ a : Action, (x.quiet.carryOut extra a).Parallel (Event.Louder extra.native)
      ((x.loud runner console).carryOut extra a)
  | .build => parallel_build alike
  | .rebuild => (parallel_runSteps alike .rebuild).bind fun _ => parallel_afterBuild
  | .clean => parallel_runSteps alike .clean
  | .cleanall => parallel_cleanall
  | .test => (parallel_build alike).bind fun _ => parallel_runSteps alike .test
  | .retest => parallel_runSteps alike .retest
  | .analyze => (parallel_build alike).bind fun _ => parallel_runSteps alike .analyze

theorem parallel_execute (actions : List Action) :
    (x.quiet.execute (actions.map Action.name) extra).Parallel (Event.Louder extra.native)
      ((x.loud runner console).execute (actions.map Action.name) extra) := by
  rw [execute_names, execute_names]
  refine Parallel.bind ?_ fun _ => parallel_pure _
  refine parallel_forM (P := Eq) (fun a _ same => ?_) (List.forall₂_same.mpr fun _ _ => rfl)
  subst same
  exact (parallel_print _ _).bind fun _ => parallel_carryOut alike a

end Runs

/-- A verbose run undertakes the tasks of the quiet run on the same files, leaves the same files and
ends alike; only flags of its commands are others. -/
theorem verbosity_changes_flags (x : Executor) (runner : Runner) (console : Console)
    (actions : List Action) (extra : ExtraArgs) (s : Session)
    (alike : Runner.Alike extra.native x.runner runner) :
    let names := actions.map Action.name
    let plan := (Action.requested actions).flatMap
      (x.quiet.config.plan extra x.machine.processors)
    let run := (x.quiet.execute names extra).runIn s
    let run' := ((x.loud runner console).execute names extra).runIn s
    ∃ events events', run.2.events = s.events ++ events ∧ run'.2.events = s.events ++ events' ∧
      (∀ e ∈ events, e.Genuine x.quiet) ∧ (∀ e ∈ events', e.Genuine (x.loud runner console)) ∧
      Course s.files (x.undertaken plan) events (run.1.map fun _ => ()) run.2.files ∧
      run.1 = run'.1 ∧ run.2.files = run'.2.files ∧
      events.Forall₂ (Event.Louder extra.native) events' ∧
      let steps := events.filterMap Event.step?
      let steps' := events'.filterMap Event.step?
      steps.Forall₂ (Step.Louder extra.native) steps' ∧
      steps.map Step.cwd = steps'.map Step.cwd ∧
      steps.map Step.description = steps'.map Step.description := by
  intro names plan run run'
  obtain ⟨es, hes, genuine, course, -⟩ := execute_course x.quiet actions extra s
  obtain ⟨es', hes', genuine', -, -⟩ := execute_course (x.loud runner console) actions extra s
  have parallel : (x.quiet.execute names extra).Parallel (Event.Louder extra.native)
      ((x.loud runner console).execute names extra) := parallel_execute alike actions
  obtain ⟨same, agree, fs, fs', hfs, hfs', pairs⟩ := parallel s s ⟨rfl, rfl⟩
  cases List.append_cancel_left (hes.symm.trans hfs)
  cases List.append_cancel_left (hes'.symm.trans hfs')
  have steps : (es.filterMap Event.step?).Forall₂ (Step.Louder extra.native)
      (es'.filterMap Event.step?) :=
    List.rel_filterMap (fun _ _ h => h.step?) pairs
  refine ⟨es, es', hes, hes', genuine, genuine', course, same, agree.files, pairs, steps, ?_, ?_⟩
  · rw [← List.forall₂_eq_eq_eq]
    exact List.rel_map (fun _ _ h => h.cwd_eq) steps
  · rw [← List.forall₂_eq_eq_eq]
    exact List.rel_map (fun _ _ h => h.description_eq) steps

theorem verbosity_changes_flags_testing :
    let x : Executor :=
      ⟨{ retesting with testFilter := ["parser"] }, .recording, {}, false, .faultless⟩
    let extra : ExtraArgs := { native := ["-k"] }
    let start : Session := { files := .empty }
    let run := (x.quiet.execute ["test"] extra).runIn start
    let run' := ((x.loud .recording ⟨.debug, false⟩).execute ["test"] extra).runIn start
    Runner.Alike extra.native .recording .recording ∧
    (run.2.noted.map Noted.command).tail =
      [["cmake", "--build", "/p/build/gcc/Debug", "-j", "--", "-k"],
        ["ctest", "-j", "1", "--schedule-random", "--repeat-until-fail", "3",
          "--output-on-failure", "-R", "parser"]] ∧
    (run'.2.noted.map Noted.command).tail =
      [["cmake", "--build", "/p/build/gcc/Debug", "-j", "--", "-v", "-k"],
        ["ctest", "-j", "1", "--schedule-random", "--repeat-until-fail", "3",
          "--output-on-failure", "-V", "-R", "parser"]] ∧
    run.1 = run'.1 ∧ run.2.files = run'.2.files := by
  intro x extra start run run'
  have alike := Runner.alike_recording extra.native
  have names : [Action.test].map Action.name = ["test"] := rfl
  obtain ⟨_, _, _, _, _, _, _, ended, files, _⟩ :=
    verbosity_changes_flags x .recording ⟨.debug, false⟩ [.test] extra start alike
  rw [names] at ended files
  refine ⟨alike, by decide +kernel, by decide +kernel, ended, ?_⟩
  simp only [run, run']
  exact files

end Executor

end BuildPilot
