import BuildPilot.Proofs.ExitStatus
import BuildPilot.Proofs.Search

/-!
# Failures that escape

Most failures are answered with a message and an exit status; the others escape the program as they
are. `failures_answered` says which way every accepted request goes: while it is set up, by the
failure that setting up comes to; afterwards, only a number that cannot be written and a command
that cannot even be handed to the operating system escape.
-/

namespace BuildPilot

open FileSystem Document

/-- The exit status with which a failure is answered; without one it escapes. -/
def Failure.status? : Failure → Option Nat
  | config _ => some CommandLine.statusUsage
  | unknownActions _ => some CommandLine.statusUsage
  | command _ => some CommandLine.statusFailed
  | file _ => some CommandLine.statusFailed
  | interrupted => some CommandLine.statusInterrupted
  | _ => none

theorem Failure.status?_of_proper {e : Failure} {n : Nat} (h : e.status? = some n)
    (proper : e.isUsage = false) :
    n = CommandLine.statusFailed ∨ n = CommandLine.statusInterrupted := by
  cases e with
  | config => cases proper
  | unknownActions => cases proper
  | command => exact .inl (Option.some.inj h).symm
  | file => exact .inl (Option.some.inj h).symm
  | interrupted => exact .inr (Option.some.inj h).symm
  | _ => cases h

/-! ## Failures of tasks -/

/-- The rule that every failure is answered. -/
def Rule.answered : Rule where
  follows _ _ := True
  allows e := e.status? ≠ none
  refl _ := trivial
  trans _ _ := trivial

/-- The patterns of the toolchains to choose from can all be searched for. -/
theorem Rule.answered_freesFiles {x : Executor}
    (toolchain : x.config.toolchain ∈ Registry.builtin.toolchains) :
    Rule.answered.FreesFiles x where
  print _ _ _ := trivial
  files _ _ _ := trivial
  file _ h := by cases h
  pattern _ known fault h := by
    rw [selectorsOf_builtin toolchain known] at h
    cases h

/-- A task that ended in a failure that escapes: a command could not be composed, or it was
malformed. -/
def Event.Escapes (launcher : Runner.Launcher) (e : Event) (f : Failure) : Prop :=
  e.result = .error f ∧ ((e.task = .giveUp ∧ f = .longNumber) ∨
    ∃ step clock fault, e.task = .run step ∧ f = fault.failure ∧
      launcher clock e.before step.command (some step.cwd) = .malformed fault)

namespace CommandLine

variable {m : Machine} {launcher : Runner.Launcher} {a : Arguments} {c : Configuration}

/-- Of the commands that are started, only malformed ones escape. -/
theorem malformed_of_escapes {clock : Nat} {fs : FileSystem} {r : Request} {f : Failure}
    (h : ((Runner.launching launcher).run clock fs r).result = .error f)
    (escapes : f.status? = none) :
    ∃ fault, launcher clock fs r.command r.cwd = .malformed fault ∧ f = fault.failure := by
  unfold Runner.launching at h
  dsimp only at h
  cases hl : launcher clock fs r.command r.cwd with
  | malformed fault =>
    rw [hl] at h
    cases h
    exact ⟨fault, rfl, rfl⟩
  | interrupted lines files =>
    rw [hl] at h
    cases h
    cases escapes
  | refused error file =>
    rw [hl] at h
    rw [(Runner.checked_eq_error h).1] at escapes
    cases escapes
  | ran output status files =>
    rw [hl] at h
    rw [(Runner.checked_eq_error h).1] at escapes
    cases escapes

theorem escapes_of_genuine {e : Event} {f : Failure}
    (genuine : e.Genuine (executorFor m (.launching launcher) a c))
    (toolchain : c.toolchain ∈ Registry.builtin.toolchains) (failed : e.result = .error f)
    (escapes : f.status? = none) : e.Escapes launcher f := by
  refine ⟨failed, ?_⟩
  -- the executor's own work on files only fails over files, and that is answered
  have answered : (∀ step, e.task ≠ .run step) → e.task ≠ .giveUp → False := by
    intro own number
    obtain ⟨s, t, -, hrun, -⟩ := genuine
    have keeps := Executor.keepsTo_operation
      (Rule.answered_freesFiles (x := executorFor m (.launching launcher) a c) toolchain) e.task
      (fun h => absurd h number) (fun step h => absurd h (own step)) s
    rw [hrun] at keeps
    exact keeps.2 f failed escapes
  cases task : e.task with
  | run step =>
    obtain ⟨clock, hr⟩ := genuine.reply_eq_error task failed
    obtain ⟨fault, malformed, rfl⟩ := malformed_of_escapes (runner_eq_error hr).2 escapes
    exact .inr ⟨step, clock, fault, rfl, rfl, malformed⟩
  | giveUp =>
    have gives := genuine.failure?_of_giveUp task
    rw [Event.failure?, failed] at gives
    cases gives
    exact .inl ⟨rfl, rfl⟩
  | _ => exact (answered (by simp [task]) (by simp [task])).elim

/-! ## Whole requests -/

/-- How a request ends in a failure. -/
def answer (e : Failure) : Except Failure Exit :=
  match e.status? with
  | some status => .ok ⟨status, false⟩
  | none => .error e

theorem ended_fst (a : Arguments) (e : Failure) : (ended a e).1 = answer e := by
  cases e <;> rfl

namespace Ending

variable {s : Session} {r : Except Failure Exit} {fs : FileSystem} {es : List Event}
  {ps : List Printed}

theorem of_unready (h : Ending m launcher a s r fs es ps) {e : Failure}
    (fault : setUp m a s.files = .error e) : r = answer e ∧ fs = s.files ∧ es = [] := by
  cases h with
  | unready fault' =>
    rw [fault] at fault'
    cases fault'
    exact ⟨ended_fst a e, rfl, rfl⟩
  | failed ready =>
    rw [fault] at ready
    cases ready
  | finished ready =>
    rw [fault] at ready
    cases ready

theorem of_ready (h : Ending m launcher a s r fs es ps) {ready : List Action × Configuration}
    (hready : setUp m a s.files = .ok ready) :
    (∃ exit, r = .ok exit ∧ exit.status ∈ [statusOk, statusFailed, statusInterrupted]) ∨
      ∃ f before last, r = .error f ∧ es = before ++ [last] ∧ last.Escapes launcher f ∧
        ∀ e ∈ before, e.failure? = none := by
  cases h with
  | unready fault =>
    rw [hready] at fault
    cases fault
  | finished => exact .inl ⟨_, rfl, by simp⟩
  | @failed actions c e fs es ps ready quiet genuine course proper =>
    rw [ended_fst, answer]
    cases hstatus : e.status? with
    | some n =>
      refine .inl ⟨_, rfl, ?_⟩
      rcases Failure.status?_of_proper hstatus proper with rfl | rfl <;> simp
    | none =>
      obtain ⟨before, last, rfl, hlast, went⟩ := course.last_of_error
      have toolchain := (resolve_eq_ok (setUp_eq_ok ready).2).2.2.1
      have failed := Event.result_of_failure? hlast
      exact .inr ⟨e, before, last, rfl, rfl,
        escapes_of_genuine (genuine last (by simp)) toolchain failed hstatus, went⟩

end Ending

end CommandLine

/-! ## Documents that cannot be read -/

/-- The failure to read a document that a file of defaults is not blamed for. -/
def Document.SourceFault.unblamed? : SourceFault → Option ReadError
  | malformed e => if e.isBlamed then none else some e
  | _ => none

/-- The defaults of a project are to be read from the file at this path. -/
def Defaults.ComeFrom (fs : FileSystem) (cwd : Location) (projectDir : Path)
    (requested : Option Path) (path : Path) : Prop :=
  isFileAt fs cwd path = .ok true ∧ match requested with
    | some p => path = requestedPath projectDir p
    | none => findDocument fs cwd projectDir defaultsStem [] = .ok (.one path)

theorem Defaults.load_of_unreadable {fs : FileSystem} {cwd : Location} {projectDir path : Path}
    {requested : Option Path} {e : SourceFault}
    (source : ComeFrom fs cwd projectDir requested path)
    (bad : readDocument fs cwd path = .error e) :
    load fs cwd projectDir requested = .error (unreadable path.toString e) := by
  obtain ⟨there, chosen⟩ := source
  have file : loadFile fs cwd path = .error (unreadable path.toString e) := by
    unfold loadFile
    rw [there, bad]
    rfl
  unfold load
  cases requested with
  | some p => rw [← file, chosen]
  | none =>
    dsimp only at chosen ⊢
    rw [chosen]
    exact file

namespace CommandLine

theorem setUp_of_unreadable {m : Machine} {a : Arguments} {fs : FileSystem}
    {actions : List Action} (valid : Action.validate a.actions = .ok actions)
    (kept : a.dropped.contains .config = false) {projectDir path : Path}
    (project : projectDirectory (m.host fs) a.options = .ok projectDir)
    (source : Defaults.ComeFrom fs m.cwd projectDir a.options.configFile path) {e : SourceFault}
    (bad : readDocument fs m.cwd path = .error e) :
    setUp m a fs = .error (.ofResolve (.ofLoad (Defaults.unreadable path.toString e))) := by
  have unresolved : resolve (m.host fs) .builtin a.options none =
      .error (.ofLoad (Defaults.unreadable path.toString e)) := by
    unfold resolve
    rw [project]
    change (Except.mapError ResolveFault.ofLoad (Defaults.load fs m.cwd projectDir
      a.options.configFile) >>= _) = _
    rw [Defaults.load_of_unreadable source bad]
    rfl
  unfold setUp configured
  rw [valid, kept, unresolved]
  rfl

theorem answer_unreadable (source : String) (e : SourceFault) :
    answer (.ofResolve (.ofLoad (Defaults.unreadable source e))) = match e.unblamed? with
      | none => .ok ⟨statusUsage, false⟩
      | some e => .error (.document e) := by
  cases e with
  | malformed r =>
    unfold SourceFault.unblamed? Defaults.unreadable
    dsimp only
    by_cases blamed : r.isBlamed = true
    · rw [if_pos blamed, if_pos blamed]
      rfl
    · rw [if_neg blamed, if_neg blamed]
      rfl
  | _ => rfl

/-- An accepted request that cannot be set up changes nothing, and it ends with the exit status of
the failure that setting up comes to, or with this failure if it has none. A request that is set up
ends with status 0, 1 or 130, unless its last task fails because a number in its commands cannot be
written or because its command is malformed. A file of defaults that cannot be read gives status 2,
unless the failure is one that the file is not blamed for.

Three failures are outside the model: the recursion limit of the interpreter, which a long chain of
links or a deep tree of directories reaches; a text that the stream it is printed to cannot encode;
and a lone surrogate from a document, which the model reads as the replacement character. -/
theorem failures_answered (m : Machine) (launcher : Runner.Launcher) (args : List String)
    (a : Arguments) (s : Session) (parsed : Arguments.parse args = .ok a) :
    let run := (CommandLine.run m (.launching launcher) args).runIn s
    (∀ e, setUp m a s.files = .error e →
      run.1 = answer e ∧ run.2.files = s.files ∧ run.2.events = s.events) ∧
    (∀ ready, setUp m a s.files = .ok ready →
      (∃ exit, run.1 = .ok exit ∧ exit.status ∈ [statusOk, statusFailed, statusInterrupted]) ∨
      ∃ f before last, run.1 = .error f ∧ run.2.events = s.events ++ (before ++ [last]) ∧
        last.Escapes launcher f ∧ ∀ e ∈ before, e.failure? = none) ∧
    ∀ actions projectDir path e, Action.validate a.actions = .ok actions →
      a.dropped.contains .config = false →
      projectDirectory (m.host s.files) a.options = .ok projectDir →
      Defaults.ComeFrom s.files m.cwd projectDir a.options.configFile path →
      readDocument s.files m.cwd path = .error e →
      run.1 = match e.unblamed? with
        | none => .ok ⟨statusUsage, false⟩
        | some e => .error (.document e) := by
  intro run
  obtain ⟨events, printed, hevents, hprinted, ending⟩ := run_ending m launcher parsed s
  refine ⟨fun e fault => ?_, fun ready hready => ?_, ?_⟩
  · obtain ⟨hr, files, none⟩ := ending.of_unready fault
    refine ⟨hr, files, ?_⟩
    rw [hevents, none, List.append_nil]
  · rcases ending.of_ready hready with exits | ⟨f, before, last, hr, hlast, escapes, went⟩
    · exact .inl exits
    · exact .inr ⟨f, before, last, hr, hlast ▸ hevents, escapes, went⟩
  · intro actions projectDir path e valid kept project source bad
    obtain ⟨hr, -, -⟩ := ending.of_unready (setUp_of_unreadable valid kept project source bad)
    exact hr.trans (answer_unreadable path.toString e)

/-- The files of a project whose defaults are a single opening bracket. -/
def brokenDefaults : FileSystem :=
  ⟨[(["p"], .dir), (["p", "buildfront.yaml"], .file 0o644 [0x5b])]⟩

theorem failures_answered_brokenDefaults :
    ((run .faultless (.launching withoutTestRunner) ["--dry-run"]).runIn
      { files := brokenDefaults }).1 = .error (.document (.badSyntax .yaml)) := by
  have parsed : Arguments.parse ["--dry-run"] = .ok _ := rfl
  obtain ⟨-, -, unreadable⟩ := failures_answered .faultless withoutTestRunner ["--dry-run"] _
    { files := brokenDefaults } parsed
  have project : projectDirectory (Machine.faultless.host brokenDefaults) {} =
      .ok ⟨.root, ["p"]⟩ :=
    eq_ok_of_toOption (by decide +kernel)
  have source : Defaults.ComeFrom brokenDefaults ["p"] ⟨.root, ["p"]⟩ none
      ⟨.root, ["p", "buildfront.yaml"]⟩ :=
    ⟨eq_ok_of_toOption (by decide +kernel), eq_ok_of_toOption (by decide +kernel)⟩
  have unblamed : (match readDocument brokenDefaults ["p"] ⟨.root, ["p", "buildfront.yaml"]⟩ with
      | .error e => e.unblamed?
      | .ok _ => none) = some (.badSyntax .yaml) := by
    decide +kernel
  match bad : readDocument brokenDefaults ["p"] ⟨.root, ["p", "buildfront.yaml"]⟩ with
  | .ok doc =>
    rw [bad] at unblamed
    cases unblamed
  | .error e =>
    rw [bad] at unblamed
    change e.unblamed? = _ at unblamed
    have ends := unreadable _ _ _ _ rfl rfl project source bad
    rwa [unblamed] at ends

/-- The failure to read these defaults escapes the program. -/
theorem brokenDefaults_escapes :
    ¬ ∃ exit, ((run .faultless (.launching withoutTestRunner) ["--dry-run"]).runIn
      { files := brokenDefaults }).1 = .ok exit := by
  have escapes : ((run .faultless (.launching withoutTestRunner) ["--dry-run"]).runIn
      { files := brokenDefaults }).1.toOption = none := by
    decide +kernel
  rintro ⟨exit, ends⟩
  rw [ends] at escapes
  cases escapes

end CommandLine

end BuildPilot
