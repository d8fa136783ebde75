import BuildPilot.Proofs.ExitStatus
import BuildPilot.Proofs.Request
import BuildPilot.Shell.Launch

/-!
# Launching

What a runner makes of a command that the operating system refused to start, and of one that ran.
Only the former has a reason, so the reason tells the two apart even when both have status 127, and
the program prints a line about the reason for the former only.
-/

namespace BuildPilot

open FileSystem Text

/-- A request that can be handed to the operating system. -/
structure Request.IsProper (r : Request) : Prop where
  hasWords : r.command ≠ []
  words : ∀ word ∈ r.command, '\x00' ∉ word.toList
  directory : ∀ dir, r.cwd = some dir → hasNul dir = false

namespace Runner

/-- What the operating system does: it starts a command or refuses to, and it refuses with a
reason. -/
structure Launcher.Answers (launcher : Launcher) : Prop where
  answer : ∀ clock fs (r : Request), r.IsProper →
    (∃ error file, launcher clock fs r.command r.cwd = .refused error file) ∨
      ∃ output status files, launcher clock fs r.command r.cwd = .ran output status files
  reason : ∀ clock fs command cwd error file,
    launcher clock fs command cwd = .refused error file →
      isBlankText (refusalText error file) = false

/-- The outcome of a command that was refused for a reason. -/
def Launch.Refused (launch : Launch) (o : Command.Outcome) (reason : String) : Prop :=
  ∃ error file, launch = .refused error file ∧ reason = trim (refusalText error file) ∧
    o.status = 127 ∧ o.streamed = false

/-- The outcome of a command that ran. -/
def Launch.Completed (launch : Launch) (o : Command.Outcome) : Prop :=
  ∃ output files, launch = .ran output o.status files ∧ o.streamed = true

variable {launcher : Launcher} {clock : Nat} {fs : FileSystem} {r : Request}
  {o : Command.Outcome}

theorem reason?_of_refused {text : String} (h : isBlankText text = false)
    (command : List String) (status : Int) (stdout : String) :
    (⟨command, status, stdout, text, false⟩ : Command.Outcome).reason? = some (trim text) := by
  unfold Command.Outcome.reason?
  simp [h]

/-- A command fails as a command only if it was refused or ran. -/
theorem launching_eq_command (answers : launcher.Answers)
    (h : ((launching launcher).run clock fs r).result = .error (.command o)) :
    (∃ reason, (launcher clock fs r.command r.cwd).Refused o reason ∧ o.reason? = some reason) ∨
      (launcher clock fs r.command r.cwd).Completed o ∧ o.reason? = .none := by
  cases launch : launcher clock fs r.command r.cwd with
  | refused error file =>
    rw [launching_of_refused launch] at h
    obtain ⟨same, -⟩ := checked_eq_error h
    cases same
    have full := answers.reason _ _ _ _ _ _ launch
    exact .inl ⟨_, ⟨error, file, rfl, rfl, rfl, rfl⟩, reason?_of_refused full _ _ _⟩
  | ran output status files =>
    rw [launching_of_ran launch] at h
    obtain ⟨same, -⟩ := checked_eq_error h
    cases same
    exact .inr ⟨⟨output, files, rfl, rfl⟩, rfl⟩
  | malformed fault =>
    simp only [launching, launch] at h
    cases fault <;> cases h
  | interrupted lines files =>
    simp only [launching, launch] at h
    cases h

theorem launching_cases (answers : launcher.Answers) (proper : r.IsProper) :
    let reply := (launching launcher).run clock fs r
    ∃ o : Command.Outcome, o.command = r.command ∧
      reply.result = (if r.check = true ∧ o.status ≠ 0 then .error (.command o) else .ok o) ∧
      ((∃ reason, (launcher clock fs r.command r.cwd).Refused o reason ∧
          o.reason? = some reason ∧ reply.lines = []) ∨
        (launcher clock fs r.command r.cwd).Completed o ∧ o.reason? = .none) := by
  intro reply
  rcases answers.answer clock fs r proper with
    ⟨error, file, launch⟩ | ⟨output, status, files, launch⟩
  · have full := answers.reason _ _ _ _ _ _ launch
    refine ⟨⟨r.command, Command.notStarted, "", refusalText error file, false⟩, rfl, ?_,
      .inl ⟨_, ⟨error, file, launch, rfl, rfl, rfl⟩, reason?_of_refused full _ _ _, ?_⟩⟩
    · rw [show reply = _ from launching_of_refused launch, checked_eq]
    · rw [show reply = _ from launching_of_refused launch]
  · refine ⟨⟨r.command, status, "", "", true⟩, rfl, ?_,
      .inr ⟨⟨output, files, launch, rfl⟩, rfl⟩⟩
    rw [show reply = _ from launching_of_ran launch, checked_eq]

end Runner

/-! ## Starting real commands -/

namespace Shell

theorem isBlankText_refusal (error file : String) :
    isBlankText (Runner.refusalText error (some file)) = false := by
  unfold isBlankText Runner.refusalText
  rw [List.all_eq_false]
  -- the colon before the name of the file is not blank, whatever the error and the name are
  refine ⟨':', ?_, by decide⟩
  simp [toString]

variable {cwd : Location} {env : Environment} {clock : Nat} {fs : FileSystem}
  {command : List String} {dir : Option Path}

theorem launcher_cases (hasWords : command ≠ [])
    (clean : (command.any holdsNul || (dir.map hasNul).getD false) = false) :
    (∃ cause file, launcher cwd env clock fs command dir = refusal cause file) ∨
      ∃ loc start, launcher cwd env clock fs command dir = launch fs loc env start := by
  obtain ⟨name, arguments, rfl⟩ := List.exists_cons_of_ne_nil hasWords
  unfold launcher
  dsimp only
  rw [if_neg (Bool.eq_false_iff.mp clean)]
  cases directoryFor fs cwd dir with
  | error cause => exact .inl ⟨cause, _, rfl⟩
  | ok loc =>
    dsimp only
    cases startOfCommand fs loc env name arguments with
    | error cause => exact .inl ⟨cause, name, rfl⟩
    | ok start => exact .inr ⟨loc, start, rfl⟩

/-- What is refused is refused because of some file. -/
theorem file_of_refused {error : String} {file : Option String}
    (h : launcher cwd env clock fs command dir = .refused error file) :
    ∃ text, file = some text := by
  unfold launcher at h
  split at h
  · cases h
  · split at h
    · cases h
    · split at h
      · cases h
        exact ⟨_, rfl⟩
      · split at h <;> cases h
        exact ⟨_, rfl⟩

theorem launcher_answers (cwd : Location) (env : Environment) : (launcher cwd env).Answers where
  answer clock fs r proper := by
    have clean : (r.command.any holdsNul || (r.cwd.map hasNul).getD false) = false := by
      rw [Bool.or_eq_false_iff, List.any_eq_false]
      refine ⟨fun word mem => by simpa [holdsNul] using proper.words word mem, ?_⟩
      cases hdir : r.cwd with
      | none => rfl
      | some dir => exact proper.directory dir hdir
    rcases launcher_cases proper.hasWords clean with ⟨cause, file, h⟩ | ⟨loc, start, h⟩
    · exact .inl ⟨cause.text, some file, h⟩
    · exact .inr ⟨_, _, _, h⟩
  reason clock fs command dir error file h := by
    obtain ⟨text, rfl⟩ := file_of_refused h
    exact isBlankText_refusal error text

end Shell

/-! ## What the program prints -/

namespace CommandLine

variable {m : Machine} {launcher : Runner.Launcher} {a : Arguments}

theorem ended_command (a : Arguments) (o : Command.Outcome) :
    (ended a (.command o)).2 =
      failureLine o.commandLine :: (o.reason?.map errorLine).toList := by
  unfold ended report?
  dsimp only
  rw [error_consoleOf]
  cases o.reason? with
  | none => rfl
  | some reason =>
    rw [Option.map_some, error_consoleOf]
    rfl

/-- A command that failed as such has ended the request, and the last that was printed is about
it. -/
theorem Ending.printed_of_command {s : Session} {r : Except Failure Exit} {fs : FileSystem}
    {es : List Event} {ps : List Printed} (h : Ending m launcher a s r fs es ps) {e : Event}
    (mem : e ∈ es) {o : Command.Outcome} (failed : e.result = .error (.command o)) :
    ∃ step clock said, e.task = .run step ∧
      ((Runner.launching launcher).run clock e.before step.request).result =
        .error (.command o) ∧
      (∀ p ∈ said, p.IsRemark) ∧
      ps = said ++ failureLine o.commandLine :: (o.reason?.map errorLine).toList := by
  have fails : e.failure? = some (.command o) := by rw [Event.failure?, failed]
  cases h with
  | unready => exact absurd mem List.not_mem_nil
  | @failed actions c f _ _ said ready quiet genuine course usage =>
    -- everything before the last event went well, so the failed command is the last event
    obtain ⟨before, last, rfl, hlast, went⟩ := course.last_of_error
    rcases List.mem_append.mp mem with early | late
    · rw [went e early] at fails
      cases fails
    · obtain rfl : e = last := List.mem_singleton.mp late
      rw [fails] at hlast
      obtain rfl : Failure.command o = f := Option.some.inj hlast
      obtain ⟨step, clock, ht, hreply⟩ := (genuine e mem).reply_of_command failed
      exact ⟨step, clock, said, ht, (runner_eq_error hreply).2, quiet,
        congrArg (said ++ ·) (ended_command a o)⟩
  | finished _ _ _ course =>
    rw [(course.all_of_ok).2 e mem] at fails
    cases fails

/-- What becomes of a command that can be handed to the operating system. Its runner replies with
an outcome, which is a failure exactly if the status is not 0 and that matters. If the command was
refused, then its status is 127, nothing was handed on, and there is a reason; if it ran, then the
status is its own, and there is none. When a command fails in a run of the program, the program
prints a line about the command at the end, and behind it a line about the reason exactly if the
command was refused. -/
theorem outcome_tells_start (launcher : Runner.Launcher) (answers : launcher.Answers) :
    (∀ clock fs (r : Request), r.IsProper →
      let reply := (Runner.launching launcher).run clock fs r
      let launch := launcher clock fs r.command r.cwd
      ∃ o : Command.Outcome, o.command = r.command ∧
        reply.result = (if r.check = true ∧ o.status ≠ 0 then .error (.command o) else .ok o) ∧
        ((∃ reason, launch.Refused o reason ∧ o.reason? = some reason ∧ reply.lines = []) ∨
          launch.Completed o ∧ o.reason? = .none)) ∧
    ∀ m args a s, Arguments.parse args = .ok a →
      let run := (CommandLine.run m (.launching launcher) args).runIn s
      ∃ events printed, run.2.events = s.events ++ events ∧
        run.2.printed = s.printed ++ printed ∧
        ∀ e ∈ events, ∀ o, e.result = .error (.command o) →
          ∃ step clock said, e.task = .run step ∧ (∀ p ∈ said, p.IsRemark) ∧
            let launch := launcher clock e.before step.command (some step.cwd)
            ((∃ reason, launch.Refused o reason ∧
                printed = said ++ [failureLine o.commandLine, errorLine reason]) ∨
              launch.Completed o ∧ printed = said ++ [failureLine o.commandLine]) := by
  refine ⟨fun clock fs r proper => Runner.launching_cases answers proper, ?_⟩
  intro m args a s parsed run
  obtain ⟨events, printed, hevents, hprinted, ending⟩ := run_ending m launcher parsed s
  refine ⟨events, printed, hevents, hprinted, fun e mem o failed => ?_⟩
  obtain ⟨step, clock, said, ht, hreply, quiet, told⟩ := ending.printed_of_command mem failed
  refine ⟨step, clock, said, ht, quiet, ?_⟩
  rcases Runner.launching_eq_command answers hreply with
    ⟨reason, refused, hreason⟩ | ⟨completed, none⟩
  · rw [hreason] at told
    exact .inl ⟨reason, refused, told⟩
  · rw [none] at told
    exact .inr ⟨completed, told⟩

theorem outcome_tells_start_missingTool :
    let launcher := Shell.launcher [] ⟨[]⟩
    let r : Request := { command := ["tool"] }
    launcher.Answers ∧ r.IsProper ∧ ∃ o,
      ((Runner.launching launcher).run 0 .empty r).result = .error (.command o) ∧
        o.status = 127 ∧ o.streamed = false ∧
        o.reason? = some "No such file or directory: tool" := by
  intro launcher r
  have answers : launcher.Answers := Shell.launcher_answers [] ⟨[]⟩
  have proper : r.IsProper := ⟨by decide, by decide, fun dir h => by cases h⟩
  have launch : (match launcher 0 .empty ["tool"] none with
      | .refused error file => error == "No such file or directory" && file == some "tool"
      | _ => false) = true := by
    decide +kernel
  refine ⟨answers, proper, ?_⟩
  obtain ⟨o, -, result, ⟨reason, ⟨error, file, refused, rfl, status, streamed⟩, told, -⟩ |
    ⟨⟨output, files, ran, -⟩, -⟩⟩ := (outcome_tells_start launcher answers).1 0 .empty r proper
  · rw [refused] at launch
    obtain ⟨rfl, rfl⟩ : error = "No such file or directory" ∧ file = some "tool" := by
      simpa using launch
    rw [if_pos ⟨rfl, by rw [status]; decide⟩] at result
    exact ⟨o, result, status, streamed, told.trans (by decide +kernel)⟩
  · rw [ran] at launch
    cases launch

/-- A directory whose name holds a NUL character makes the runner fail, but not as a command. -/
theorem nul_in_directory_raises :
    let launcher := Shell.launcher [] ⟨[]⟩
    let r : Request := { command := ["true"], cwd := some ⟨.here, ["a\x00b"]⟩, check := false }
    let result := ((Runner.launching launcher).run 0 .empty r).result
    launcher.Answers ∧ r.command ≠ [] ∧ (∀ word ∈ r.command, '\x00' ∉ word.toList) ∧
      ∀ o, result ≠ .ok o ∧ result ≠ .error (.command o) := by
  intro launcher r result
  have raised : result = .error .nulInCommand := rfl
  refine ⟨Shell.launcher_answers [] ⟨[]⟩, by decide, by decide, fun o => ?_⟩
  rw [raised]
  exact ⟨nofun, nofun⟩

end CommandLine

end BuildPilot
