import BuildPilot.Proofs.Report

/-!
# Exit statuses

The exit status of the program tells how far it got: nothing was undertaken, everything succeeded,
or something failed. What it says at the end agrees with its status.
-/

namespace BuildPilot

open FileSystem Text CommandLine

/-! ## What the executor says -/

/-- The rule for executing actions: what is said are remarks, and nothing is a matter of usage. -/
def Rule.executing : Rule where
  follows s t := s.RemarksTo t
  allows e := e.isUsage = false
  refl := .refl
  trans := .trans

theorem Rule.executing_freesFiles (x : Executor) : Rule.executing.FreesFiles x where
  print _ ps h := ⟨ps, rfl, h⟩
  files s _ _ := .refl s
  file _ := rfl
  pattern _ _ _ _ := rfl

namespace CommandLine

variable {m : Machine} {launcher : Runner.Launcher} {a : Arguments} {c : Configuration}

theorem runner_of_live (live : a.dryRun = false) :
    (executorFor m (.launching launcher) a c).runner = .launching launcher := by
  unfold executorFor
  rw [live]
  rfl

/-- The runner of the executor only fails as its launcher makes it fail. -/
theorem runner_eq_error {clock : Nat} {fs : FileSystem} {r : Request} {e : Failure}
    (h : ((executorFor m (.launching launcher) a c).runner.run clock fs r).result = .error e) :
    a.dryRun = false ∧ ((Runner.launching launcher).run clock fs r).result = .error e := by
  unfold executorFor at h
  dsimp only at h
  split at h
  · cases h
  · rename_i live
    exact ⟨by simpa using live, h⟩

theorem executing_undertake (t : Task) :
    ((executorFor m (.launching launcher) a c).undertake t).KeepsTo .executing := by
  refine Act.keepsTo_undertaking ?_ (fun _ _ _ h => h) t
  refine Executor.keepsTo_operation (Rule.executing_freesFiles _) t (fun _ => rfl)
    fun step _ s => ?_
  rw [Act.runIn_command]
  refine ⟨⟨_, rfl, fun p hp => ?_⟩, fun e he => ?_⟩
  · obtain ⟨line, -, rfl⟩ := List.mem_map.mp hp
    exact .inl rfl
  · exact (Runner.launching_eq_error (runner_eq_error he).2).1

/-- The plans of the actions that a request asks for. -/
def planned (m : Machine) (a : Arguments) (actions : List Action) (c : Configuration) :
    List Task :=
  actions.flatMap (c.plan a.extraArgs m.processors)

/-- `Ending m launcher a s r fs es ps`: how a request ends that started in the session `s`. It
returns `r` and leaves the files `fs`; it has undertaken the events `es` and printed `ps`. -/
inductive Ending (m : Machine) (launcher : Runner.Launcher) (a : Arguments) (s : Session) :
    Except Failure Exit → FileSystem → List Event → List Printed → Prop
  /-- Setting up failed. -/
  | unready {e : Failure} {ps : List Printed} (fault : setUp m a s.files = .error e)
      (quiet : ∀ p ∈ ps, p.IsRemark) :
      Ending m launcher a s (ended a e).1 s.files [] (ps ++ (ended a e).2)
  /-- A task failed. -/
  | failed {actions : List Action} {c : Configuration} {e : Failure} {fs : FileSystem}
      {es : List Event} {ps : List Printed} (ready : setUp m a s.files = .ok (actions, c))
      (quiet : ∀ p ∈ ps, p.IsRemark)
      (genuine : ∀ ev ∈ es, ev.Genuine (executorFor m (.launching launcher) a c))
      (course : Course s.files ((executorFor m (.launching launcher) a c).undertaken
        (planned m a actions c)) es (.error e) fs)
      (usage : e.isUsage = false) :
      Ending m launcher a s (ended a e).1 fs es (ps ++ (ended a e).2)
  /-- Everything succeeded. -/
  | finished {actions : List Action} {c : Configuration} {fs : FileSystem} {es : List Event}
      {ps : List Printed} (ready : setUp m a s.files = .ok (actions, c))
      (quiet : ∀ p ∈ ps, p.IsRemark)
      (genuine : ∀ ev ∈ es, ev.Genuine (executorFor m (.launching launcher) a c))
      (course : Course s.files ((executorFor m (.launching launcher) a c).undertaken
        (planned m a actions c)) es (.ok ()) fs) :
      Ending m launcher a s (.ok ⟨statusOk, false⟩) fs es (ps ++ farewell a)

/-- What the executor makes of a request, once everything is set up. -/
theorem carryOut_spec (launcher : Runner.Launcher) {s t : Session} {actions : List Action}
    (ready : setUp m a s.files = .ok (actions, c)) (quiet : s.RemarksOnlyTo t) :
    let x := executorFor m (.launching launcher) a c
    let run := (carryOut m (.launching launcher) a actions c).runIn t
    ∃ es ps, run.2.events = s.events ++ es ∧ run.2.printed = s.printed ++ ps ∧
      (∀ p ∈ ps, p.IsRemark) ∧ (∀ ev ∈ es, ev.Genuine x) ∧
      Course s.files (x.undertaken (planned m a actions c)) es (run.1.map fun _ => ())
        run.2.files ∧
      ∀ e, run.1 = .error e → e.isUsage = false := by
  intro x run
  obtain ⟨files, events, said⟩ := quiet
  obtain ⟨es, hes, genuine, course, -⟩ := x.execute_course actions a.extraArgs t
  rw [Action.requested_of_validate (setUp_eq_ok ready).1, files] at course
  rw [events] at hes
  have keeps : (x.execute (actions.map Action.name) a.extraArgs).KeepsTo .executing := by
    rw [Executor.execute_names]
    exact (Executor.keepsTo_runActions (Rule.executing_freesFiles x) executing_undertake _ _).bind
      fun _ => Act.keepsTo_pure _
  obtain ⟨said', usage⟩ := keeps t
  obtain ⟨ps, hps, quiet⟩ := said.trans said'
  exact ⟨es, ps, hes, hps, quiet, genuine, course, usage⟩

/-- Every accepted command line comes to one of the endings. -/
theorem run_ending (m : Machine) (launcher : Runner.Launcher) {args : List String}
    (parsed : Arguments.parse args = .ok a) (s : Session) :
    let run := (CommandLine.run m (.launching launcher) args).runIn s
    ∃ events printed, run.2.events = s.events ++ events ∧ run.2.printed = s.printed ++ printed ∧
      Ending m launcher a s run.1 run.2.files events printed := by
  rw [run_of_parse parsed, runIn_runArguments]
  have h := handle_cases m (.launching launcher) a s
  generalize (handle m (.launching launcher) a).runIn s = handled at h
  obtain ⟨r, u⟩ := handled
  dsimp only at h
  cases h with
  | @unready e _ fault quiet =>
    obtain ⟨files, events, ps, printed, quiet⟩ := quiet
    refine ⟨[], ps ++ (ended a e).2, by simp [events], ?_, ?_⟩
    · change u.printed ++ (ended a e).2 = _
      rw [printed, List.append_assoc]
    · change Ending m launcher a s (ended a e).1 u.files [] _
      rw [files]
      exact .unready fault quiet
  | @failed actions c t _ e ready quiet hrun =>
    obtain ⟨es, ps, hes, hps, quiet, genuine, course, usage⟩ := carryOut_spec launcher ready quiet
    rw [hrun] at hes hps course usage
    refine ⟨es, ps ++ (ended a e).2, hes, ?_, .failed ready quiet genuine course (usage e rfl)⟩
    change u.printed ++ (ended a e).2 = _
    rw [hps, List.append_assoc]
  | @finished actions as c t u ready quiet hrun =>
    obtain ⟨es, ps, hes, hps, quiet, genuine, course, -⟩ := carryOut_spec launcher ready quiet
    rw [hrun] at hes hps course
    refine ⟨es, ps ++ farewell a, hes, ?_, .finished ready quiet genuine course⟩
    change u.printed ++ farewell a = _
    rw [hps, List.append_assoc]

/-! ## What the endings have in common -/

/-- A request that failed never ends with the status of a run that succeeded. -/
theorem ended_eq_ok {e : Failure} {exit : Exit} (h : (ended a e).1 = .ok exit) :
    exit.status ≠ statusOk ∧ (exit.status = statusUsage → e.isUsage = true) := by
  unfold ended at h
  split at h
  · rename_i lines status reported
    obtain ⟨fails, usage, -, -⟩ := report?_eq_some reported
    cases h
    exact ⟨fails, usage⟩
  · cases h

theorem successLine_not_mem_ended (a : Arguments) (e : Failure) : successLine ∉ (ended a e).2 := by
  unfold ended
  split
  · rename_i lines status reported
    exact (report?_eq_some reported).2.2.1
  · simp

theorem failureLine_mem_ended {e : Failure} {command : String}
    (h : failureLine command ∈ (ended a e).2) :
    (∃ exit, (ended a e).1 = .ok exit ∧ exit.status = statusFailed) ∧ ∃ o, e = .command o ∧
      (command = o.commandLine ∨ o.reason? = some ("Build command failed: " ++ command)) := by
  unfold ended at h ⊢
  split at h
  · rename_i lines status reported
    obtain ⟨-, -, -, named⟩ := report?_eq_some reported
    obtain ⟨hstatus, blamed⟩ := named command h
    exact ⟨⟨_, rfl, hstatus⟩, blamed⟩
  · cases h

namespace Ending

variable {s : Session} {r : Except Failure Exit} {fs : FileSystem} {es : List Event}
  {ps : List Printed}

theorem of_usage (h : Ending m launcher a s r fs es ps) {exit : Exit} (hr : r = .ok exit)
    (usage : exit.status = statusUsage) : es = [] ∧ fs = s.files := by
  cases h with
  | unready => exact ⟨rfl, rfl⟩
  | failed _ _ _ _ proper =>
    have improper := (ended_eq_ok hr).2 usage
    rw [proper] at improper
    cases improper
  | finished =>
    cases hr
    cases usage

theorem of_ok (h : Ending m launcher a s r fs es ps) (live : a.dryRun = false) {exit : Exit}
    (hr : r = .ok exit) (succeeds : exit.status = statusOk) :
    ∃ actions c, Action.validate a.actions = .ok actions ∧
      resolve (m.host s.files) .builtin a.options none = .ok c ∧
      es.map Event.task = planned m a actions c ∧
      ∀ e ∈ es, e.Genuine (executorFor m (.launching launcher) a c) ∧ e.failure? = none ∧
        e.RanWell launcher := by
  cases h with
  | unready => exact absurd succeeds (ended_eq_ok hr).1
  | failed => exact absurd succeeds (ended_eq_ok hr).1
  | @finished actions c _ _ _ ready quiet genuine course =>
    rw [Executor.undertaken_of_live live] at course
    obtain ⟨valid, resolved⟩ := setUp_eq_ok ready
    obtain ⟨tasks, went⟩ := course.all_of_ok
    exact ⟨actions, c, valid, resolved, tasks, fun e he =>
      ⟨genuine e he, went e he, (genuine e he).ranWell (runner_of_live live) (went e he)⟩⟩

theorem successLine_mem_iff (h : Ending m launcher a s r fs es ps) :
    successLine ∈ ps ↔ a.dryRun = false ∧ ∃ exit, r = .ok exit ∧ exit.status = statusOk := by
  have failed {e : Failure} {ps : List Printed} (quiet : ∀ p ∈ ps, p.IsRemark) :
      successLine ∈ ps ++ (ended a e).2 ↔
        a.dryRun = false ∧ ∃ exit, (ended a e).1 = .ok exit ∧ exit.status = statusOk := by
    constructor
    · intro said
      have said := mem_of_not_isRemark quiet not_isRemark_successLine said
      exact absurd said (successLine_not_mem_ended a e)
    · rintro ⟨-, exit, hr, succeeds⟩
      exact absurd succeeds (ended_eq_ok hr).1
  cases h with
  | unready fault quiet => exact failed quiet
  | failed ready quiet => exact failed quiet
  | finished ready quiet =>
    constructor
    · intro said
      have said := mem_of_not_isRemark quiet not_isRemark_successLine said
      cases live : a.dryRun with
      | true => simp [farewell, live] at said
      | false => exact ⟨rfl, _, rfl, rfl⟩
    · rintro ⟨live, -⟩
      rw [farewell_of_live live]
      simp

theorem of_failureLine (h : Ending m launcher a s r fs es ps) (reasons : launcher.ReasonsDiffer)
    {command : String} (named : failureLine command ∈ ps) :
    (∃ exit, r = .ok exit ∧ exit.status = statusFailed) ∧
      ∃ before last step o, es = before ++ [last] ∧ last.task = .run step ∧
        command = Command.format step.command ∧ last.result = .error (.command o) ∧
        o.status ≠ 0 ∧ ∀ e ∈ before, e.failure? = none ∧ e.RanWell launcher := by
  cases h with
  | unready fault quiet =>
    have named := mem_of_not_isRemark quiet (not_isRemark_failureLine command) named
    obtain ⟨-, o, rfl, -⟩ := failureLine_mem_ended named
    exact absurd rfl (setUp_ne_command fault o)
  | @failed actions c e fs es ps ready quiet genuine course usage =>
    have named := mem_of_not_isRemark quiet (not_isRemark_failureLine command) named
    obtain ⟨exits, o, rfl, said⟩ := failureLine_mem_ended named
    obtain ⟨before, last, rfl, hlast, went⟩ := course.last_of_error
    have failed := Event.result_of_failure? hlast
    obtain ⟨step, clock, ht, hreply⟩ := (genuine last (by simp)).reply_of_command failed
    obtain ⟨live, launched⟩ := runner_eq_error hreply
    obtain ⟨hcommand, hstatus, refused⟩ := (Runner.launching_eq_error launched).2 o rfl
    have hline : command = Command.format step.command := by
      rcases said with rfl | reason
      · exact congrArg Command.format hcommand
      · obtain ⟨error, file, hl, htrim⟩ := refused _ reason
        refine absurd ?_ (reasons _ _ _ _ _ _ hl)
        rw [← htrim, String.toList_append]
        exact List.prefix_append _ _
    refine ⟨exits, before, last, step, o, rfl, ht, hline, failed, hstatus, fun e he => ?_⟩
    have hgenuine := genuine e (List.mem_append_left _ he)
    exact ⟨went e he, hgenuine.ranWell (runner_of_live live) (went e he)⟩
  | finished ready quiet =>
    have named := mem_of_not_isRemark quiet (not_isRemark_failureLine command) named
    cases live : a.dryRun with
    | true => simp [farewell, live] at named
    | false =>
      rw [farewell_of_live live, List.mem_singleton] at named
      cases congrArg Printed.stream named

end Ending

/-- What the exit status of an accepted command line tells. With status 2, nothing was undertaken
and no file changed. With status 0 after a live run, all tasks of the requested actions were
undertaken in order, none failed, and every command was started and exited with 0; then, and only
then, does the program say that it succeeded. When it names a command as failed, its status is 1,
and that command is the last event, and it failed while every one before it went well. -/
theorem exit_status_sound (m : Machine) (launcher : Runner.Launcher) (args : List String)
    (a : Arguments) (s : Session) (parsed : Arguments.parse args = .ok a)
    (reasons : launcher.ReasonsDiffer) :
    let run := (CommandLine.run m (.launching launcher) args).runIn s
    ∃ events printed, run.2.events = s.events ++ events ∧ run.2.printed = s.printed ++ printed ∧
      (∀ exit, run.1 = .ok exit → exit.status = 2 →
        events = [] ∧ run.2.files = s.files) ∧
      (∀ exit, run.1 = .ok exit → exit.status = 0 → a.dryRun = false →
        ∃ actions c, Action.validate a.actions = .ok actions ∧
          resolve (m.host s.files) .builtin a.options none = .ok c ∧
          events.map Event.task = planned m a actions c ∧
          ∀ e ∈ events, e.Genuine (executorFor m (.launching launcher) a c) ∧
            e.failure? = none ∧ e.RanWell launcher) ∧
      (successLine ∈ printed ↔
        a.dryRun = false ∧ ∃ exit, run.1 = .ok exit ∧ exit.status = 0) ∧
      ∀ command, failureLine command ∈ printed →
        (∃ exit, run.1 = .ok exit ∧ exit.status = 1) ∧
          ∃ before last step o, events = before ++ [last] ∧ last.task = .run step ∧
            command = Command.format step.command ∧ last.result = .error (.command o) ∧
            o.status ≠ 0 ∧ ∀ e ∈ before, e.failure? = none ∧ e.RanWell launcher := by
  intro run
  obtain ⟨events, printed, hevents, hprinted, ending⟩ := run_ending m launcher parsed s
  exact ⟨events, printed, hevents, hprinted, fun _ hr usage => ending.of_usage hr usage,
    fun _ hr succeeds live => ending.of_ok live hr succeeds, ending.successLine_mem_iff,
    fun _ named => ending.of_failureLine reasons named⟩

/-- How commands are started where the test runner is not installed. -/
def withoutTestRunner : Runner.Launcher :=
  fun _ _ _ _ => .refused "No such file or directory" (some "ctest")

theorem failureLine_withoutTestRunner :
    failureLine "ctest --rerun-failed --output-on-failure" ∈
      ((CommandLine.run .faultless (.launching withoutTestRunner) ["retest"]).runIn
        { files := .empty }).2.printed := by
  decide +kernel

theorem exit_status_withoutTestRunner :
    let run := (CommandLine.run .faultless (.launching withoutTestRunner) ["retest"]).runIn
      { files := .empty }
    (∃ exit, run.1 = .ok exit ∧ exit.status = 1) ∧
      ∃ before last step, run.2.events = before ++ [last] ∧ last.task = .run step ∧
        Command.format step.command = "ctest --rerun-failed --output-on-failure" := by
  have named := failureLine_withoutTestRunner
  have parsed : Arguments.parse ["retest"] = .ok _ := rfl
  have reasons : withoutTestRunner.ReasonsDiffer := by
    intro clock fs command cwd error file h
    cases h
    decide +kernel
  obtain ⟨events, printed, hevents, hprinted, -, -, -, fails⟩ :=
    exit_status_sound .faultless withoutTestRunner ["retest"] _ { files := .empty } parsed reasons
  rw [hprinted, List.nil_append] at named
  obtain ⟨exits, before, last, step, -, hsplit, ht, hline, -⟩ := fails _ named
  exact ⟨exits, before, last, step, hevents.trans hsplit, ht, hline.symm⟩

end CommandLine

end BuildPilot
