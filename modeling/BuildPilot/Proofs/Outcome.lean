import BuildPilot.Proofs.Course

/-!
# Outcomes of commands

What a runner that starts commands replies, by what became of the command, and what the event of a
command therefore tells.
-/

namespace BuildPilot

open FileSystem Text

/-! ## Commands and their outcomes -/

/-- Whether a failure is about the way in which the run was asked for. -/
def Failure.isUsage : Failure → Bool
  | config _ => true
  | unknownActions _ => true
  | _ => false

/-- If the event is a command, then it was started and exited with 0. -/
def Event.RanWell (launcher : Runner.Launcher) (e : Event) : Prop :=
  ∀ step, e.task = .run step → ∃ clock output,
    launcher clock e.before step.command (some step.cwd) = .ran output 0 e.after

/-- The reasons that the operating system gives for refusing commands do not read like the message
about a failed command. -/
def Runner.Launcher.ReasonsDiffer (launcher : Runner.Launcher) : Prop :=
  ∀ clock fs command cwd error file, launcher clock fs command cwd = .refused error file →
    ¬ "Build command failed: ".toList <+: (trim (Runner.refusalText error file)).toList

namespace Runner

variable {launcher : Launcher} {clock : Nat} {fs : FileSystem} {r : Request}
  {o o' : Command.Outcome} {e : Failure}

theorem checked_eq (check : Bool) (o : Command.Outcome) :
    checked check o = if check = true ∧ o.status ≠ 0 then .error (.command o) else .ok o := by
  unfold checked Command.Outcome.succeeded
  simp

theorem launching_of_refused {error : String} {file : Option String}
    (refused : launcher clock fs r.command r.cwd = .refused error file) :
    (launching launcher).run clock fs r = ⟨[], fs, [], checked r.check
      ⟨r.command, Command.notStarted, "", refusalText error file, false⟩⟩ := by
  unfold launching
  dsimp only
  rw [refused]

theorem launching_of_ran {output : List (List UInt8)} {status : Int} {files : FileSystem}
    (ran : launcher clock fs r.command r.cwd = .ran output status files) :
    (launching launcher).run clock fs r =
      ⟨streamedLines output, files, [], checked r.check ⟨r.command, status, "", "", true⟩⟩ := by
  unfold launching
  dsimp only
  rw [ran]

theorem status_of_checked_ok (h : checked true o = .ok o') : o.status = 0 := by
  unfold checked Command.Outcome.succeeded at h
  split at h
  · cases h
  · rename_i fails
    simpa using fails

theorem checked_eq_error {check : Bool} (h : checked check o = .error e) :
    e = .command o ∧ o.status ≠ 0 := by
  unfold checked Command.Outcome.succeeded at h
  split at h
  · rename_i fails
    cases h
    have fails : check = true ∧ ¬ o.status = 0 := by simpa using fails
    exact ⟨rfl, fails.2⟩
  · cases h

/-- A command that went well was started and exited with 0. -/
theorem launching_eq_ok (check : r.check = true)
    (h : ((launching launcher).run clock fs r).result = .ok o) : ∃ output,
      launcher clock fs r.command r.cwd =
        .ran output 0 ((launching launcher).run clock fs r).files := by
  unfold launching at h ⊢
  dsimp only at h ⊢
  cases hl : launcher clock fs r.command r.cwd with
  | refused error file =>
    rw [hl, check] at h
    dsimp only at h
    exact absurd (status_of_checked_ok h) (show Command.notStarted ≠ 0 by decide)
  | malformed fault =>
    rw [hl] at h
    cases h
  | interrupted lines files =>
    rw [hl] at h
    cases h
  | ran output status files =>
    rw [hl, check] at h
    dsimp only at h
    have hstatus : status = 0 := status_of_checked_ok h
    exact ⟨output, by rw [hstatus]⟩

/-- A command that failed has a status other than 0, or else its failure is no matter of usage; what
is told about the reason is why it could not be started. -/
theorem launching_eq_error (h : ((launching launcher).run clock fs r).result = .error e) :
    e.isUsage = false ∧ ∀ o, e = .command o → o.command = r.command ∧ o.status ≠ 0 ∧
      ∀ reason, o.reason? = some reason → ∃ error file,
        launcher clock fs r.command r.cwd = .refused error file ∧
          reason = trim (refusalText error file) := by
  unfold launching at h
  dsimp only at h
  cases hl : launcher clock fs r.command r.cwd with
  | refused error file =>
    rw [hl] at h
    obtain ⟨rfl, hstatus⟩ := checked_eq_error h
    refine ⟨rfl, fun o ho => ?_⟩
    cases ho
    refine ⟨rfl, hstatus, fun reason hr => ⟨error, file, rfl, ?_⟩⟩
    unfold Command.Outcome.reason? at hr
    split at hr
    · cases hr
    · exact (Option.some.inj hr).symm
  | malformed fault =>
    rw [hl] at h
    cases fault <;> cases h <;> exact ⟨rfl, fun o ho => by cases ho⟩
  | interrupted lines files =>
    rw [hl] at h
    cases h
    exact ⟨rfl, fun o ho => by cases ho⟩
  | ran output status files =>
    rw [hl] at h
    obtain ⟨rfl, hstatus⟩ := checked_eq_error h
    refine ⟨rfl, fun o ho => ?_⟩
    cases ho
    refine ⟨rfl, hstatus, fun reason hr => ?_⟩
    cases hr

end Runner

/-! ## Events and their commands -/

/-- The rule that no command fails. -/
def Rule.commandless : Rule where
  follows _ _ := True
  allows e := ∀ o, e ≠ .command o
  refl _ := trivial
  trans _ _ := trivial

theorem Rule.commandless_freesFiles (x : Executor) : Rule.commandless.FreesFiles x where
  print _ _ _ := trivial
  files _ _ _ := trivial
  file _ _ h := by cases h
  pattern _ _ _ _ _ h := by cases h

namespace Event.Genuine

variable {x : Executor} {e : Event} {step : Step}

/-- An event for a command is what the runner replied. -/
theorem reply (h : e.Genuine x) (ht : e.task = .run step) : ∃ clock,
    let reply := x.runner.run clock e.before step.request
    e.result = reply.result.map some ∧ e.after = reply.files := by
  obtain ⟨s, t, hbefore, hrun, hafter⟩ := h
  rw [ht] at hrun
  change (Act.command x.runner step.request >>= fun o => pure (some o)).runIn s = _ at hrun
  rw [Act.runIn_bind, Act.runIn_command, hbefore] at hrun
  refine ⟨s.clock, ?_⟩
  dsimp only at hrun ⊢
  cases hr : (x.runner.run s.clock e.before step.request).result with
  | ok o =>
    rw [hr] at hrun
    obtain ⟨hresult, rfl⟩ := Prod.mk.inj hrun
    exact ⟨hresult.symm, hafter.symm⟩
  | error f =>
    rw [hr] at hrun
    obtain ⟨hresult, rfl⟩ := Prod.mk.inj hrun
    exact ⟨hresult.symm, hafter.symm⟩

/-- Only a command fails as a command. -/
theorem task_of_command {o : Command.Outcome} (h : e.Genuine x)
    (failed : e.result = .error (.command o)) : ∃ step, e.task = .run step := by
  obtain ⟨s, t, -, hrun, -⟩ := h
  cases ht : e.task with
  | run step => exact ⟨step, rfl⟩
  | _ =>
    have keeps := Executor.keepsTo_operation (Rule.commandless_freesFiles x) e.task
      (fun _ o h => by cases h) (fun step hstep => by rw [ht] at hstep; cases hstep) s
    rw [hrun] at keeps
    exact absurd rfl (keeps.2 _ failed o)

/-- A command ends in the failure that the runner replied. -/
theorem reply_eq_error {f : Failure} (h : e.Genuine x) (ht : e.task = .run step)
    (failed : e.result = .error f) :
    ∃ clock, (x.runner.run clock e.before step.request).result = .error f := by
  obtain ⟨clock, hresult, -⟩ := h.reply ht
  refine ⟨clock, ?_⟩
  rw [failed] at hresult
  cases hr : (x.runner.run clock e.before step.request).result with
  | ok o =>
    rw [hr] at hresult
    cases hresult
  | error f' =>
    rw [hr] at hresult
    exact congrArg Except.error (Except.error.inj hresult).symm

/-- A command failed because the runner replied so. -/
theorem reply_of_command {o : Command.Outcome} (h : e.Genuine x)
    (failed : e.result = .error (.command o)) : ∃ step clock, e.task = .run step ∧
      (x.runner.run clock e.before step.request).result = .error (.command o) := by
  obtain ⟨step, ht⟩ := h.task_of_command failed
  obtain ⟨clock, hr⟩ := h.reply_eq_error ht failed
  exact ⟨step, clock, ht, hr⟩

/-- A command that did not fail was started and exited with 0. -/
theorem ranWell {launcher : Runner.Launcher} (h : e.Genuine x)
    (launches : x.runner = .launching launcher) (went : e.failure? = none) :
    e.RanWell launcher := by
  intro step ht
  obtain ⟨clock, hresult, hafter⟩ := h.reply ht
  rw [launches] at hresult hafter
  cases hr : ((Runner.launching launcher).run clock e.before step.request).result with
  | ok o =>
    obtain ⟨output, ran⟩ := Runner.launching_eq_ok rfl hr
    rw [hafter]
    exact ⟨clock, output, ran⟩
  | error f =>
    rw [hr] at hresult
    simp [Event.failure?, hresult, Except.map] at went

end Event.Genuine

end BuildPilot
