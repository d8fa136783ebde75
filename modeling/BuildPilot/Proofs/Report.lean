import BuildPilot.Proofs.Outcome
import BuildPilot.Proofs.Program

/-!
# Reports

What the program says when a run has ended: the message about a run that succeeded, and the message
about a command that failed. Neither is mistaken for a remark or for a report on another failure.
-/

namespace BuildPilot

open FileSystem Text CommandLine

/-! ## What is said at the end -/

/-- The message about a run that succeeded. -/
def successLine : Printed := { stream := .out, text := "All build commands succeeded!\n" }

/-- The message about a command that failed. -/
def failureLine (command : String) : Printed :=
  { stream := .err, text := "[ERROR] Build command failed: " ++ command ++ "\n" }

theorem not_isRemark_successLine : ¬ successLine.IsRemark := by
  rintro (h | h)
  · cases h
  · exact h.1 (by simp [successLine])

theorem not_isRemark_failureLine (command : String) : ¬ (failureLine command).IsRemark := by
  rintro (h | h)
  · cases h
  · exact h.2 (by simp [failureLine])

theorem mem_of_not_isRemark {p : Printed} {ps qs : List Printed} (quiet : ∀ p ∈ ps, p.IsRemark)
    (hp : ¬ p.IsRemark) (h : p ∈ ps ++ qs) : p ∈ qs :=
  (List.mem_append.mp h).resolve_left fun h => hp (quiet p h)

theorem error_consoleOf (a : Arguments) (s : String) :
    (consoleOf a).error s = [{ stream := .err, text := "[ERROR] " ++ s ++ "\n" }] := by
  unfold consoleOf
  cases a.options.verbose <;> rfl

theorem farewell_of_live {a : Arguments} (live : a.dryRun = false) :
    farewell a = [successLine] := by
  unfold farewell consoleOf
  rw [live]
  cases a.options.verbose <;> rfl

theorem successLine_not_mem_error (a : Arguments) (s : String) :
    successLine ∉ (consoleOf a).error s := by
  rw [error_consoleOf, List.mem_singleton]
  intro h
  cases congrArg Printed.stream h

theorem eq_of_failureLine_mem_error {a : Arguments} {command s : String}
    (h : failureLine command ∈ (consoleOf a).error s) :
    s = "Build command failed: " ++ command := by
  rw [error_consoleOf, List.mem_singleton] at h
  have text : "[ERROR] Build command failed: " ++ command = "[ERROR] " ++ s :=
    (String.append_left_inj "\n").mp (congrArg Printed.text h)
  apply String.toList_inj.mp
  simpa using (congrArg String.toList text).symm

/-! ## Messages about requests -/

/-- A text that starts with another letter than the message about a failed command. -/
def StartsOtherwise (s : String) : Prop := ¬ ['B'] <+: s.toList

theorem StartsOtherwise.ne {s : String} (h : StartsOtherwise s) (command : String) :
    s ≠ "Build command failed: " ++ command := by
  rintro rfl
  exact h (by simp)

theorem startsOtherwise_quoted (s : String) : StartsOtherwise (quoted s) := by
  unfold quoted quoteMark StartsOtherwise
  dsimp only
  split <;> simp

theorem startsOtherwise_fileError (e : FileError) : StartsOtherwise e.message := by
  unfold FileError.message
  cases e <;> simp [StartsOtherwise, toString]

theorem startsOtherwise_readError (e : Document.ReadError) : StartsOtherwise e.message := by
  unfold Document.ReadError.message
  cases e with
  | notTruth word => exact startsOtherwise_quoted word
  | badSyntax format => cases format <;> simp [StartsOtherwise]
  | tooDeep what => cases what <;> simp [StartsOtherwise, toString]
  | _ => simp [StartsOtherwise]

theorem startsOtherwise_sourceFault (e : Document.SourceFault) : StartsOtherwise e.message := by
  unfold Document.SourceFault.message PathFault.message
  cases e with
  | unreadable e => exact startsOtherwise_fileError e
  | malformed e => exact startsOtherwise_readError e
  | _ => simp [StartsOtherwise, toString]

theorem startsOtherwise_defaultsFault (fault : DefaultsFault) : StartsOtherwise fault.message := by
  unfold DefaultsFault.message Document.severalMessage Numeric.unwritableMessage
  cases fault with
  | unreadable e => exact startsOtherwise_sourceFault e
  | _ => simp [StartsOtherwise, toString]

theorem startsOtherwise_configFault (fault : ConfigFault) : StartsOtherwise fault.message := by
  unfold ConfigFault.message
  cases fault with
  | defaults fault source =>
    have plain := startsOtherwise_defaultsFault fault
    cases source with
    | none => exact plain
    | some source =>
      dsimp only
      split
      · exact plain
      · simp [StartsOtherwise, toString]
  | _ => simp [StartsOtherwise, toString]

theorem startsOtherwise_unknownActions (u : UnknownActions) : StartsOtherwise u.message := by
  unfold UnknownActions.message
  simp [StartsOtherwise]

/-! ## Reports -/

theorem failureLine_not_mem_error {a : Arguments} {command s : String}
    (h : s ≠ "Build command failed: " ++ command) :
    failureLine command ∉ (consoleOf a).error s :=
  mt eq_of_failureLine_mem_error h

theorem mem_error_reason {a : Arguments} {reason? : Option String} {p : Printed}
    (h : p ∈ (reason?.map (consoleOf a).error).getD []) :
    ∃ reason, reason? = some reason ∧ p ∈ (consoleOf a).error reason := by
  cases reason? with
  | none => simp at h
  | some reason => exact ⟨reason, rfl, h⟩

theorem buildStep_ne (message command : String) :
    s!"Build step failed: {message}" ≠ "Build command failed: " ++ command := by
  intro h
  have text := congrArg String.toList h
  simp [toString] at text

/-- What a report says, by the failure that it is about. -/
theorem report?_eq_some {a : Arguments} {e : Failure} {lines : List Printed} {status : Nat}
    (h : report? (consoleOf a) e = some (lines, status)) :
    status ≠ statusOk ∧ (status = statusUsage → e.isUsage = true) ∧ successLine ∉ lines ∧
    ∀ command, failureLine command ∈ lines → status = statusFailed ∧ ∃ o, e = .command o ∧
      (command = o.commandLine ∨ o.reason? = some ("Build command failed: " ++ command)) := by
  have silent (s : String) := successLine_not_mem_error a s
  unfold report? at h
  cases e with
  | config fault =>
    cases h
    refine ⟨by decide, fun _ => rfl, silent _, fun command hc => absurd hc ?_⟩
    exact failureLine_not_mem_error ((startsOtherwise_configFault fault).ne command)
  | unknownActions u =>
    cases h
    refine ⟨by decide, fun _ => rfl, silent _, fun command hc => absurd hc ?_⟩
    exact failureLine_not_mem_error ((startsOtherwise_unknownActions u).ne command)
  | command o =>
    cases h
    refine ⟨by decide, fun h => absurd h (by decide), fun hs => ?_,
      fun command hc => ⟨rfl, o, rfl, ?_⟩⟩
    · rcases List.mem_append.mp hs with hs | hs
      · exact silent _ hs
      · obtain ⟨reason, -, hs⟩ := mem_error_reason hs
        exact silent reason hs
    · rcases List.mem_append.mp hc with hc | hc
      · left
        have text := eq_of_failureLine_mem_error hc
        exact ((String.append_right_inj _).mp text).symm
      · right
        obtain ⟨reason, hreason, hc⟩ := mem_error_reason hc
        rw [hreason, eq_of_failureLine_mem_error hc]
  | file e =>
    cases h
    refine ⟨by decide, fun h => absurd h (by decide), silent _, fun command hc => absurd hc ?_⟩
    exact failureLine_not_mem_error (buildStep_ne e.message command)
  | interrupted =>
    cases h
    refine ⟨by decide, fun h => absurd h (by decide), silent _, fun command hc => absurd hc ?_⟩
    have plain : StartsOtherwise "Interrupted" := by simp [StartsOtherwise]
    exact failureLine_not_mem_error (plain.ne command)
  | _ => cases h

end BuildPilot
