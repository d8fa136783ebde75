import BuildPilot.CommandLine.Program
import BuildPilot.Proofs.Course

/-!
# From the command line to the executor

A request is handled in two stages. Setting up reads files but changes nothing, and it undertakes no
task; then the executor carries out the requested actions. `handle_cases` says how far a request can
get.
-/

namespace BuildPilot

open FileSystem

/-- From `s` to `t` nothing was changed or undertaken, and what was printed are remarks. -/
def Session.RemarksOnlyTo (s t : Session) : Prop :=
  t.files = s.files ∧ t.events = s.events ∧ s.RemarksTo t

theorem Session.RemarksOnlyTo.refl (s : Session) : s.RemarksOnlyTo s := ⟨rfl, rfl, .refl s⟩

/-- A machine in the directory `/p` whose operations never fail. -/
def Machine.faultless : Machine where
  cwd := ["p"]
  os := "Linux"
  env := ⟨[]⟩
  processors := none
  copies := false
  faults := fun _ _ => none

namespace CommandLine

open Act

variable {m : Machine} {runner : Runner} {a : Arguments} {s : Session}

/-! ## Setting up -/

/-- The configuration that a request comes to on some files. -/
def configured (m : Machine) (a : Arguments) (fs : FileSystem) : Except Failure Configuration :=
  if a.dropped.contains .config then
    match projectDirectory (m.host fs) a.options with
    | .error fault => .error (.path fault)
    | .ok _ => .error .droppedConfig
  else
    match resolve (m.host fs) .builtin a.options none with
    | .error fault => .error (.ofResolve fault)
    | .ok c => if a.dropped.contains .jobs then .error .droppedJobs else .ok c

/-- What setting up comes to on some files: the requested actions and their configuration, or the
failure that keeps the executor from being started. -/
def setUp (m : Machine) (a : Arguments) (fs : FileSystem) :
    Except Failure (List Action × Configuration) :=
  match Action.validate a.actions with
  | .error u => .error (.unknownActions u)
  | .ok actions =>
    match configured m a fs with
    | .error e => .error e
    | .ok c =>
      if c.describe?.isNone then .error .longNumber
      else if a.dropped.contains .extra then .error .droppedExtra
      else .ok (actions, c)

theorem runIn_configure : (configure m a).runIn s = (configured m a s.files, s) := by
  unfold configure configured
  rw [runIn_bind_ok (runIn_get s)]
  dsimp only
  split
  · cases projectDirectory (m.host s.files) a.options <;> rfl
  · cases resolve (m.host s.files) .builtin a.options none with
    | error fault => rfl
    | ok c =>
      dsimp only
      split <;> rfl

theorem runIn_introduce (console : Console) (c : Configuration) (s : Session) :
    ∃ t, (introduce console c).runIn s =
      (if c.describe?.isNone then .error .longNumber else .ok (), t) ∧
        s.RemarksOnlyTo t := by
  have warned : ∀ p ∈ warnings console c, p.IsRemark := by
    intro p hp
    obtain ⟨name, -, hp⟩ := List.mem_flatMap.mp hp
    exact Console.isRemark_warning p hp
  unfold introduce
  rw [runIn_bind_ok (runIn_print _ s)]
  cases c.describe? with
  | none => exact ⟨_, rfl, rfl, rfl, _, rfl, warned⟩
  | some facts =>
    refine ⟨_, rfl, rfl, rfl, _, List.append_assoc _ _ _, fun p hp => ?_⟩
    rcases List.mem_append.mp hp with hp | hp
    · exact warned p hp
    · obtain ⟨fact, -, hp⟩ := List.mem_flatMap.mp hp
      exact Console.isRemark_debug p hp

theorem configured_eq_ok {fs : FileSystem} {c : Configuration} (h : configured m a fs = .ok c) :
    resolve (m.host fs) .builtin a.options none = .ok c := by
  unfold configured at h
  split at h
  · split at h <;> cases h
  · split at h
    · cases h
    · split at h
      · cases h
      · cases h
        assumption

theorem setUp_eq_ok {fs : FileSystem} {actions : List Action} {c : Configuration}
    (h : setUp m a fs = .ok (actions, c)) : Action.validate a.actions = .ok actions ∧
      resolve (m.host fs) .builtin a.options none = .ok c := by
  unfold setUp at h
  split at h
  · cases h
  · rename_i actions' valid
    split at h
    · cases h
    · rename_i c' hc
      split at h
      · cases h
      · split at h
        · cases h
        · cases h
          exact ⟨valid, configured_eq_ok hc⟩

/-- No command fails while a run is set up. -/
theorem setUp_ne_command {fs : FileSystem} {e : Failure} (h : setUp m a fs = .error e)
    (o : Command.Outcome) : e ≠ .command o := by
  have unconfigured {e : Failure} (h : configured m a fs = .error e) : e ≠ .command o := by
    unfold configured at h
    split at h
    · split at h <;> cases h <;> simp
    · split at h
      · rename_i fault _
        cases h
        cases fault <;> simp [Failure.ofResolve]
      · split at h
        · cases h
          simp
        · cases h
  unfold setUp at h
  split at h
  · cases h
    simp
  · split at h
    · cases h
      exact unconfigured ‹_›
    · split at h
      · cases h
        simp
      · split at h <;> cases h
        simp

/-! ## Handling a request -/

/-- The executor that a request is handed to. -/
def executorFor (m : Machine) (runner : Runner) (a : Arguments) (c : Configuration) : Executor :=
  ⟨c, if a.dryRun then .recording else runner, consoleOf a, a.dryRun, m⟩

/-- The extra arguments of a request. -/
def Arguments.extraArgs (a : Arguments) : ExtraArgs := ExtraArgs.ofSwitches (a.extra.map some)

/-- What the executor makes of a request. -/
def carryOut (m : Machine) (runner : Runner) (a : Arguments) (actions : List Action)
    (c : Configuration) : Act (List Action) :=
  (executorFor m runner a c).execute (actions.map Action.name) a.extraArgs

/-- What is said after a run that succeeded. -/
def farewell (a : Arguments) : List Printed :=
  if a.dryRun then [] else (consoleOf a).info "All build commands succeeded!"

/-- `Handling m runner a s r t`: how a request gets from the session `s` to its end `r` in `t`. -/
inductive Handling (m : Machine) (runner : Runner) (a : Arguments) (s : Session) :
    Except Failure Unit → Session → Prop
  /-- Setting up failed. -/
  | unready {e : Failure} {t : Session} (fault : setUp m a s.files = .error e)
      (quiet : s.RemarksOnlyTo t) : Handling m runner a s (.error e) t
  /-- The executor failed. -/
  | failed {actions : List Action} {c : Configuration} {t u : Session} {e : Failure}
      (ready : setUp m a s.files = .ok (actions, c)) (quiet : s.RemarksOnlyTo t)
      (run : (carryOut m runner a actions c).runIn t = (.error e, u)) :
      Handling m runner a s (.error e) u
  /-- Everything succeeded. -/
  | finished {actions as : List Action} {c : Configuration} {t u : Session}
      (ready : setUp m a s.files = .ok (actions, c)) (quiet : s.RemarksOnlyTo t)
      (run : (carryOut m runner a actions c).runIn t = (.ok as, u)) :
      Handling m runner a s (.ok ()) { u with printed := u.printed ++ farewell a }

theorem handle_cases (m : Machine) (runner : Runner) (a : Arguments) (s : Session) :
    Handling m runner a s ((handle m runner a).runIn s).1 ((handle m runner a).runIn s).2 := by
  unfold handle
  dsimp only
  split
  · rename_i u invalid
    refine .unready ?_ (.refl s)
    unfold setUp
    rw [invalid]
  · rename_i actions valid
    rw [runIn_bind, runIn_configure]
    cases hc : configured m a s.files with
    | error e =>
      refine .unready ?_ (.refl s)
      simp only [setUp, valid, hc]
    | ok c =>
      obtain ⟨t, hintro, quiet⟩ := runIn_introduce (consoleOf a) c s
      dsimp only
      rw [runIn_bind, hintro]
      by_cases long : c.describe?.isNone = true
      · rw [if_pos long]
        refine .unready ?_ quiet
        simp only [setUp, valid, hc, if_pos long]
      rw [if_neg long]
      dsimp only
      by_cases dropped : a.dropped.contains .extra = true
      · rw [if_pos dropped, runIn_bind_error (runIn_throw .droppedExtra t)]
        refine .unready ?_ quiet
        simp only [setUp, valid, hc, if_neg long, if_pos dropped]
      · have ready : setUp m a s.files = .ok (actions, c) := by
          simp only [setUp, valid, hc, if_neg long, if_neg dropped]
        rw [if_neg dropped, discard_eq_bind, bind_assoc]
        match hrun : (carryOut m runner a actions c).runIn t with
        | (.error e, u) =>
          have failed := Handling.failed ready quiet hrun
          unfold carryOut executorFor Arguments.extraArgs at hrun
          rw [runIn_bind_error hrun]
          exact failed
        | (.ok as, u) =>
          have finished := Handling.finished ready quiet hrun
          unfold carryOut executorFor Arguments.extraArgs at hrun
          rw [runIn_bind_ok hrun, pure_bind]
          unfold farewell at finished
          cases hdry : a.dryRun with
          | false => simpa [hdry, runIn_print] using finished
          | true => simpa [hdry, runIn_pure] using finished

/-! ## Exit statuses -/

theorem run_of_parse {args : List String} (parsed : Arguments.parse args = .ok a) :
    run m runner args = runArguments m runner a := by
  rw [run, parsed]

/-- How a request ends that failed, and what is said about it. -/
def ended (a : Arguments) (e : Failure) : Except Failure Exit × List Printed :=
  match report? (consoleOf a) e with
  | some (lines, status) => (.ok ⟨status, false⟩, lines)
  | none => (.error e, [])

theorem runIn_runArguments :
    (runArguments m runner a).runIn s = match (handle m runner a).runIn s with
      | (.ok (), t) => (.ok ⟨statusOk, false⟩, t)
      | (.error e, t) =>
        ((ended a e).1, { t with printed := t.printed ++ (ended a e).2 }) := by
  unfold runArguments
  rw [runIn_tryCatch]
  match hrun : (handle m runner a).runIn s with
  | (.ok (), t) =>
    rw [runIn_bind_ok hrun]
    rfl
  | (.error e, t) =>
    rw [runIn_bind_error hrun]
    unfold ended
    dsimp only
    cases report? (consoleOf a) e with
    | none => simp [runIn_throw]
    | some report => rfl

end CommandLine

end BuildPilot
