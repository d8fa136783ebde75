import BuildPilot.Proofs.FileWork

/-!
# The course of a run

A course says how a list of tasks went: they were undertaken one after the other, each on the files
that the one before it had left, until one of them failed. The main statement is that a run of the
executor takes a course of the plans of the requested actions, and that nothing else happens in it.
-/

namespace BuildPilot

open FileSystem

/-! ## Courses -/

/-- `Course fs ts es r gs`: undertaking the tasks `ts` from the files `fs` on gave the events `es`,
ended in `r`, and left the files `gs`. -/
inductive Course :
    FileSystem → List Task → List Event → Except Failure Unit → FileSystem → Prop
  | done (fs : FileSystem) : Course fs [] [] (.ok ()) fs
  | next {e : Event} {o : Option Command.Outcome} {ts : List Task} {es : List Event}
      {r : Except Failure Unit} {gs : FileSystem} (went : e.result = .ok o)
      (rest : Course e.after ts es r gs) : Course e.before (e.task :: ts) (e :: es) r gs
  | failed {e : Event} {f : Failure} (ts : List Task) (went : e.result = .error f) :
      Course e.before (e.task :: ts) [e] (.error f) e.after

/-- The failure that an event ended in. -/
def Event.failure? (e : Event) : Option Failure :=
  match e.result with
  | .ok _ => none
  | .error f => some f

theorem Event.result_of_failure? {e : Event} {f : Failure} (h : e.failure? = some f) :
    e.result = .error f := by
  unfold Event.failure? at h
  split at h
  · cases h
  · rename_i hf
    rw [hf, Option.some.inj h]

/-- Each event began with the files that the one before it had left. -/
def Linked (fs : FileSystem) : List Event → FileSystem → Prop
  | [], gs => gs = fs
  | e :: es, gs => e.before = fs ∧ Linked e.after es gs

namespace Course

variable {fs gs hs : FileSystem} {ts us : List Task} {es es' : List Event}
  {r : Except Failure Unit} {f : Failure}

theorem append (h : Course fs ts es (.ok ()) gs) (h' : Course gs us es' r hs) :
    Course fs (ts ++ us) (es ++ es') r hs := by
  generalize hr : (Except.ok () : Except Failure Unit) = q at h
  induction h with
  | done => exact h'
  | next went _ ih => exact next went (ih h' hr)
  | failed ts went => cases hr

theorem append_of_error (h : Course fs ts es (.error f) gs) (us : List Task) :
    Course fs (ts ++ us) es (.error f) gs := by
  generalize hr : (Except.error f : Except Failure Unit) = q at h
  induction h with
  | done => cases hr
  | next went _ ih => exact next went (ih hr)
  | failed ts went => exact failed (ts ++ us) went

/-- The tasks that were undertaken stand at the front of those that were to be. -/
theorem tasks_prefix (h : Course fs ts es r gs) : es.map Event.task <+: ts := by
  induction h with
  | done => exact List.prefix_rfl
  | next _ _ ih => exact List.cons_prefix_cons.mpr ⟨rfl, ih⟩
  | failed ts _ => exact List.cons_prefix_cons.mpr ⟨rfl, List.nil_prefix⟩

theorem linked (h : Course fs ts es r gs) : Linked fs es gs := by
  induction h with
  | done => rfl
  | next _ _ ih => exact ⟨rfl, ih⟩
  | failed => exact ⟨rfl, rfl⟩

/-- A run that ended well has undertaken everything, and everything went well. -/
theorem all_of_ok (h : Course fs ts es (.ok ()) gs) :
    es.map Event.task = ts ∧ ∀ e ∈ es, e.failure? = none := by
  generalize hr : (Except.ok () : Except Failure Unit) = q at h
  induction h with
  | done => simp
  | next went _ ih =>
    obtain ⟨htasks, hwent⟩ := ih hr
    refine ⟨congrArg (_ :: ·) htasks, fun e he => ?_⟩
    rcases List.mem_cons.mp he with rfl | he
    · simp [Event.failure?, went]
    · exact hwent e he
  | failed ts went => cases hr

/-- A run that failed ends with the event that failed; everything before it went well. -/
theorem last_of_error (h : Course fs ts es (.error f) gs) :
    ∃ before last, es = before ++ [last] ∧ last.failure? = some f
      ∧ ∀ e ∈ before, e.failure? = none := by
  generalize hr : (Except.error f : Except Failure Unit) = q at h
  induction h with
  | done => cases hr
  | @next e _ _ _ _ _ went _ ih =>
    obtain ⟨before, last, rfl, hlast, hwent⟩ := ih hr
    refine ⟨e :: before, last, rfl, hlast, fun d hd => ?_⟩
    rcases List.mem_cons.mp hd with rfl | hd
    · simp [Event.failure?, went]
    · exact hwent d hd
  | @failed e f ts went =>
    cases hr
    exact ⟨[], e, rfl, by simp [Event.failure?, went], by simp⟩

end Course

/-! ## Acts that take the course of a plan -/

/-- In every session, the act undertakes the tasks of a plan and nothing else. -/
def Act.Performs {α : Type} (act : Act α) (ts : List Task) : Prop :=
  ∀ s, ∃ es, (act.runIn s).2.events = s.events ++ es ∧
    Course s.files ts es ((act.runIn s).1.map fun _ => ()) (act.runIn s).2.files

/-- The rule for what happens within one task: no events, whatever else. -/
def Rule.uneventful : Rule where
  follows s t := t.events = s.events
  allows _ := True
  refl _ := rfl
  trans h h' := h'.trans h

theorem Rule.uneventful_freesFiles (x : Executor) : Rule.uneventful.FreesFiles x where
  print _ _ _ := rfl
  files _ _ _ := rfl
  file _ := trivial
  pattern _ _ _ _ := trivial

namespace Act

variable {α β : Type} {ts us : List Task}

theorem performs_pure (a : α) : (pure a : Act α).Performs [] :=
  fun s => ⟨[], by simp [runIn_pure], .done s.files⟩

theorem performs_print (ps : List Printed) : (print ps).Performs [] :=
  fun s => ⟨[], by simp [runIn_print], .done s.files⟩

theorem Performs.bind {act : Act α} {f : α → Act β} (h : act.Performs ts)
    (hf : ∀ a, (f a).Performs us) : (act >>= f).Performs (ts ++ us) := by
  intro s
  obtain ⟨es, hes, course⟩ := h s
  rw [runIn_bind]
  match hr : act.runIn s with
  | (.ok a, t) =>
    rw [hr] at hes course
    obtain ⟨es', hes', course'⟩ := hf a t
    exact ⟨es ++ es', by rw [hes', hes, List.append_assoc], course.append course'⟩
  | (.error e, t) =>
    rw [hr] at hes course
    exact ⟨es, hes, course.append_of_error us⟩

theorem Performs.congr {act : Act α} (h : act.Performs ts) (heq : ts = us) : act.Performs us :=
  heq ▸ h

theorem performs_undertaking {act : Act (Option Command.Outcome)}
    (h : act.KeepsTo .uneventful) (t : Task) : (undertaking t act).Performs [t] := by
  intro s
  have hev : (act.runIn s).2.events = s.events := (h s).1
  rw [runIn_undertaking, hev]
  refine ⟨_, rfl, ?_⟩
  cases (act.runIn s).1 with
  | ok o => exact .next (e := ⟨t, s.files, _, .ok o⟩) rfl (.done _)
  | error f => exact .failed (e := ⟨t, s.files, _, .error f⟩) [] rfl

theorem performs_forM {f : β → Act Unit} {plan : β → List Task} (h : ∀ b, (f b).Performs (plan b)) :
    ∀ l : List β, (l.forM f).Performs (l.flatMap plan)
  | [] => performs_pure ()
  | b :: l => by
    rw [List.flatMap_cons]
    exact (h b).bind fun _ => performs_forM h l

theorem uneventful_command (runner : Runner) (r : Request) :
    (command runner r).KeepsTo .uneventful := by
  intro s
  rw [runIn_command]
  exact ⟨rfl, fun _ _ => trivial⟩

end Act

/-! ## The executor -/

/-- Whether a task runs a command, or gives up on one that cannot be composed. -/
def Task.concernsCommand : Task → Bool
  | .run _ => true
  | .giveUp => true
  | _ => false

namespace Executor

open Act

variable {x : Executor}

/-- The tasks that the executor undertakes: all of them, or in a dry run those that concern
commands. -/
def undertaken (x : Executor) (ts : List Task) : List Task :=
  if x.dryRun then ts.filter Task.concernsCommand else ts

theorem undertaken_of_live (live : x.dryRun = false) (ts : List Task) : x.undertaken ts = ts := by
  rw [undertaken, live, if_neg Bool.false_ne_true]

theorem undertaken_append (x : Executor) (ts us : List Task) :
    x.undertaken (ts ++ us) = x.undertaken ts ++ x.undertaken us := by
  unfold undertaken
  split
  · exact List.filter_append ts us
  · rfl

theorem undertaken_flatMap {α : Type} (x : Executor) (f : α → List Task) (l : List α) :
    x.undertaken (l.flatMap f) = l.flatMap fun a => x.undertaken (f a) := by
  unfold undertaken
  split
  · exact List.filter_flatMap
  · rfl

theorem concernsCommand_of_mem_ownTasks {c : Configuration} {extra : ExtraArgs}
    {processors : Option Nat} {a : Action} :
    ∀ t ∈ c.ownTasks extra processors a, t.concernsCommand = true := by
  unfold Configuration.ownTasks
  split
  · intro t ht
    obtain ⟨step, -, rfl⟩ := List.mem_map.mp ht
    rfl
  · simp [Task.concernsCommand]

theorem undertaken_ownTasks (x : Executor) (c : Configuration) (extra : ExtraArgs)
    (processors : Option Nat) (a : Action) :
    x.undertaken (c.ownTasks extra processors a) = c.ownTasks extra processors a := by
  unfold undertaken
  split
  · exact List.filter_eq_self.mpr concernsCommand_of_mem_ownTasks
  · rfl

theorem undertaken_afterBuild (dry : x.dryRun = true) (c : Configuration) :
    x.undertaken c.afterBuild = [] := by
  unfold undertaken Configuration.afterBuild
  rw [if_pos dry]
  split <;> rfl

theorem uneventful_operation (t : Task) : (x.operation t).KeepsTo .uneventful :=
  keepsTo_operation (Rule.uneventful_freesFiles x) t (fun _ => trivial)
    fun _ _ => uneventful_command _ _

theorem performs_undertake (t : Task) : (x.undertake t).Performs [t] :=
  performs_undertaking (uneventful_operation t) t

theorem performs_runStep (step : Step) : (x.runStep step).Performs [.run step] :=
  (performs_print _).bind fun _ => performs_undertake (.run step)

theorem performs_runSteps (extra : ExtraArgs) (a : Action) :
    (x.runSteps extra a).Performs
      (x.undertaken (x.config.ownTasks extra x.machine.processors a)) := by
  rw [undertaken_ownTasks]
  unfold runSteps Configuration.ownTasks
  cases x.config.ownSteps? extra x.machine.processors a with
  | some steps =>
    dsimp only
    rw [List.map_eq_flatMap]
    exact performs_forM performs_runStep steps
  | none => exact performs_undertake .giveUp

theorem performs_afterBuild : x.afterBuild.Performs (x.undertaken x.config.afterBuild) := by
  unfold afterBuild
  by_cases dry : x.dryRun = true
  · rw [if_pos dry, undertaken_afterBuild dry]
    exact performs_pure ()
  · rw [if_neg dry, undertaken_of_live (by simpa using dry)]
    unfold Configuration.afterBuild
    dsimp only
    by_cases fix : x.config.toolchain.needsPermissionFix = true
    · rw [if_pos fix, if_pos fix]
      exact (performs_undertake _).bind fun _ => performs_undertake _
    · rw [if_neg fix, if_neg fix]
      exact performs_undertake _

theorem performs_cleanall : x.cleanall.Performs (x.undertaken [.removeOutput]) := by
  unfold cleanall
  by_cases dry : x.dryRun = true
  · rw [if_pos dry, undertaken, if_pos dry]
    exact performs_print _
  · rw [if_neg dry, undertaken, if_neg dry]
    exact performs_undertake _

theorem performs_build (extra : ExtraArgs) :
    (x.build extra).Performs
      (x.undertaken (x.config.plan extra x.machine.processors .build)) :=
  ((performs_runSteps extra .build).bind fun _ => performs_afterBuild).congr
    (undertaken_append _ _ _).symm

/-- Carrying out an action takes the course of its plan. -/
theorem performs_carryOut (extra : ExtraArgs) :
    ∀ a : Action,
      (x.carryOut extra a).Performs (x.undertaken (x.config.plan extra x.machine.processors a))
  | .build => performs_build extra
  | .rebuild => ((performs_runSteps extra .rebuild).bind fun _ => performs_afterBuild).congr
    (undertaken_append _ _ _).symm
  | .clean => performs_runSteps extra .clean
  | .cleanall => performs_cleanall
  | .test => ((performs_build extra).bind fun _ => performs_runSteps extra .test).congr
    (undertaken_append _ _ _).symm
  | .retest => performs_runSteps extra .retest
  | .analyze => ((performs_build extra).bind fun _ => performs_runSteps extra .analyze).congr
    (undertaken_append _ _ _).symm

theorem performs_runActions (extra : ExtraArgs) (actions : List Action) :
    (actions.forM (x.runAction extra)).Performs
      (x.undertaken (actions.flatMap (x.config.plan extra x.machine.processors))) := by
  rw [undertaken_flatMap]
  exact performs_forM (fun a => (performs_print _).bind fun _ => performs_carryOut extra a) actions

end Executor

/-! ## Genuine events -/

/-- What an event tells is what the executor really did for its task. -/
def Event.Genuine (x : Executor) (e : Event) : Prop :=
  ∃ s t, s.files = e.before ∧ (x.operation e.task).runIn s = (e.result, t) ∧ t.files = e.after

/-- Giving up on a command is a failure. -/
theorem Event.Genuine.failure?_of_giveUp {x : Executor} {e : Event} (h : e.Genuine x)
    (gives : e.task = .giveUp) : e.failure? = some .longNumber := by
  obtain ⟨s, t, -, hrun, -⟩ := h
  rw [gives] at hrun
  have hresult : e.result = .error .longNumber := (congrArg Prod.fst hrun).symm
  rw [Event.failure?, hresult]

/-- The rule that all new events are genuine. -/
def Rule.genuine (x : Executor) : Rule where
  follows s t := ∃ es, t.events = s.events ++ es ∧ ∀ e ∈ es, e.Genuine x
  allows _ := True
  refl s := ⟨[], by simp⟩
  trans := by
    rintro s t u ⟨es, ht, hes⟩ ⟨es', hu, hes'⟩
    refine ⟨es ++ es', by rw [hu, ht, List.append_assoc], fun e he => ?_⟩
    rcases List.mem_append.mp he with he | he
    · exact hes e he
    · exact hes' e he

theorem Rule.genuine_freesFiles (x : Executor) : (Rule.genuine x).FreesFiles x where
  print _ _ _ := ⟨[], by simp⟩
  files _ _ _ := ⟨[], by simp⟩
  file _ := trivial
  pattern _ _ _ _ := trivial

namespace Executor

variable {x : Executor}

theorem genuine_undertake (t : Task) : (x.undertake t).KeepsTo (.genuine x) := by
  intro s
  have hev : ((x.operation t).runIn s).2.events = s.events := (uneventful_operation t s).1
  rw [undertake, Act.runIn_undertaking, hev]
  refine ⟨⟨_, rfl, fun e he => ?_⟩, fun _ _ => trivial⟩
  rw [List.mem_singleton] at he
  subst he
  exact ⟨s, _, rfl, rfl, rfl⟩

end Executor

/-! ## Executing a request -/

/-- The actions that a request asks for: a request without actions asks for a build. -/
def Action.requested (actions : List Action) : List Action :=
  if actions.isEmpty then [.build] else actions

theorem Action.validate_names (actions : List Action) :
    validate (actions.map name) = .ok (requested actions) := by
  unfold validate requested
  rw [List.isEmpty_map]
  split
  · rfl
  · have known : (actions.map name).filter (fun s => (ofName? s).isNone) = [] := by
      rw [List.filter_eq_nil_iff]
      intro s hs
      obtain ⟨a, -, rfl⟩ := List.mem_map.mp hs
      simp
    have found : (actions.map name).filterMap ofName? = actions := by
      rw [List.filterMap_map, show ofName? ∘ name = some from funext ofName?_name,
        List.filterMap_some]
    rw [known, found]
    rfl

theorem Action.ne_nil_of_validate {names : List String} {actions : List Action}
    (valid : validate names = .ok actions) : actions ≠ [] := by
  unfold validate at valid
  cases names with
  | nil =>
    cases valid
    simp
  | cons s names =>
    dsimp only [List.isEmpty_cons] at valid
    rw [if_neg Bool.false_ne_true] at valid
    split at valid
    · rename_i known
      cases valid
      have hs : ofName? s ≠ none := by
        intro hnone
        simp [hnone] at known
      obtain ⟨a, ha⟩ := Option.ne_none_iff_exists'.mp hs
      rw [List.filterMap_cons_some ha]
      simp
    · cases valid

/-- A request that is accepted asks for the actions that it names, or for a build. -/
theorem Action.requested_of_validate {names : List String} {actions : List Action}
    (valid : validate names = .ok actions) : requested actions = actions := by
  unfold requested
  rw [if_neg (by simpa using ne_nil_of_validate valid)]

namespace Executor

variable {x : Executor}

theorem execute_names (actions : List Action) (extra : ExtraArgs) :
    x.execute (actions.map Action.name) extra = do
      (Action.requested actions).forM (x.runAction extra)
      return Action.requested actions := by
  rw [execute, Action.validate_names]

/-- Executing one action is carrying it out, after a print. -/
theorem runIn_execute_single (x : Executor) (a : Action) (extra : ExtraArgs) (s : Session) :
    ∃ t, t.files = s.files ∧ t.clock = s.clock ∧
      (x.execute [a.name] extra).runIn s =
        (((x.carryOut extra a).runIn t).1.map fun _ => [a], ((x.carryOut extra a).runIn t).2) := by
  have requested : Action.requested [a] = [a] := by
    cases a <;> rfl
  have printed : ∃ t, t.files = s.files ∧ t.clock = s.clock ∧
      (x.runAction extra a).runIn s = (x.carryOut extra a).runIn t := by
    refine ⟨_, ?_, ?_, Act.runIn_bind_ok (Act.runIn_print _ s) _⟩
    · rfl
    · rfl
  obtain ⟨t, files, clock, run⟩ := printed
  have one : [a].forM (x.runAction extra) = x.runAction extra a >>= fun _ => pure () := rfl
  rw [show [a.name] = [a].map Action.name from rfl, execute_names, requested, one, bind_assoc,
    Act.runIn_bind, run]
  refine ⟨t, files, clock, ?_⟩
  match (x.carryOut extra a).runIn t with
  | (.ok (), u) => rfl
  | (.error e, u) => rfl

/-- Executing a request takes a course of the plans of its actions, by genuine events. -/
theorem execute_course (x : Executor) (actions : List Action) (extra : ExtraArgs) (s : Session) :
    let plan := (Action.requested actions).flatMap (x.config.plan extra x.machine.processors)
    let run := (x.execute (actions.map Action.name) extra).runIn s
    ∃ es, run.2.events = s.events ++ es ∧ (∀ e ∈ es, e.Genuine x) ∧
      Course s.files (x.undertaken plan) es (run.1.map fun _ => ()) run.2.files ∧
      ∀ as, run.1 = .ok as → as = Action.requested actions := by
  intro plan run
  obtain ⟨es, hes, course⟩ := performs_runActions (x := x) extra (Action.requested actions) s
  obtain ⟨⟨es', hes', genuine⟩, -⟩ :=
    keepsTo_runActions (Rule.genuine_freesFiles x) genuine_undertake extra
      (Action.requested actions) s
  have same : es' = es := List.append_cancel_left (hes'.symm.trans hes)
  subst same
  have hrun : run = ((Action.requested actions).forM (x.runAction extra) >>= fun _ =>
      pure (Action.requested actions)).runIn s := by
    rw [← execute_names]
  rw [Act.runIn_bind] at hrun
  match hr : ((Action.requested actions).forM (x.runAction extra)).runIn s with
  | (.ok u, t) =>
    rw [hr] at hrun hes course
    rw [hrun]
    exact ⟨es', hes, genuine, course, fun as has => by cases has; rfl⟩
  | (.error f, t) =>
    rw [hr] at hrun hes course
    rw [hrun]
    exact ⟨es', hes, genuine, course, fun as has => by cases has⟩

/-- A live run undertakes the tasks of the requested actions in the order of their plans, up to the
end or up to the first one that fails, whatever the runner and the operations on files do. That
failure ends the run, and beyond the events nothing happens to the files. -/
theorem execute_follows_plan (config : Configuration) (runner : Runner) (console : Console)
    (machine : Machine) (actions : List Action) (extra : ExtraArgs) (s : Session) :
    let x : Executor := ⟨config, runner, console, false, machine⟩
    let plan := (Action.requested actions).flatMap (config.plan extra machine.processors)
    let run := (x.execute (actions.map Action.name) extra).runIn s
    ∃ events, run.2.events = s.events ++ events ∧ (∀ e ∈ events, e.Genuine x) ∧
      Linked s.files events run.2.files ∧ events.map Event.task <+: plan ∧
      match run.1 with
      | .ok as => as = Action.requested actions ∧ events.map Event.task = plan ∧
          ∀ e ∈ events, e.failure? = none
      | .error f => ∃ before last, events = before ++ [last] ∧ last.failure? = some f ∧
          ∀ e ∈ before, e.failure? = none := by
  intro x plan run
  obtain ⟨es, hes, genuine, course, answer⟩ := execute_course x actions extra s
  rw [undertaken_of_live rfl] at course
  refine ⟨es, hes, genuine, course.linked, course.tasks_prefix, ?_⟩
  change Course _ _ _ (run.1.map _) _ at course
  change ∀ as, run.1 = .ok as → _ at answer
  cases hr : run.1 with
  | ok as =>
    rw [hr] at course answer
    exact ⟨answer as rfl, course.all_of_ok⟩
  | error f =>
    rw [hr] at course
    exact course.last_of_error

end Executor

end BuildPilot
