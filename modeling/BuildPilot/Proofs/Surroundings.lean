import BuildPilot.Proofs.LowerCase
import BuildPilot.Proofs.Resolution
import BuildPilot.Proofs.WorkingDirectory

/-!
# What a configuration takes from its surroundings

The name of the operating system is read only to infer a toolchain where none is named, and neither
letter case nor blanks around it matter then. Of the environment only the variables are read that
the selected toolchain hands on.
-/

namespace BuildPilot

open Text

/-! ## Outcomes of one class -/

/-- What is wrong with a configuration, without the particulars. -/
inductive FaultKind where
  | buildType
  | toolchain
  | host
  | defaults
  | jobs
deriving DecidableEq

/-- The kind of a fault. -/
def ConfigFault.kind : ConfigFault → FaultKind
  | buildType _ => .buildType
  | toolchain _ _ => .toolchain
  | host _ => .host
  | defaults _ _ => .defaults
  | jobs _ => .jobs

/-- Faults of one class: wrong configurations are so if they are wrong in the same kind, and any
other fault only beside itself. -/
inductive ResolveFault.SameClass : ResolveFault → ResolveFault → Prop
  | config {f f' : ConfigFault} (same : f.kind = f'.kind) : SameClass (.config f) (.config f')
  | refl (e : ResolveFault) : SameClass e e

/-- Two runs come to the same configuration, or they fail with faults of one class. -/
inductive SameOutcome : Except ResolveFault Configuration → Except ResolveFault Configuration → Prop
  | configured (c : Configuration) : SameOutcome (.ok c) (.ok c)
  | failed {e e' : ResolveFault} (same : e.SameClass e') : SameOutcome (.error e) (.error e')

theorem SameOutcome.of_eq {x y : Except ResolveFault Configuration} (h : x = y) :
    SameOutcome x y := by
  subst h
  cases x with
  | ok c => exact .configured c
  | error e => exact .failed (.refl e)

theorem ResolveFault.SameClass.trans {e e' e'' : ResolveFault} (h : e.SameClass e')
    (h' : e'.SameClass e'') : e.SameClass e'' := by
  cases h with
  | refl => exact h'
  | config same =>
    cases h' with
    | refl => exact .config same
    | config same' => exact .config (same.trans same')

theorem SameOutcome.trans {x y z : Except ResolveFault Configuration} (h : SameOutcome x y)
    (h' : SameOutcome y z) : SameOutcome x z := by
  cases h with
  | configured c => exact h'
  | failed same =>
    cases h' with
    | failed same' => exact .failed (same.trans same')

/-- Runs with the same outcome have the same configuration, if any. -/
theorem SameOutcome.toOption_eq {x y : Except ResolveFault Configuration} (h : SameOutcome x y) :
    x.toOption = y.toOption := by
  cases h <;> rfl

/-! ## Defaults in force -/

/-- The defaults of a run in its project directory: those that are given, or else those that the
project keeps. -/
def defaultsIn (h : Host) (o : Options) (given : Option Defaults) (dir : Path) :
    Except ResolveFault Defaults :=
  match given with
  | some d => .ok d
  | none => (Defaults.load h.files h.cwd dir o.configFile).mapError .ofLoad

/-- The defaults of a run. -/
def defaultsInForce (h : Host) (o : Options) (given : Option Defaults) :
    Except ResolveFault Defaults :=
  (projectDirectory h o).mapError .path >>= defaultsIn h o given

/-- A toolchain that is named, by a text that is not empty, in the options or in the defaults. -/
def NamesToolchain (h : Host) (o : Options) (given : Option Defaults) : Prop :=
  (∃ s, o.toolchain = some s ∧ s ≠ "") ∨
    ∃ d s, defaultsInForce h o given = .ok d ∧ d.toolchain = some s ∧ s ≠ ""

/-- The toolchain that a run selects. -/
def Selects (h : Host) (r : Registry) (o : Options) (given : Option Defaults) (t : Toolchain) :
    Prop :=
  ∃ d, defaultsInForce h o given = .ok d ∧
    r.resolve (orElseText o.toolchain d.toolchain) (lower h.os) = .ok t

variable {h : Host} {r : Registry} {o : Options} {given : Option Defaults} {d : Defaults}
  {dir : Path} {os os' : String} {env : Environment}

theorem resolveIn_eq_bind (h : Host) (r : Registry) (o : Options) (given : Option Defaults)
    (dir : Path) : resolveIn h r o given dir =
      defaultsIn h o given dir >>= fun d => resolveWith h r o d dir := by
  cases given <;> rfl

theorem defaultsInForce_of_resolve {c : Configuration} (ok : resolve h r o given = .ok c) :
    projectDirectory h o = .ok c.projectDir ∧ ∃ d, defaultsInForce h o given = .ok d ∧
      resolveWith h r o d c.projectDir = .ok c := by
  obtain ⟨project, d, found, made⟩ := defaults_of_resolve ok
  refine ⟨project, d, ?_, made⟩
  rw [defaultsInForce, project]
  show defaultsIn h o given c.projectDir = .ok d
  rcases found with rfl | ⟨rfl, loaded⟩
  · rfl
  · rw [defaultsIn, loaded]
    rfl

/-- Neither the operating system nor the environment has a say before the defaults are there. So
what relates the last stages of two runs relates the runs. -/
theorem resolve_lift
    {R : Except ResolveFault Configuration → Except ResolveFault Configuration → Prop}
    (refl : ∀ e, R (.error e) (.error e)) (os : String) (env : Environment)
    (last : ∀ d dir, defaultsInForce h o given = .ok d →
      R (resolveWith ⟨h.files, h.cwd, os, env⟩ r o d dir) (resolveWith h r o d dir)) :
    R (resolve ⟨h.files, h.cwd, os, env⟩ r o given) (resolve h r o given) := by
  have project : projectDirectory ⟨h.files, h.cwd, os, env⟩ o = projectDirectory h o := rfl
  rw [resolve_eq_bind, resolve_eq_bind, project]
  cases hdir : projectDirectory h o with
  | error f => exact refl _
  | ok dir =>
    show R (resolveIn ⟨h.files, h.cwd, os, env⟩ r o given dir) (resolveIn h r o given dir)
    have defaults : defaultsIn ⟨h.files, h.cwd, os, env⟩ o given dir = defaultsIn h o given dir :=
      rfl
    rw [resolveIn_eq_bind, resolveIn_eq_bind, defaults]
    cases hd : defaultsIn h o given dir with
    | error e => exact refl e
    | ok d =>
      refine last d dir ?_
      rw [defaultsInForce, hdir]
      exact hd

theorem Selects.unique {t t' : Toolchain} (selected : Selects h r o given t)
    (selected' : Selects h r o given t') : t = t' := by
  obtain ⟨d, force, ht⟩ := selected
  obtain ⟨d', force', ht'⟩ := selected'
  cases force.symm.trans force'
  cases ht.symm.trans ht'
  rfl

/-! ## The operating system -/

theorem resolveWith_of_os (same : r.resolve (orElseText o.toolchain d.toolchain) (lower os) =
    r.resolve (orElseText o.toolchain d.toolchain) (lower h.os)) :
    resolveWith { h with os := os } r o d dir = resolveWith h r o d dir := by
  unfold resolveWith
  dsimp only
  rw [same]
  rfl

theorem orElseText_of_said {s : String} {a b : Option String}
    (said : a = some s ∧ s ≠ "" ∨ b = some s ∧ s ≠ "") : ∃ t, orElseText a b = some t := by
  rcases said with ⟨rfl, hs⟩ | ⟨rfl, -⟩
  · exact ⟨s, orElseText_of_ne_empty hs b⟩
  · cases a with
    | none => exact ⟨s, rfl⟩
    | some t =>
      unfold orElseText
      dsimp only
      split
      · exact ⟨s, rfl⟩
      · exact ⟨t, rfl⟩

/-- Where a toolchain is named, the operating system is not looked at. -/
theorem resolve_of_named (named : NamesToolchain h o given) (os : String) :
    resolve { h with os := os } r o given = resolve h r o given := by
  refine resolve_lift (R := Eq) (fun _ => rfl) os h.env fun d dir force => ?_
  obtain ⟨name, settled⟩ : ∃ t, orElseText o.toolchain d.toolchain = some t := by
    rcases named with ⟨s, hs, more⟩ | ⟨d', s, force', hs, more⟩
    · exact orElseText_of_said (.inl ⟨hs, more⟩)
    · cases force.symm.trans force'
      exact orElseText_of_said (.inr ⟨hs, more⟩)
  apply resolveWith_of_os
  rw [settled]
  rfl

/-- The inferred toolchain does not depend on blanks around the name of the operating system. -/
theorem Registry.defaultForHost?_of_trim (same : trim os = trim os') :
    defaultForHost? (lower os) = defaultForHost? (lower os') := by
  unfold defaultForHost?
  rw [trim_lower, trim_lower, same]

/-- For operating systems with the same toolchain the selection is the same, or it fails for both of
them. -/
theorem Registry.resolve_of_defaultForHost?
    (same : defaultForHost? os = defaultForHost? os') (name : Option String) :
    r.resolve name os = r.resolve name os' ∨
      r.resolve name os = .error (.host os) ∧ r.resolve name os' = .error (.host os') := by
  unfold Registry.resolve
  rw [same]
  cases name.or (defaultForHost? os') with
  | none => exact .inr ⟨rfl, rfl⟩
  | some name => exact .inl rfl

theorem sameOutcome_of_os
    (same : Registry.defaultForHost? (lower os) = Registry.defaultForHost? (lower h.os)) :
    SameOutcome (resolve { h with os := os } r o given) (resolve h r o given) := by
  refine resolve_lift (fun e => .of_eq rfl) os h.env fun d dir _ => ?_
  rcases Registry.resolve_of_defaultForHost? (r := r) same (orElseText o.toolchain d.toolchain) with
    equal | ⟨fails, fails'⟩
  · exact .of_eq (resolveWith_of_os equal)
  · unfold resolveWith
    dsimp only
    rw [fails, fails']
    cases BuildType.parse _ with
    | error f => exact .of_eq rfl
    | ok b => exact .failed (.config rfl)

/-! ## The environment -/

/-- A toolchain takes from the environment what it hands on. -/
theorem Toolchain.arguments_congr {t : Toolchain} {env env' : Environment}
    (agree : ∀ name ∈ t.crossEnvironment, env.getD name = env'.getD name) (dir : Path) :
    t.arguments dir env = t.arguments dir env' ∧
      t.missingEnvironment env = t.missingEnvironment env' := by
  have cross : t.crossSwitches env = t.crossSwitches env' :=
    List.map_congr_left fun name mem => by rw [agree name mem]
  constructor
  · rw [arguments, cross, arguments]
  · exact List.filter_congr fun name mem => by rw [agree name mem]

theorem resolve_of_agree (agree : ∀ t, Selects h r o given t → ∀ name ∈ t.crossEnvironment,
    env.getD name = h.env.getD name) :
    resolve { h with env := env } r o given = resolve h r o given := by
  refine resolve_lift (R := Eq) (fun _ => rfl) h.os env fun d dir force => ?_
  unfold resolveWith
  dsimp only
  cases selected : r.resolve (orElseText o.toolchain d.toolchain) (lower h.os) with
  | error f => rfl
  | ok t =>
    obtain ⟨same, missing⟩ := Toolchain.arguments_congr (agree t ⟨d, force, selected⟩) dir
    have arguments : toolchainArguments ⟨h.files, h.cwd, h.os, env⟩ t dir =
        toolchainArguments h t dir := by
      unfold toolchainArguments Toolchain.arguments?
      rw [same]
    have output : outputRoot ⟨h.files, h.cwd, h.os, env⟩ d dir = outputRoot h d dir := rfl
    simp only [mapError_ok, bind, Except.bind, arguments, missing, output]

/-! ## What is read -/

/-- Where a toolchain is named, a run comes to the same configuration or fault on every operating
system. It does so in every environment that agrees on the variables that the selected toolchain
hands on, an unset one being as good as an empty one; so the environment has no say where there are
no such variables. And where the toolchain is inferred, two names of the operating system that
differ in letter case, or in blanks around them, lead to the same configuration or to faults of one
class. -/
theorem resolve_reads_surroundings (h : Host) (r : Registry) (o : Options)
    (given : Option Defaults) :
    (NamesToolchain h o given → ∀ os,
      resolve { h with os := os } r o given = resolve h r o given) ∧
    (∀ env, (∀ t, Selects h r o given t → ∀ name ∈ t.crossEnvironment,
        env.getD name = h.env.getD name) →
      resolve { h with env := env } r o given = resolve h r o given) ∧
    (∀ t, Selects h r o given t → t.crossEnvironment = [] → ∀ env,
      resolve { h with env := env } r o given = resolve h r o given) ∧
    ∀ os, lower os = lower h.os ∨ trim os = trim h.os →
      SameOutcome (resolve { h with os := os } r o given) (resolve h r o given) := by
  refine ⟨resolve_of_named, fun env agree => resolve_of_agree agree,
    fun t selected plain env => resolve_of_agree fun t' selected' name mem => ?_,
    fun os same => sameOutcome_of_os ?_⟩
  · rw [selected'.unique selected, plain] at mem
    cases mem
  · rcases same with case | blanks
    · rw [case]
    · exact Registry.defaultForHost?_of_trim blanks

/-- A run that names the toolchain of the cross build. -/
def crossing : Options := { roundabout with toolchain := some "msvc_wsl" }

/-- An environment with variables of which the cross build reads one, and that one is empty. -/
def sparse : Environment := ⟨[("PATH", "/bin"), ("MSVC_BASE", "")]⟩

theorem eq_msvcWsl_of_selects {t : Toolchain}
    (selected : Selects linkedHost .builtin crossing none t) : t = Registry.msvcWsl := by
  obtain ⟨d, -, ht⟩ := selected
  have settled : orElseText crossing.toolchain d.toolchain = some "msvc_wsl" := rfl
  rw [settled] at ht
  cases ht
  rfl

theorem selects_gcc : Selects linkedHost .builtin roundabout none Registry.gcc := by
  have force : (defaultsInForce linkedHost roundabout none).toOption = some {} := by
    decide +kernel
  have inferred : Registry.defaultForHost? (lower linkedHost.os) = some "gcc" := by
    decide +kernel
  refine ⟨{}, eq_ok_of_toOption force, ?_⟩
  show Registry.builtin.resolve none (lower linkedHost.os) = _
  rw [Registry.resolve, inferred]
  rfl

/-- A named toolchain on another operating system and in another environment, and an inferred one in
another environment and with other spellings of the operating system. -/
theorem resolve_reads_surroundings_linkedHost :
    (NamesToolchain linkedHost crossing none ∧
      (∀ t, Selects linkedHost .builtin crossing none t → ∀ name ∈ t.crossEnvironment,
        sparse.getD name = linkedHost.env.getD name) ∧
      resolve { linkedHost with os := "Plan 9" } .builtin crossing none =
        resolve linkedHost .builtin crossing none ∧
      resolve { linkedHost with env := sparse } .builtin crossing none =
        resolve linkedHost .builtin crossing none) ∧
    Selects linkedHost .builtin roundabout none Registry.gcc ∧
    resolve { linkedHost with env := sparse } .builtin roundabout none =
      resolve linkedHost .builtin roundabout none ∧
    (lower "LINUX" = lower linkedHost.os ∧ trim " Linux\t" = trim linkedHost.os) ∧
    ∃ c, resolve linkedHost .builtin roundabout none = .ok c ∧
      resolve { linkedHost with os := "LINUX" } .builtin roundabout none = .ok c ∧
      resolve { linkedHost with os := " Linux\t" } .builtin roundabout none = .ok c := by
  have named : NamesToolchain linkedHost crossing none := .inl ⟨"msvc_wsl", rfl, by decide⟩
  have agree : ∀ t, Selects linkedHost .builtin crossing none t → ∀ name ∈ t.crossEnvironment,
      sparse.getD name = linkedHost.env.getD name := by
    intro t selected
    rw [eq_msvcWsl_of_selects selected]
    decide
  have case : lower "LINUX" = lower linkedHost.os := by decide +kernel
  have blanks : trim " Linux\t" = trim linkedHost.os := by decide +kernel
  obtain ⟨onAny, inAny, -, -⟩ := resolve_reads_surroundings linkedHost .builtin crossing none
  obtain ⟨-, -, plain, spelled⟩ := resolve_reads_surroundings linkedHost .builtin roundabout none
  refine ⟨⟨named, agree, onAny named "Plan 9", inAny sparse agree⟩, selects_gcc,
    plain _ selects_gcc rfl sparse, ⟨case, blanks⟩, ?_⟩
  obtain ⟨c, ok⟩ : ∃ c, resolve linkedHost .builtin roundabout none = .ok c := by
    have configured : (resolve linkedHost .builtin roundabout none).isOk = true := by
      decide +kernel
    cases outcome : resolve linkedHost .builtin roundabout none with
    | ok c => exact ⟨c, rfl⟩
    | error e =>
      rw [outcome] at configured
      cases configured
  have alike (os : String) (same : lower os = lower linkedHost.os ∨ trim os = trim linkedHost.os) :
      resolve { linkedHost with os := os } .builtin roundabout none = .ok c := by
    have outcome := spelled os same
    rw [ok] at outcome
    generalize resolve { linkedHost with os := os } .builtin roundabout none = x at outcome
    cases outcome
    rfl
  exact ⟨c, ok, alike _ (.inl case), alike _ (.inr blanks)⟩

end BuildPilot
