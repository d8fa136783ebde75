import BuildPilot.Proofs.Composition
import BuildPilot.Proofs.WorkingDirectory

/-!
# The switches of a toolchain

A switch hands on the value of an environment variable as it is: cut at its first `=`, it gives the
name and the value again, whatever the value contains. The variables reported as missing are those
whose switch has an empty value, although the environment is read again for the report.

The switches stand together in the generator's command of every action that builds, before the extra
arguments. There are none if a number in a definition has too many digits to be written, and there is
no such command if the number of jobs has.
-/

namespace BuildPilot

open Text BuildPilot.Configuration

namespace Toolchain

/-! ## Reading a switch back -/

/-- The parts of a switch before and after its first `=`. -/
def switchParts? (switch : String) : Option (String × String) :=
  (cutAtFirst '=' switch.toList).map fun (l, r) => (String.ofList l, String.ofList r)

/-- The part after the first `=` is there and empty. -/
def isBlankSwitch (switch : String) : Bool := (switchParts? switch).any (·.2.isEmpty)

theorem switchParts?_define {key : String} (plain : '=' ∉ key.toList) (value : String) :
    switchParts? (define key value) = some ("-D" ++ key, value) := by
  have front : '=' ∉ ("-D" ++ key).toList := by
    rw [String.toList_append, List.mem_append]
    exact not_or.mpr ⟨by decide, plain⟩
  have text : (define key value).toList = ("-D" ++ key).toList ++ '=' :: value.toList := by
    simp [define]
  rw [switchParts?, text, cutAtFirst_append front]
  change some (String.ofList ("-D" ++ key).toList, String.ofList value.toList) = _
  rw [String.ofList_toList, String.ofList_toList]

theorem isBlankSwitch_define {key : String} (plain : '=' ∉ key.toList) (value : String) :
    isBlankSwitch (define key value) = value.isEmpty := by
  rw [isBlankSwitch, switchParts?_define plain]
  rfl

/-! ## The cross environment -/

section Cross

variable {names : List String} (plain : ∀ name ∈ names, '=' ∉ name.toList) (value : String → String)
include plain

theorem map_switchParts?_define :
    (names.map fun name => define name (value name)).map switchParts? =
      names.map fun name => some ("-D" ++ name, value name) := by
  rw [List.map_map]
  exact List.map_congr_left fun name mem => switchParts?_define (plain name mem) _

/-- The names whose value is empty are those that stand beside a blank switch. -/
theorem filter_zip_isBlankSwitch :
    ((names.zip (names.map fun name => define name (value name))).filter
      fun row => isBlankSwitch row.2).map Prod.fst =
        names.filter fun name => (value name).isEmpty := by
  have rows : names.zip (names.map fun name => define name (value name)) =
      names.map fun name => (name, define name (value name)) := by
    simpa using List.zip_map' (f := id) (g := fun name => define name (value name)) (l := names)
  rw [rows, List.filter_map, List.map_map]
  refine (List.map_id _).trans (List.filter_congr fun name mem => ?_)
  exact isBlankSwitch_define (plain name mem) _

end Cross

end Toolchain

namespace Configuration

/-! ## The generator's command -/

/-- The description of the step that runs the generator. -/
def generating : String := "Generate build files"

/-- The actions that generate the build files. -/
def generatingActions : List Action := [.build, .rebuild, .clean, .test, .analyze]

variable (c : Configuration) (extra : ExtraArgs) (processors : Option Nat)

/-- What the generator's command begins with, before the switches of the toolchain. -/
def generatorFront : List String :=
  ["cmake", "-S", c.projectDir.toString, "-B", c.buildDir.toString, "-G", c.generator,
    "-DCMAKE_BUILD_TYPE=" ++ c.buildType.name, "-DCMAKE_EXPORT_COMPILE_COMMANDS=ON",
    "-DBUILD_TESTING=" ++ (if c.skipTests then "OFF" else "ON")]

/-- A task that runs the generator runs it with the switches of the toolchain, and then the extra
arguments. -/
def Generates (t : Task) : Prop :=
  ∀ step, t = .run step → step.description = generating →
    step.command = c.generatorFront ++ c.toolchainArgs ++ extra.config

variable {c extra}

theorem generates_of_mem_buildSteps (built : ExtraArgs) (same : built.config = extra.config)
    {step : Step} (mem : step ∈ c.buildSteps built) : c.Generates extra (.run step) := by
  rintro _ ⟨⟩ description
  rcases List.mem_cons.mp mem with rfl | mem
  · rw [← same]
    rfl
  · obtain rfl := List.mem_singleton.mp mem
    exact absurd description (by simp [generating])

theorem generates_of_ne {step : Step} (other : step.description ≠ generating) :
    c.Generates extra (.run step) := by
  rintro _ ⟨⟩ description
  exact absurd description other

variable (c extra)

/-- What holds of every command of an action by itself, and of giving up, holds of its tasks. -/
theorem forall_mem_ownTasks {P : Task → Prop} {a : Action} (gaveUp : P .giveUp)
    (steps : ∀ step ∈ c.ownSteps extra processors a, P (.run step)) :
    ∀ t ∈ c.ownTasks extra processors a, P t := by
  intro t mem
  unfold ownTasks ownSteps? at mem
  by_cases writable : (c.ownNumbers processors a).all Numeric.isWritable = true
  · rw [if_pos writable] at mem
    obtain ⟨step, own, rfl⟩ := List.mem_map.mp mem
    exact steps step own
  · rw [if_neg writable] at mem
    rwa [List.mem_singleton.mp mem]

theorem generates_of_mem_ownTasks (a : Action) :
    ∀ t ∈ c.ownTasks extra processors a, c.Generates extra t := by
  refine c.forall_mem_ownTasks extra processors (fun _ h => by cases h) fun step mem => ?_
  cases a with
  | build => exact generates_of_mem_buildSteps extra rfl mem
  | rebuild => exact generates_of_mem_buildSteps (extra.extended _) rfl mem
  | clean => exact generates_of_mem_buildSteps (extra.extended _) rfl mem
  | cleanall => cases mem
  | test =>
    obtain rfl := List.mem_singleton.mp mem
    exact generates_of_ne (show "Run tests" ≠ generating by decide)
  | retest =>
    obtain rfl := List.mem_singleton.mp mem
    exact generates_of_ne (show "Re-run failed tests" ≠ generating by decide)
  | analyze =>
    obtain rfl := List.mem_singleton.mp mem
    exact generates_of_ne (show "Run static analysis" ≠ generating by decide)

theorem generates_of_mem_plan (a : Action) :
    ∀ t ∈ c.plan extra processors a, c.Generates extra t := by
  have own := c.generates_of_mem_ownTasks extra processors
  -- what follows a build runs no command
  have after : ∀ t ∈ c.afterBuild, c.Generates extra t := by
    rintro t mem step rfl
    unfold afterBuild at mem
    split at mem <;> simp at mem
  have removal : ∀ t ∈ [Task.removeOutput], c.Generates extra t := by
    rintro t mem step rfl
    simp at mem
  cases a with
  | build => exact List.forall_mem_append.mpr ⟨own .build, after⟩
  | rebuild => exact List.forall_mem_append.mpr ⟨own .rebuild, after⟩
  | clean => exact own .clean
  | cleanall => exact removal
  | test =>
    exact List.forall_mem_append.mpr ⟨List.forall_mem_append.mpr ⟨own .build, after⟩, own .test⟩
  | retest => exact own .retest
  | analyze =>
    exact List.forall_mem_append.mpr ⟨List.forall_mem_append.mpr ⟨own .build, after⟩, own .analyze⟩

/-- An action that builds begins with the generator, if the number of jobs can be written. -/
theorem plan_begins (writable : c.jobs.toList.all Numeric.isWritable = true) {a : Action}
    (mem : a ∈ generatingActions) : ∃ rest, c.plan extra processors a =
      .run ⟨c.generatorFront ++ c.toolchainArgs ++ extra.config, c.projectDir, generating⟩
        :: rest := by
  have own {b : Action} {built : ExtraArgs} (numbers : c.ownNumbers processors b = c.jobs.toList)
      (steps : c.ownSteps extra processors b = c.buildSteps built)
      (same : built.config = extra.config) : ∃ rest, c.ownTasks extra processors b =
        .run ⟨c.generatorFront ++ c.toolchainArgs ++ extra.config, c.projectDir, generating⟩
          :: rest := by
    refine ⟨[.run ⟨c.buildCommand built, c.projectDir, "Build project"⟩], ?_⟩
    unfold ownTasks ownSteps?
    rw [numbers, if_pos writable, steps, ← same]
    rfl
  obtain ⟨built, build⟩ := own (b := .build) rfl rfl rfl
  obtain ⟨rebuilt, rebuild⟩ := own (b := .rebuild) rfl rfl rfl
  obtain ⟨cleaned, clean⟩ := own (b := .clean) rfl rfl rfl
  simp only [generatingActions, List.mem_cons, List.not_mem_nil, or_false] at mem
  rcases mem with rfl | rfl | rfl | rfl | rfl
  · exact ⟨_, by rw [plan, build]; rfl⟩
  · exact ⟨_, by rw [plan, rebuild]; rfl⟩
  · exact ⟨_, by rw [plan, clean]⟩
  · exact ⟨_, by rw [plan, build]; rfl⟩
  · exact ⟨_, by rw [plan, build]; rfl⟩

end Configuration

/-! ## From the environment to the command -/

open Toolchain in
/-- If the numbers in its definitions can be written, the arguments of a toolchain are the switches
for the compilers and the linker, one switch for each further definition, the switch for the toolchain
file, and one switch for each variable of the cross environment; otherwise there are none. The last of
these hold the values of the variables unchanged, and a variable is reported as missing if the value in
its switch is empty. A resolved configuration has the arguments and the report of its toolchain, and
every command that runs the generator has the arguments of the configuration, all together, between a
part that does not depend on the extra arguments and the extra arguments for the generator. -/
theorem toolchain_arguments_verbatim (t : Toolchain)
    (plain : ∀ name ∈ t.crossEnvironment, '=' ∉ name.toList) :
    (∀ projectDir env, ∃ cross,
      (t.arguments? projectDir env = if t.isWritable then some (
        [define "CMAKE_C_COMPILER" t.cc, define "CMAKE_CXX_COMPILER" t.cxx,
          define "CMAKE_LINKER" t.linker] ++
        t.definitions.map (fun d => define d.1 (definitionText d.2)) ++
        ((t.filePath? projectDir).map fun f => define "CMAKE_TOOLCHAIN_FILE" f.toString).toList ++
        cross) else none) ∧
      cross.map switchParts? =
        t.crossEnvironment.map (fun name => some ("-D" ++ name, (env.get? name).getD "")) ∧
      t.missingEnvironment env =
        ((t.crossEnvironment.zip cross).filter fun row => isBlankSwitch row.2).map Prod.fst) ∧
    (∀ host registry options given c, resolve host registry options given = .ok c →
      c.toolchain = t → t.arguments? c.projectDir host.env = some c.toolchainArgs ∧
        c.missingEnvironment = t.missingEnvironment host.env) ∧
    ∀ c : Configuration, ∃ front, ∀ (extra : ExtraArgs) (processors : Option Nat) (a : Action),
      (∀ step, .run step ∈ c.plan extra processors a → step.description = generating →
        step.command = front ++ c.toolchainArgs ++ extra.config) ∧
      (a ∈ generatingActions → (∀ n, c.jobs = some n → Numeric.isWritable n = true) →
        ∃ step rest, c.plan extra processors a = .run step :: rest ∧
          step.description = generating) := by
  refine ⟨fun projectDir env => ⟨t.crossSwitches env, ?_, ?_, ?_⟩, ?_, ?_⟩
  · rw [arguments?, arguments, fileSwitches_eq]
    rfl
  · exact map_switchParts?_define plain env.getD
  · exact (filter_zip_isBlankSwitch plain env.getD).symm
  · rintro host registry options given c ok rfl
    obtain ⟨-, d, -, made⟩ := defaults_of_resolve ok
    obtain ⟨-, -, -, -, -, args, -, -, -, -, missing⟩ := resolveWith_eq_ok made
    exact ⟨args, missing⟩
  · intro c
    refine ⟨c.generatorFront, fun extra processors a => ⟨fun step mem => ?_, fun mem small => ?_⟩⟩
    · exact c.generates_of_mem_plan extra processors a _ mem step rfl
    · have writable : c.jobs.toList.all Numeric.isWritable = true :=
        List.all_eq_true.mpr fun n hn => small n (Option.mem_toList.mp hn)
      obtain ⟨rest, begins⟩ := c.plan_begins extra processors writable mem
      exact ⟨_, rest, begins, rfl⟩

/-- An environment in which one variable of the cross build has a value. -/
def halfSet : Environment := ⟨[("MSVC_BASE", "/opt/a=b c"), ("WINSDK_VER", "")]⟩

theorem toolchain_arguments_verbatim_halfSet :
    (∀ name ∈ Registry.msvcWsl.crossEnvironment, '=' ∉ name.toList) ∧
      ∃ cross : List String,
        Registry.msvcWsl.arguments? ⟨.root, ["p"]⟩ halfSet = some (
          ["-DCMAKE_C_COMPILER=clang-cl", "-DCMAKE_CXX_COMPILER=clang-cl",
            "-DCMAKE_LINKER=lld-link", "-DCMAKE_TOOLCHAIN_FILE=/p/cmake/WinMsvc.cmake"] ++ cross) ∧
        cross.map Toolchain.switchParts? =
          [some ("-DHOST_ARCH", ""), some ("-DLLVM_NATIVE_TOOLCHAIN", ""),
            some ("-DMSVC_BASE", "/opt/a=b c"), some ("-DWINSDK_BASE", ""),
            some ("-DWINSDK_VER", "")] ∧
        Registry.msvcWsl.missingEnvironment halfSet =
          ["HOST_ARCH", "LLVM_NATIVE_TOOLCHAIN", "WINSDK_BASE", "WINSDK_VER"] := by
  have plain : ∀ name ∈ Registry.msvcWsl.crossEnvironment, '=' ∉ name.toList := by decide
  obtain ⟨cross, args, parts, -⟩ :=
    (toolchain_arguments_verbatim Registry.msvcWsl plain).1 ⟨.root, ["p"]⟩ halfSet
  exact ⟨plain, cross, args, parts, by decide⟩

/-- A toolchain whose definition holds a number with too many digits has no arguments. A configuration
whose number of jobs has too many digits has arguments, but no command is composed with them. -/
theorem long_numbers_not_switched :
    (∀ projectDir env, endlessDefinition.arguments? projectDir env = none) ∧
    ∃ c, resolve (Machine.faultless.host .empty) .builtin { jobs := some (Nat.pow 16 3572) } none =
        .ok c ∧
      ∀ extra processors step, Task.run step ∉ c.plan extra processors .build := by
  have unwritable : endlessDefinition.isWritable = false := by decide +kernel
  have long : ((resolve (Machine.faultless.host .empty) .builtin
      { jobs := some (Nat.pow 16 3572) } none).toOption.map fun c =>
        c.jobs.toList.all Numeric.isWritable) = some false := by
    decide +kernel
  obtain ⟨c, resolved, long⟩ := Option.map_eq_some_iff.mp long
  refine ⟨fun projectDir env => ?_, c, eq_ok_of_toOption resolved, fun extra processors step mem => ?_⟩
  · rw [Toolchain.arguments?, unwritable]
    rfl
  · have own : c.ownTasks extra processors .build = [.giveUp] := by
      have numbers : c.ownNumbers processors .build = c.jobs.toList := rfl
      unfold ownTasks ownSteps?
      rw [numbers, long]
      rfl
    rw [plan, own, afterBuild] at mem
    split at mem <;> simp at mem

end BuildPilot
