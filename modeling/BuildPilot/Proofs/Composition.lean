import BuildPilot.Proofs.ScopeIsolation
import BuildPilot.Proofs.WorkingDirectory

/-!
# Composed commands

Extra arguments are appended to the commands of a build and replace nothing. Rebuilding and cleaning
are a build with a marker behind the arguments for the build tool. Of all these words the native
tool receives those behind the first separator.
-/

namespace BuildPilot

open FileSystem

/-! ## Separators -/

/-- The words of a command that the build tool keeps for itself: those before the first
separator. -/
def keptWords (command : List String) : List String := command.takeWhile (· != "--")

/-- The words of a command that the native tool receives: those behind the first separator. -/
def passedWords (command : List String) : List String :=
  (command.dropWhile (· != "--")).drop 1

theorem keptWords_append {front : List String} (h : "--" ∉ front) (back : List String) :
    keptWords (front ++ back) = front ++ keptWords back := by
  refine List.takeWhile_append_of_pos fun word mem => ?_
  rw [bne_iff_ne]
  exact ne_of_mem_of_not_mem mem h

theorem passedWords_append {front : List String} (h : "--" ∉ front) (back : List String) :
    passedWords (front ++ back) = passedWords back := by
  refine congrArg (List.drop 1) (List.dropWhile_append_of_pos fun word mem => ?_)
  rw [bne_iff_ne]
  exact ne_of_mem_of_not_mem mem h

theorem numeral_ne_separator (n : Int) : toString n ≠ "--" := by
  intro h
  have dash (m : Nat) : '-' ∉ m.repr.toList := by
    rw [Nat.repr_eq_ofList_toDigits, String.toList_ofList]
    intro mem
    exact absurd (Nat.isDigit_of_mem_toDigits (by decide) (by decide) mem) (by decide)
  have text : n.repr = "-" ++ "-" := h
  rw [Int.repr_eq_if] at text
  -- the text of a negative number starts with one dash, and what follows are digits
  split_ifs at text
  · apply dash n.toNat
    rw [text]
    decide
  · apply dash (-n).toNat
    rw [(String.append_right_inj "-").mp text]
    decide

theorem Path.ne_separator_of_isAbsolute {p : Path} (h : p.isAbsolute = true) :
    p.toString ≠ "--" := by
  intro same
  have slash := isAbsoluteText_toString h
  rw [same] at slash
  cases slash

namespace Configuration

variable {c : Configuration} {e : ExtraArgs} {more : List String}

/-! ## The parts of the commands -/

theorem configureCommand_extended (c : Configuration) (e : ExtraArgs) (more : List String) :
    c.configureCommand (e.extended more) = c.configureCommand {} ++ e.config := by
  unfold configureCommand ExtraArgs.extended
  rw [List.append_nil]

theorem jobArguments_eq (c : Configuration) :
    c.jobArguments = (c.jobs.toList.filter (· ≠ 0)).map toString := by
  unfold jobArguments
  cases c.jobs with
  | none => rfl
  | some n => by_cases zero : n = 0 <;> simp [zero]

theorem part_native_eq (c : Configuration) (e : ExtraArgs) :
    c.part e .native = if c.verbose = true ∨ e.native ≠ [] then
      "--" :: ((if c.verbose then ["-v"] else []) ++ e.native) else [] := by
  unfold part nativeArguments
  cases c.verbose with
  | true => simp
  | false => cases e.native <;> simp

theorem words_of_part_native (c : Configuration) (e : ExtraArgs) :
    keptWords (c.part e .native) = [] ∧
      passedWords (c.part e .native) = c.nativeArguments e := by
  unfold part
  cases c.nativeArguments e with
  | nil => exact ⟨rfl, rfl⟩
  | cons word words => exact ⟨rfl, rfl⟩

theorem separator_not_mem_front (absolute : c.buildDir.isAbsolute = true) (free : "--" ∉ e.build)
    {action : Action} (build : (action, more) ∈ CommandLine.builds) :
    "--" ∉ c.part (e.extended more) .build := by
  have marker : "--" ∉ more := by
    simp only [CommandLine.builds, List.mem_cons, Prod.mk.injEq, List.not_mem_nil, or_false]
      at build
    rcases build with ⟨-, rfl⟩ | ⟨-, rfl⟩ | ⟨-, rfl⟩ <;> decide
  have directory := Path.ne_separator_of_isAbsolute absolute
  have jobs : "--" ∉ c.jobArguments := by
    rw [jobArguments_eq, List.mem_map]
    rintro ⟨n, -, h⟩
    exact numeral_ne_separator n h
  simp [part, ExtraArgs.extended, free, marker, jobs, directory.symm]

/-- Extra arguments are appended to what a build runs without them, and the generator's command ends
with the arguments of the toolchain before that. A rebuild and a clean differ from a build by a
marker behind the extra arguments for the build tool. If the build directory is absolute, as that of
every resolved configuration, and there is no separator among these arguments, then the native tool
receives the verbosity flag and its own extra arguments and nothing else, and the marker stands
before them. -/
theorem extras_appended (c : Configuration) (processors : Option Nat)
    (writable : ∀ n, c.jobs = some n → Numeric.isWritable n = true) :
    let jobs := (c.jobs.toList.filter (· ≠ 0)).map toString
    let flag := if c.verbose then ["-v"] else []
    ∃ configure, c.toolchainArgs <:+ configure ∧
      (∃ build, c.ownSteps? {} processors .build =
        some [⟨configure, c.projectDir, "Generate build files"⟩, build]) ∧
      (∀ (e : ExtraArgs) action marker, (action, marker) ∈ CommandLine.builds →
        let behind := if c.verbose = true ∨ e.native ≠ [] then "--" :: (flag ++ e.native) else []
        let words := ["cmake", "--build", c.buildDir.toString, "-j"] ++ jobs ++ (e.build ++ marker)
          ++ behind
        c.ownSteps? e processors action = some [
          ⟨configure ++ e.config, c.projectDir, "Generate build files"⟩,
          ⟨words, c.projectDir, "Build project"⟩] ∧
        (c.buildDir.isAbsolute = true → "--" ∉ e.build →
          passedWords words = flag ++ e.native ∧ e.build ++ marker <:+ keptWords words)) ∧
      ∀ host registry options given, resolve host registry options given = .ok c →
        c.buildDir.isAbsolute = true := by
  intro jobs flag
  have numbers : c.jobs.toList.all Numeric.isWritable = true :=
    List.all_eq_true.mpr fun n hn => writable n (Option.mem_toList.mp hn)
  have steps (e : ExtraArgs) {action : Action} {marker : List String}
      (build : (action, marker) ∈ CommandLine.builds) :=
    (ownSteps?_eq_parts build e processors).trans (if_pos numbers)
  -- what the extra arguments are appended to is the command without any
  refine ⟨c.configureCommand {}, ?_, ?_, ?_, ?_⟩
  · unfold configureCommand
    rw [List.append_nil]
    exact List.suffix_append _ _
  · exact ⟨_, steps {} (show (.build, []) ∈ CommandLine.builds by decide)⟩
  · intro e action marker build behind words
    have front : c.part (e.extended marker) .build =
        ["cmake", "--build", c.buildDir.toString, "-j"] ++ jobs ++ (e.build ++ marker) := by
      rw [part, jobArguments_eq]
      rfl
    have back : c.part (e.extended marker) .native = behind := part_native_eq c _
    refine ⟨?_, fun absolute free => ?_⟩
    · rw [steps e build, front, back, part, configureCommand_extended]
    · have clean := separator_not_mem_front absolute free build
      obtain ⟨kept, passed⟩ := words_of_part_native c (e.extended marker)
      rw [front] at clean
      rw [back] at kept passed
      rw [passedWords_append clean, keptWords_append clean, kept, List.append_nil]
      exact ⟨passed, List.suffix_append _ _⟩
  · exact fun host registry options given resolved => (isAbsolute_of_resolve resolved).2.2.1

/-- A verbose build with four processes. -/
def talking : Configuration where
  buildType := .debug
  toolchain := Registry.gcc
  toolchainArgs := ["-DCMAKE_C_COMPILER=gcc"]
  projectDir := ⟨.root, ["p"]⟩
  outputRoot := ⟨.root, ["p", "build"]⟩
  buildDir := ⟨.root, ["p", "build", "gcc", "Debug"]⟩
  skipTests := false
  testFilter := []
  verbose := true
  jobs := some 4
  generator := "Ninja"
  repeatUntilFail := 3
  headerFilter := "include/"
  missingEnvironment := []

theorem extras_appended_talking :
    let e : ExtraArgs :=
      { config := ["-DA=1"], build := ["--target", "docs"], native := ["--", "-k"] }
    let words := ["cmake", "--build", "/p/build/gcc/Debug", "-j", "4", "--target", "docs",
      "--clean-first", "--", "-v", "--", "-k"]
    (∀ n, talking.jobs = some n → Numeric.isWritable n = true) ∧
      ((talking.ownSteps? e none .rebuild).map fun steps => steps.map Step.command).bind
        (·.getLast?) = some words ∧
      passedWords words = ["-v", "--", "-k"] ∧
      ["--target", "docs", "--clean-first"] <:+ keptWords words := by
  intro e words
  have writable : ∀ n, talking.jobs = some n → Numeric.isWritable n = true := by
    intro n h
    cases h
    decide +kernel
  obtain ⟨configure, -, -, composed, -⟩ := talking.extras_appended none writable
  obtain ⟨steps, separated⟩ := composed e .rebuild ["--clean-first"] (by decide)
  obtain ⟨passed, kept⟩ := separated (by decide) (by decide)
  refine ⟨writable, ?_, passed, kept⟩
  rw [steps]
  rfl

/-- A build with more processes than can be written is not composed. -/
theorem endlessJobs_not_composed :
    ∃ c, resolve (Machine.faultless.host .empty) .builtin { jobs := some (Nat.pow 16 3572) } none =
        .ok c ∧
      ∀ (e : ExtraArgs) (processors : Option Nat), c.ownSteps? e processors .build = none := by
  have long : ((resolve (Machine.faultless.host .empty) .builtin
      { jobs := some (Nat.pow 16 3572) } none).toOption.map fun c =>
        c.jobs.toList.all Numeric.isWritable) = some false := by
    decide +kernel
  obtain ⟨c, resolved, long⟩ := Option.map_eq_some_iff.mp long
  refine ⟨c, eq_ok_of_toOption resolved, fun e processors => ?_⟩
  rw [ownSteps?_eq_parts (show (.build, []) ∈ CommandLine.builds by decide), long]
  rfl

end Configuration

end BuildPilot
