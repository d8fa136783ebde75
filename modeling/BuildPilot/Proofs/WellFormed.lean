import BuildPilot.Proofs.Layout
import BuildPilot.Proofs.Program
import BuildPilot.Proofs.Texts

/-!
# Well-formed configurations

A request reaches the executor with a configuration whose counts are positive and whose texts are
neither empty nor surrounded by blanks, wherever they come from: from switches, from a defaults file
of any content, or from the fixed defaults. The tests of the commands for a missing count or an
empty pattern rest on this.
-/

namespace BuildPilot

open FileSystem Document Text

/-! ## Test filters -/

namespace TestFilter

/-- A name that a filter may hold. -/
def IsName (name : String) : Prop := IsTrimmed name ∧ ';' ∉ name.toList

theorem isName_of_mem_namesIn {value name : String} (h : name ∈ namesIn value) : IsName name := by
  obtain ⟨h, full⟩ := List.mem_filter.mp h
  obtain ⟨piece, hpiece, rfl⟩ := List.mem_map.mp h
  obtain ⟨chars, hchars, rfl⟩ := List.mem_map.mp hpiece
  refine ⟨isTrimmed_trim (by simpa using full), fun semicolon => ?_⟩
  have := mem_of_mem_trim semicolon
  rw [String.toList_ofList] at this
  exact not_mem_of_mem_splitAtEach hchars this

theorem mem_addName {names : List String} {name other : String} :
    other ∈ addName names name ↔ other ∈ names ∨ other = name := by
  unfold addName
  by_cases h : name ∈ names
  · rw [if_pos h]
    constructor
    · exact .inl
    · rintro (h' | rfl)
      · exact h'
      · exact h
  · rw [if_neg h, List.mem_append, List.mem_singleton]

theorem nodup_addName {names : List String} (h : names.Nodup) (name : String) :
    (addName names name).Nodup := by
  unfold addName
  split
  · exact h
  · exact List.nodup_append.mpr ⟨h, by simp, by simpa using fun a ha => ne_of_mem_of_not_mem ha ‹_›⟩

theorem mem_foldl_addName {names acc : List String} {name : String} :
    name ∈ names.foldl addName acc ↔ name ∈ acc ∨ name ∈ names := by
  induction names generalizing acc with
  | nil => simp
  | cons first names ih => rw [List.foldl_cons, ih, mem_addName, List.mem_cons, or_assoc]

theorem nodup_foldl_addName {acc : List String} (h : acc.Nodup) (names : List String) :
    (names.foldl addName acc).Nodup := by
  induction names generalizing acc with
  | nil => exact h
  | cons first names ih => exact ih (nodup_addName h first)

/-- The filter holds the names that are given, each once. -/
theorem parse_wellFormed (values : List String) :
    (parse values).Nodup ∧ (∀ name, name ∈ parse values ↔ ∃ v ∈ values, name ∈ namesIn v) ∧
      ∀ name ∈ parse values, IsName name := by
  have given (name : String) : name ∈ parse values ↔ ∃ v ∈ values, name ∈ namesIn v := by
    rw [parse, mem_foldl_addName, List.mem_flatMap]
    simp
  refine ⟨nodup_foldl_addName List.nodup_nil _, given, fun name h => ?_⟩
  obtain ⟨v, -, hv⟩ := (given name).mp h
  exact isName_of_mem_namesIn hv

end TestFilter

/-! ## Defaults -/

namespace Defaults

/-- Defaults whose counts are positive and whose texts are trimmed. -/
structure IsSound (d : Defaults) : Prop where
  outputDir : IsTrimmed d.outputDir
  generator : IsTrimmed d.generator
  jobs : ∀ n ∈ d.jobs, 1 ≤ n
  buildType : ∀ s ∈ d.buildType, IsTrimmed s
  toolchain : ∀ s ∈ d.toolchain, IsTrimmed s
  repeatUntilFail : 1 ≤ d.repeatUntilFail
  headerFilter : IsTrimmed d.headerFilter

theorem isSound_standard : ({} : Defaults).IsSound where
  outputDir := by decide
  generator := by decide
  jobs := nofun
  buildType := nofun
  toolchain := nofun
  repeatUntilFail := by decide
  headerFilter := by decide

variable {field : String} {es : List (Value × Value)} {doc : Document} {source : Option String}
  {fs : FileSystem} {cwd : Location} {d : Defaults}

theorem isTrimmed_of_textField {entry : Option String} (h : textField field es = .ok entry) :
    ∀ s ∈ entry, IsTrimmed s := by
  intro s hs
  unfold textField at h
  split at h
  · cases h
    cases hs
  · cases h
    cases hs
  · split at h
    · cases h
    · rename_i full
      cases h
      cases hs
      exact isTrimmed_trim (trim_ne_empty (by simpa using full))
  · cases h

theorem one_le_of_countField {entry : Option Int} (h : countField doc field es = .ok entry) :
    ∀ n ∈ entry, 1 ≤ n := by
  intro n hn
  unfold countField at h
  split at h
  · cases h
    cases hn
  · cases h
    cases hn
  · split at h
    · split at h
      · cases h
        cases hn
        assumption
      · cases h
    · cases h

theorem isTrimmed_getD {entry : Option String} {s : String} (h : ∀ s ∈ entry, IsTrimmed s)
    (hs : IsTrimmed s) : IsTrimmed (entry.getD s) := by
  cases entry with
  | none => exact hs
  | some t => exact h t rfl

theorem isSound_ofTable (ok : ofTable source doc es = .ok d) : d.IsSound := by
  have standard := isSound_standard
  unfold ofTable at ok
  split at ok
  · cases ok
  dsimp only at ok
  split at ok
  · cases ok
  obtain ⟨outputDir, hout, ok⟩ := bind_eq_ok ok
  obtain ⟨generator, hgenerator, ok⟩ := bind_eq_ok ok
  obtain ⟨jobs, hjobs, ok⟩ := bind_eq_ok ok
  obtain ⟨buildType, hbuildType, ok⟩ := bind_eq_ok ok
  obtain ⟨toolchain, htoolchain, ok⟩ := bind_eq_ok ok
  obtain ⟨repeats, hrepeats, ok⟩ := bind_eq_ok ok
  obtain ⟨headerFilter, hfilter, ok⟩ := bind_eq_ok ok
  cases ok
  exact {
    outputDir := isTrimmed_getD (isTrimmed_of_textField hout) standard.outputDir
    generator := isTrimmed_getD (isTrimmed_of_textField hgenerator) standard.generator
    jobs := one_le_of_countField hjobs
    buildType := isTrimmed_of_textField hbuildType
    toolchain := isTrimmed_of_textField htoolchain
    repeatUntilFail := by
      cases repeats with
      | none => exact standard.repeatUntilFail
      | some n => exact one_le_of_countField hrepeats n rfl
    headerFilter := isTrimmed_getD (isTrimmed_of_textField hfilter) standard.headerFilter }

theorem isSound_loadFile {path : Path} (ok : loadFile fs cwd path = .ok d) : d.IsSound := by
  unfold loadFile at ok
  obtain ⟨there, -, ok⟩ := bind_eq_ok ok
  split at ok
  · cases ok
  obtain ⟨doc, -, ok⟩ := bind_eq_ok ok
  obtain ⟨es, -, ok⟩ := bind_eq_ok (mapError_eq_ok ok)
  exact isSound_ofTable ok

/-- Whatever a project keeps in its files, the defaults that are loaded from there are sound. -/
theorem isSound_load {projectDir : Path} {requested : Option Path}
    (ok : load fs cwd projectDir requested = .ok d) : d.IsSound := by
  unfold load at ok
  split at ok
  · exact isSound_loadFile ok
  · obtain ⟨found, -, ok⟩ := bind_eq_ok ok
    cases found with
    | none =>
      cases ok
      exact isSound_standard
    | one path => exact isSound_loadFile ok
    | several names => cases ok

end Defaults

/-! ## Configurations -/

theorem Registry.get?_of_resolve {name : Option String} {os : String} {t : Toolchain}
    (h : Registry.builtin.resolve name os = .ok t) : Registry.builtin.get? t.name = some t := by
  have offered := mem_of_resolve h
  simp only [toolchains_builtin, List.mem_cons, List.not_mem_nil, or_false] at offered
  rcases offered with rfl | rfl | rfl | rfl | rfl <;> rfl

theorem jobCount_eq_ok {o : Options} {d : Defaults} {jobs : Option Int}
    (h : jobCount o d = .ok jobs) : jobs = o.jobs.or d.jobs ∧ ∀ n ∈ jobs, 1 ≤ n := by
  unfold jobCount at h
  split at h
  · rename_i given
    cases h
    exact ⟨given.symm, nofun⟩
  · rename_i n given
    split at h
    · next positive =>
        cases h
        refine ⟨given.symm, fun m hm => ?_⟩
        cases hm
        exact positive
    · cases h

namespace Configuration

/-- A configuration whose counts are positive and whose texts are trimmed, with a toolchain of the
registry and the build directory that belongs to it. -/
structure IsWellFormed (c : Configuration) (r : Registry) : Prop where
  jobs : ∀ n ∈ c.jobs, 1 ≤ n
  repeatUntilFail : 1 ≤ c.repeatUntilFail
  generator : IsTrimmed c.generator
  headerFilter : IsTrimmed c.headerFilter
  testFilter : c.testFilter.Nodup ∧
    ∀ name ∈ c.testFilter, IsTrimmed name ∧ ';' ∉ name.toList
  toolchain : r.get? c.toolchain.name = some c.toolchain
  buildDir : c.buildDir = (c.outputRoot.child c.toolchain.name).child c.buildType.name

variable {c : Configuration} {r : Registry}

theorem isWellFormed_of_resolveWith {h : Host} {o : Options} {d : Defaults} {projectDir : Path}
    (sound : d.IsSound) (ok : resolveWith h .builtin o d projectDir = .ok c) :
    c.IsWellFormed .builtin := by
  obtain ⟨toolchain, -, jobs, -, hbuild, -, filter, generator, repeats, header, -⟩ :=
    resolveWith_eq_ok ok
  obtain ⟨nodup, -, names⟩ := TestFilter.parse_wellFormed o.testNames
  refine {
    jobs := (jobCount_eq_ok jobs).2
    repeatUntilFail := repeats ▸ sound.repeatUntilFail
    generator := generator ▸ sound.generator
    headerFilter := header ▸ sound.headerFilter
    testFilter := by
      rw [filter]
      exact ⟨nodup, names⟩
    toolchain := Registry.get?_of_resolve toolchain
    buildDir := ?_ }
  obtain ⟨anchor, parts, -⟩ :=
    parts_buildDirectory (Registry.mem_of_resolve toolchain) c.outputRoot c.buildType
  rw [← hbuild] at anchor parts
  change c.buildDir = ⟨c.outputRoot.anchor, c.outputRoot.parts ++ [_] ++ [_]⟩
  rw [← anchor, List.append_assoc, List.singleton_append, ← parts]

/-! ## Commands of a well-formed configuration -/

theorem intercalate_ne_empty {name : String} (h : name ≠ "") (names : List String) :
    "|".intercalate (name :: names) ≠ "" := by
  rw [ne_eq, ← String.toList_inj, String.toList_intercalate]
  cases names with
  | nil => simpa [List.intercalate] using h
  | cons other names => simp [List.intercalate]

/-- The pattern is passed on exactly when there are names. -/
theorem testCommand_of_isWellFormed (wf : c.IsWellFormed r) (processors : Option Nat) :
    c.testCommand processors =
      ["ctest", "-j", toString (c.testJobs processors), "--schedule-random",
        "--repeat-until-fail", toString c.repeatUntilFail, "--output-on-failure"]
        ++ (if c.verbose then ["-V"] else [])
        ++ (if c.testFilter = [] then [] else ["-R", "|".intercalate c.testFilter]) := by
  unfold testCommand testPattern? TestFilter.pattern?
  cases names : c.testFilter with
  | nil => rfl
  | cons name rest =>
    have trimmed := (wf.testFilter.2 name (names ▸ List.mem_cons_self)).1
    have full : ("|".intercalate (name :: rest)).isEmpty = false := by
      rw [← Bool.not_eq_true, String.isEmpty_iff]
      exact intercalate_ne_empty trimmed.1 rest
    simp [full]

theorem testJobs_of_isWellFormed (wf : c.IsWellFormed r) (processors : Option Nat) :
    c.testJobs processors = c.jobs.getD (max 1 (processors.getD 1)) ∧
      1 ≤ c.testJobs processors := by
  unfold testJobs
  cases hjobs : c.jobs with
  | none =>
    refine ⟨rfl, ?_⟩
    dsimp only
    omega
  | some n =>
    have positive := wf.jobs n hjobs
    dsimp only
    rw [if_neg (by omega)]
    exact ⟨rfl, positive⟩

theorem jobArguments_of_isWellFormed (wf : c.IsWellFormed r) :
    c.jobArguments = (c.jobs.map toString).toList := by
  unfold jobArguments
  cases hjobs : c.jobs with
  | none => rfl
  | some n =>
    have positive := wf.jobs n hjobs
    dsimp only
    rw [if_neg (by omega)]
    rfl

end Configuration

/-! ## Requests -/

namespace CommandLine

variable {m : Machine} {a : Arguments} {fs : FileSystem} {actions : List Action} {c : Configuration}

/-- A job count that cannot be written keeps the executor from being started. -/
theorem isWritable_of_setUp (ready : setUp m a fs = .ok (actions, c)) :
    c.jobs.all Numeric.isWritable = true := by
  unfold setUp at ready
  split at ready
  · cases ready
  · split at ready
    · cases ready
    · split at ready
      · cases ready
      · rename_i described
        split at ready
        · cases ready
        · cases ready
          unfold Configuration.describe? at described
          by_contra long
          rw [if_neg long] at described
          exact described rfl

theorem setUp_of_resolve (valid : Action.validate a.actions = .ok actions) (kept : a.dropped = [])
    (resolved : resolve (m.host fs) .builtin a.options none = .ok c)
    (described : c.describe?.isNone = false) : setUp m a fs = .ok (actions, c) := by
  simp [setUp, configured, valid, kept, resolved, described]

/-- The actions that start the build tool, and what they add to its arguments. -/
def builds : List (Action × List String) :=
  [(.build, []), (.rebuild, ["--clean-first"]), (.clean, ["--target", "clean"])]

/-- Whatever the switches are, and whatever a defaults file holds: the configuration that is handed
to the executor is well formed. Its build can be composed, with the job count behind `-j` if there
is one. Its tests can be composed if their two numbers can be written, and these are positive. -/
theorem setUp_wellFormed (ready : setUp m a fs = .ok (actions, c)) :
    c.IsWellFormed .builtin ∧
    (∃ d, Defaults.load fs m.cwd c.projectDir a.options.configFile = .ok d ∧
      c.jobs = a.options.jobs.or d.jobs) ∧
    ∀ (extra : ExtraArgs) (processors : Option Nat), ∃ jobs repeats : Nat,
      0 < jobs ∧ 0 < repeats ∧
      (jobs : Int) = c.jobs.getD (max 1 (processors.getD 1)) ∧ (repeats : Int) = c.repeatUntilFail ∧
      (∀ action more, (action, more) ∈ builds → c.ownSteps? extra processors action = some [
        ⟨c.configureCommand extra, c.projectDir, "Generate build files"⟩,
        ⟨["cmake", "--build", c.buildDir.toString, "-j"]
          ++ (if c.jobs.isSome then [toString jobs] else []) ++ (extra.build ++ more)
          ++ (if (c.nativeArguments extra).isEmpty then [] else "--" :: c.nativeArguments extra),
          c.projectDir, "Build project"⟩]) ∧
      c.ownSteps? extra processors .test =
        if Numeric.isWritable jobs && Numeric.isWritable repeats then some [
          ⟨["ctest", "-j", toString jobs, "--schedule-random", "--repeat-until-fail",
            toString repeats, "--output-on-failure"] ++ (if c.verbose then ["-V"] else [])
            ++ (if c.testFilter = [] then [] else ["-R", "|".intercalate c.testFilter]),
            c.buildDir, "Run tests"⟩]
        else none := by
  obtain ⟨-, d, given | ⟨-, loaded⟩, made⟩ := defaults_of_resolve (setUp_eq_ok ready).2
  · cases given
  have wf := Configuration.isWellFormed_of_resolveWith (Defaults.isSound_load loaded) made
  obtain ⟨-, -, hjobs, -⟩ := resolveWith_eq_ok made
  refine ⟨wf, ⟨d, loaded, (jobCount_eq_ok hjobs).1⟩, fun extra processors => ?_⟩
  obtain ⟨counted, positive⟩ := Configuration.testJobs_of_isWellFormed wf processors
  obtain ⟨jobs, hj⟩ := Int.eq_ofNat_of_zero_le (show 0 ≤ c.testJobs processors by omega)
  obtain ⟨repeats, hr⟩ := Int.eq_ofNat_of_zero_le
    (show 0 ≤ c.repeatUntilFail from Int.le_trans (by decide) wf.repeatUntilFail)
  have repeated := wf.repeatUntilFail
  refine ⟨jobs, repeats, by omega, by omega, hj ▸ counted, hr.symm, ?_, ?_⟩
  · intro action more build
    have writable : c.jobs.toList.all Numeric.isWritable = true := by
      have written := isWritable_of_setUp ready
      cases hjobs : c.jobs with
      | none => rfl
      | some n =>
        rw [hjobs] at written
        simpa using written
    have numeral : c.jobArguments = if c.jobs.isSome then [toString jobs] else [] := by
      rw [Configuration.jobArguments_of_isWellFormed wf]
      cases hjobs : c.jobs with
      | none => rfl
      | some n =>
        rw [hjobs] at counted
        have : n = (jobs : Int) := by rw [← hj, counted]; rfl
        subst this
        rfl
    have own : c.ownSteps? extra processors action =
        if c.jobs.toList.all Numeric.isWritable then some (c.buildSteps (extra.extended more))
        else none := by
      simp only [builds, List.mem_cons, Prod.mk.injEq, List.not_mem_nil, or_false] at build
      rcases build with ⟨rfl, rfl⟩ | ⟨rfl, rfl⟩ | ⟨rfl, rfl⟩
      · rw [ExtraArgs.extended, List.append_nil]
        rfl
      · rfl
      · rfl
    rw [own, if_pos writable, ← numeral]
    rfl
  · have numbers : c.ownNumbers processors .test = [(jobs : Int), (repeats : Int)] := by
      rw [← hj, ← hr]
      rfl
    have command := Configuration.testCommand_of_isWellFormed wf processors
    rw [hj, hr] at command
    rw [Configuration.ownSteps?, numbers]
    simp only [List.all_cons, List.all_nil, Bool.and_true]
    split
    · change some [Step.mk (c.testCommand processors) c.buildDir "Run tests"] = _
      rw [command]
      rfl
    · rfl

/-- A request for two tests, side by side. -/
def twoTests : Arguments where
  actions := ["test"]
  options := { jobs := some 2, testNames := [" parser;lexer ", "parser;;"] }

theorem setUp_wellFormed_twoTests :
    ∃ c, setUp .faultless twoTests .empty = .ok ([.test], c) ∧ c.IsWellFormed .builtin ∧
      c.ownSteps? {} none .test = some [
        ⟨["ctest", "-j", "2", "--schedule-random", "--repeat-until-fail", "3",
          "--output-on-failure", "-R", "parser|lexer"], c.buildDir, "Run tests"⟩] := by
  have fields : ((setUp .faultless twoTests .empty).toOption.map fun r =>
      (r.1, r.2.jobs, r.2.testFilter, r.2.verbose, r.2.repeatUntilFail)) =
      some ([.test], some 2, ["parser", "lexer"], false, 3) := by
    decide +kernel
  match ready : setUp .faultless twoTests .empty with
  | .ok (actions, c) =>
    rw [ready] at fields
    have fields := Option.some.inj fields
    simp only [Prod.mk.injEq] at fields
    obtain ⟨rfl, hjobs, hfilter, hverbose, hrepeats⟩ := fields
    obtain ⟨wf, -, commands⟩ := setUp_wellFormed ready
    obtain ⟨jobs, repeats, -, -, hj, hr, -, test⟩ := commands {} none
    rw [hjobs] at hj
    rw [hrepeats] at hr
    have hj : (jobs : Int) = 2 := hj
    obtain rfl : jobs = 2 := by omega
    obtain rfl : repeats = 3 := by omega
    have writable : (Numeric.isWritable (2 : Nat) && Numeric.isWritable (3 : Nat)) = true := by
      decide +kernel
    refine ⟨c, rfl, wf, ?_⟩
    rw [test, hverbose, hfilter, if_pos writable]
    rfl
  | .error e =>
    rw [ready] at fields
    cases fields

end CommandLine

/-! ## Numbers that cannot be written -/

/-- A project in the directory `/p` that keeps its defaults in a text. -/
def projectWith (text : List Char) : FileSystem :=
  ⟨[(["p"], .dir),
    (["p", "buildfront.toml"], .file 0o644 (String.ofList text).toUTF8.data.toList)]⟩

/-- The path of its defaults file. -/
def defaultsPath : Path := ⟨.root, ["p", "buildfront.toml"]⟩

theorem decode?_octets (s : String) : decode? s.toUTF8.data.toList = some s := by
  unfold decode? String.fromUTF8?
  rw [Array.toArray_toList]
  exact dif_pos s.isValidUTF8

section Projects

variable {text : List Char} {v : Value} {doc : Document} {d : Defaults}

theorem readDocument_projectWith (read : Toml.read text = .ok v)
    (mapping : asMapping defaultsPath ⟨v, []⟩ = .ok doc) :
    readDocument (projectWith text) ["p"] defaultsPath = .ok doc := by
  have content : (projectWith text).read ["p"] defaultsPath =
      .ok (String.ofList text).toUTF8.data.toList := rfl
  have suffix : Format.ofSuffix? (lower defaultsPath.suffix) = some .toml := by decide +kernel
  have clean : hasNul defaultsPath = false := by decide +kernel
  have octets : Format.read .toml (String.ofList text).toUTF8.data.toList = .ok ⟨v, []⟩ := by
    simp only [Format.read, textOf, decode?_octets, String.toList_ofList, read, bind, Except.bind,
      pure, Except.pure]
  unfold readDocument
  simp only [suffix, clean, content, octets, Bool.false_eq_true, if_false]
  exact mapping

theorem load_projectWith (read : Toml.read text = .ok v)
    (mapping : asMapping defaultsPath ⟨v, []⟩ = .ok doc)
    (sound : Defaults.ofDocument (some defaultsPath.toString) doc = .ok d) :
    Defaults.load (projectWith text) ["p"] ⟨.root, ["p"]⟩ none = .ok d := by
  have found : findDocument (projectWith text) ["p"] ⟨.root, ["p"]⟩ defaultsStem [] =
      .ok (.one defaultsPath) := rfl
  have there : isFileAt (projectWith text) ["p"] defaultsPath = .ok true := rfl
  simp only [Defaults.load, Defaults.loadFile, found, there,
    readDocument_projectWith read mapping, sound, mapError_ok, bind, Except.bind, Bool.not_true,
    Bool.false_eq_true, if_false]

end Projects

/-- A text of defaults that has tests repeated more often than can be written. -/
def endlessText : List Char :=
  "[build]\nrepeat_until_fail = 0x1".toList ++ List.replicate 3572 '0'

/-- The defaults that it gives. -/
def endlessDefaults : Defaults :=
  { repeatUntilFail := Nat.pow 16 3572, source := some "/p/buildfront.toml" }

theorem load_endlessText :
    Defaults.load (projectWith endlessText) ["p"] ⟨.root, ["p"]⟩ none = .ok endlessDefaults := by
  have read : ((Toml.read endlessText).toOption.bind fun v =>
      (asMapping defaultsPath ⟨v, []⟩).toOption.bind fun doc =>
        (Defaults.ofDocument (some defaultsPath.toString) doc).toOption) =
      some endlessDefaults := by
    decide +kernel
  obtain ⟨v, hv, read⟩ := Option.bind_eq_some_iff.mp read
  obtain ⟨doc, hdoc, read⟩ := Option.bind_eq_some_iff.mp read
  exact load_projectWith (eq_ok_of_toOption hv) (eq_ok_of_toOption hdoc) (eq_ok_of_toOption read)

theorem resolve_endlessText :
    ∃ c, resolve (Machine.faultless.host (projectWith endlessText)) .builtin {} none = .ok c ∧
      c.describe?.isNone = false ∧ Numeric.isWritable c.repeatUntilFail = false := by
  have project : (projectDirectory (Machine.faultless.host (projectWith endlessText)) {}).toOption =
      some ⟨.root, ["p"]⟩ := by
    decide +kernel
  have fields : ((resolveWith (Machine.faultless.host (projectWith endlessText)) .builtin {}
      endlessDefaults ⟨.root, ["p"]⟩).toOption.map fun c =>
        (c.describe?.isNone, Numeric.isWritable c.repeatUntilFail)) = some (false, false) := by
    decide +kernel
  obtain ⟨c, made, fields⟩ := Option.map_eq_some_iff.mp fields
  obtain ⟨described, long⟩ := Prod.mk.inj fields
  exact ⟨c, resolve_of_load (eq_ok_of_toOption project) load_endlessText (eq_ok_of_toOption made),
    described, long⟩

/-- A request for tests is handed to the executor although their command cannot be composed. -/
theorem endlessTests_not_composed :
    ∃ c, CommandLine.setUp .faultless { actions := ["test"] } (projectWith endlessText) =
        .ok ([.test], c) ∧
      ∀ processors : Option Nat, c.ownSteps? {} processors .test = none := by
  obtain ⟨c, resolved, described, long⟩ := resolve_endlessText
  refine ⟨c, ?_, fun processors => ?_⟩
  · exact CommandLine.setUp_of_resolve rfl rfl resolved described
  · rw [Configuration.ownSteps?, if_neg]
    simp [Configuration.ownNumbers, long]

end BuildPilot
