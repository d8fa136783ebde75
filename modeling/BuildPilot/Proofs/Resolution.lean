import BuildPilot.Proofs.Precedence
import BuildPilot.Proofs.WellFormed

/-!
# When a run is configured

What options, defaults and host settle on must meet five conditions: the build type and the
toolchain have to exist, the output directory must spare the project, the number of jobs must be
positive, and the numbers in the definitions of the toolchain must be short enough to be written. The
conditions are looked at in this order. A run is configured exactly if all of them hold, and else the
first that fails is told, however many fail.

A number of jobs that is refused is shown in the message, so it has to be written as well. With too
many digits it is told as such a number.
-/

namespace BuildPilot

open FileSystem Text

/-! ## What is wished for -/

/-- What a run is to be, once defaults and host have filled in what its options leave open. -/
structure Wish where
  buildType : String
  toolchain? : Option String
  jobs? : Option Int

/-- A text that is given and not empty. -/
def said? (s : Option String) : Option String := s.filter (· ≠ "")

/-- An empty text in the options counts as none. An empty toolchain in the defaults is one that no
host replaces. -/
def wish (h : Host) (o : Options) (d : Defaults) : Wish where
  buildType := ((said? o.buildType).or (said? d.buildType)).getD "Debug"
  toolchain? := ((said? o.toolchain).or d.toolchain).or (Registry.defaultForHost? (lower h.os))
  jobs? := o.jobs.or d.jobs

namespace Wish

/-- The build type has one of the four names. -/
def NamesBuildType (w : Wish) : Prop := ∃ b : BuildType, b.name = w.buildType

/-- There is a toolchain, and it is offered. -/
def NamesToolchain (w : Wish) (r : Registry) : Prop := ∃ t ∈ r.names, w.toolchain? = some t

/-- All numbers in the definitions of the toolchain can be written. -/
def HasWritableToolchain (w : Wish) (r : Registry) : Prop :=
  ∀ name ∈ w.toolchain?, ∀ t ∈ r.get? name, t.isWritable = true

/-- The conditions for a run to be configured, in a project directory with an output directory. -/
structure IsGranted (w : Wish) (r : Registry) (projectDir root : Path) : Prop where
  buildType : w.NamesBuildType
  toolchain : w.NamesToolchain r
  output : ¬ root.Covers projectDir
  jobs : ∀ n ∈ w.jobs?, 1 ≤ n
  definitions : w.HasWritableToolchain r

/-- The fault that is told: the condition that fails, and all before it hold. -/
inductive FirstFault (w : Wish) (h : Host) (r : Registry) (d : Defaults) (projectDir root : Path) :
    ResolveFault → Prop
  | buildType (unnamed : ¬ w.NamesBuildType) :
      FirstFault w h r d projectDir root (.config (.buildType w.buildType))
  | host (buildType : w.NamesBuildType) (missing : w.toolchain? = none) :
      FirstFault w h r d projectDir root (.config (.host (lower h.os)))
  | toolchain {t : String} (buildType : w.NamesBuildType) (wished : w.toolchain? = some t)
      (unnamed : t ∉ r.names) : FirstFault w h r d projectDir root (.config (.toolchain t r.names))
  | output (buildType : w.NamesBuildType) (toolchain : w.NamesToolchain r)
      (covers : root.Covers projectDir) :
      FirstFault w h r d projectDir root (.config (.defaults (.coversProject d.outputDir) d.source))
  | jobs {n : Int} (buildType : w.NamesBuildType) (toolchain : w.NamesToolchain r)
      (output : ¬ root.Covers projectDir) (wished : w.jobs? = some n) (low : n < 1)
      (writable : Numeric.isWritable n = true) :
      FirstFault w h r d projectDir root (.config (.jobs n))
  | longJobs {n : Int} (buildType : w.NamesBuildType) (toolchain : w.NamesToolchain r)
      (output : ¬ root.Covers projectDir) (wished : w.jobs? = some n) (low : n < 1)
      (long : Numeric.isWritable n = false) : FirstFault w h r d projectDir root .longNumber
  | longDefinition {name : String} {t : Toolchain} (buildType : w.NamesBuildType)
      (wished : w.toolchain? = some name) (offered : r.get? name = some t)
      (output : ¬ root.Covers projectDir) (jobs : ∀ n ∈ w.jobs?, 1 ≤ n)
      (long : t.isWritable = false) : FirstFault w h r d projectDir root .longNumber

variable {w : Wish} {h : Host} {r : Registry} {d : Defaults} {p root : Path}

/-- Without a fault, all conditions hold. -/
theorem isGranted_or_firstFault (w : Wish) (h : Host) (r : Registry) (d : Defaults)
    (p root : Path) : w.IsGranted r p root ∨ ∃ f, w.FirstFault h r d p root f := by
  by_cases buildType : w.NamesBuildType
  case neg => exact .inr ⟨_, .buildType buildType⟩
  by_cases toolchain : w.NamesToolchain r
  case neg =>
    match wished : w.toolchain? with
    | none => exact .inr ⟨_, .host buildType wished⟩
    | some t => exact .inr ⟨_, .toolchain buildType wished fun named => toolchain ⟨t, named, wished⟩⟩
  by_cases covers : root.Covers p
  case pos => exact .inr ⟨_, .output buildType toolchain covers⟩
  by_cases jobs : ∀ n ∈ w.jobs?, 1 ≤ n
  case neg =>
    push Not at jobs
    obtain ⟨n, wished, low⟩ := jobs
    cases writable : Numeric.isWritable n with
    | true => exact .inr ⟨_, .jobs buildType toolchain covers wished low writable⟩
    | false => exact .inr ⟨_, .longJobs buildType toolchain covers wished low writable⟩
  by_cases definitions : w.HasWritableToolchain r
  · exact .inl ⟨buildType, toolchain, covers, jobs, definitions⟩
  · unfold HasWritableToolchain at definitions
    push Not at definitions
    obtain ⟨name, wished, t, offered, long⟩ := definitions
    exact .inr ⟨_, .longDefinition buildType wished offered covers jobs (by simpa using long)⟩

end Wish

/-- A configuration is what was wished for, in the given directories, with everything else as options
and defaults say and as the toolchain needs it. -/
structure Configuration.Fulfils (c : Configuration) (h : Host) (r : Registry) (o : Options)
    (d : Defaults) (projectDir root : Path) : Prop where
  buildType : c.buildType.name = (wish h o d).buildType
  toolchain : ∃ t, (wish h o d).toolchain? = some t ∧ r.get? t = some c.toolchain
  toolchainArgs : c.toolchainArgs = c.toolchain.arguments projectDir h.env
  missingEnvironment : c.missingEnvironment = c.toolchain.missingEnvironment h.env
  projectDir : c.projectDir = projectDir
  outputRoot : c.outputRoot = root
  buildDir : c.buildDir = buildDirectory root c.toolchain.name c.buildType
  skipTests : c.skipTests = o.skipTests
  testFilter : c.testFilter = TestFilter.parse o.testNames
  verbose : c.verbose = o.verbose
  jobs : c.jobs = (wish h o d).jobs?
  generator : c.generator = d.generator
  repeatUntilFail : c.repeatUntilFail = d.repeatUntilFail
  headerFilter : c.headerFilter = d.headerFilter

/-! ## The steps -/

section Steps

variable {h : Host} {r : Registry} {o : Options} {d : Defaults} {p root : Path}

theorem orElseText_eq (s t : Option String) : orElseText s t = (said? s).or t := by
  cases s with
  | none => rfl
  | some s =>
    by_cases empty : s = ""
    · simp [said?, Option.filter, empty]
    · simp [said?, Option.filter, empty]

theorem settledBuildType_eq (h : Host) (o : Options) (d : Defaults) :
    settledBuildType o d = (wish h o d).buildType := by
  unfold settledBuildType wish
  rw [orElseText_eq, orElseText_eq, Option.or_none]
  rfl

theorem BuildType.parse_name (b : BuildType) : BuildType.parse b.name = .ok b := by
  simp [BuildType.parse]

theorem outputRoot_of_covers
    (output : realPath h.files h.cwd (p / Path.ofString d.outputDir) = .ok root)
    (covers : root.Covers p) :
    outputRoot h d p = .error (.config (.defaults (.coversProject d.outputDir) d.source)) := by
  have within := Path.covers_iff_isWithin.mp covers
  simp [outputRoot, output, mapError_ok, within, bind, Except.bind, throw, throwThe,
    MonadExceptOf.throw]

theorem outputRoot_of_apart
    (output : realPath h.files h.cwd (p / Path.ofString d.outputDir) = .ok root)
    (apart : ¬ root.Covers p) : outputRoot h d p = .ok root := by
  have outside : p.isWithin root = false := by simpa [Path.covers_iff_isWithin] using apart
  simp [outputRoot, output, mapError_ok, outside, bind, Except.bind, pure, Except.pure]

theorem jobCount_of_low {n : Int} (wished : (wish h o d).jobs? = some n) (low : n < 1) :
    jobCount o d =
      .error (if Numeric.isWritable n then .config (.jobs n) else .longNumber) := by
  have wished : o.jobs.or d.jobs = some n := wished
  have refused : ¬ 1 ≤ n := by omega
  simp [jobCount, wished, refused]

theorem jobCount_of_positive (positive : ∀ n ∈ (wish h o d).jobs?, 1 ≤ n) :
    jobCount o d = .ok (wish h o d).jobs? := by
  have same : (wish h o d).jobs? = o.jobs.or d.jobs := rfl
  rw [same] at positive ⊢
  cases wished : o.jobs.or d.jobs with
  | none => simp [jobCount, wished]
  | some n => simp [jobCount, wished, positive n wished]

theorem toolchainArguments_of_writable {t : Toolchain} (writable : t.isWritable = true) :
    toolchainArguments h t p = .ok (t.arguments p h.env) := by
  simp [toolchainArguments, Toolchain.arguments?, writable]

theorem toolchainArguments_of_long {t : Toolchain} (long : t.isWritable = false) :
    toolchainArguments h t p = .error .longNumber := by
  simp [toolchainArguments, Toolchain.arguments?, long]

/-- The toolchain that is wished for is looked up in the registry. -/
theorem Registry.resolve_wished (h : Host) (r : Registry) (o : Options) (d : Defaults) :
    r.resolve (orElseText o.toolchain d.toolchain) (lower h.os) =
      match (wish h o d).toolchain? with
      | none => .error (.host (lower h.os))
      | some name =>
        match r.get? name with
        | some t => .ok t
        | none => .error (.toolchain name r.names) := by
  unfold Registry.resolve
  rw [orElseText_eq]
  rfl

theorem Registry.resolve_of_offered {name : String} {t : Toolchain}
    (wished : (wish h o d).toolchain? = some name) (offered : r.get? name = some t) :
    r.resolve (orElseText o.toolchain d.toolchain) (lower h.os) = .ok t := by
  rw [resolve_wished, wished]
  dsimp only
  rw [offered]

theorem Registry.resolve_of_named (toolchain : (wish h o d).NamesToolchain r) :
    ∃ name t, (wish h o d).toolchain? = some name ∧ r.get? name = some t ∧
      r.resolve (orElseText o.toolchain d.toolchain) (lower h.os) = .ok t := by
  obtain ⟨name, named, wished⟩ := toolchain
  obtain ⟨t, offered⟩ := Option.ne_none_iff_exists'.mp (mt get?_eq_none_iff.mp (not_not.mpr named))
  exact ⟨name, t, wished, offered, resolve_of_offered wished offered⟩

/-- All that is known to be right has no say in the fault that is told. -/
theorem resolve_of_firstFault {f : ResolveFault} (project : projectDirectory h o = .ok p)
    (output : realPath h.files h.cwd (p / Path.ofString d.outputDir) = .ok root)
    (first : (wish h o d).FirstFault h r d p root f) :
    resolve h r o (some d) = .error f := by
  rw [resolve_of_project project]
  unfold resolveWith
  dsimp only
  change (BuildType.parse (settledBuildType o d)).mapError _ >>= _ = _
  rw [settledBuildType_eq h]
  have parse (named : (wish h o d).NamesBuildType) :
      ∃ b, BuildType.parse (wish h o d).buildType = .ok b := by
    obtain ⟨b, hb⟩ := named
    exact ⟨b, hb ▸ b.parse_name⟩
  cases first with
  | buildType unnamed =>
    have unknown : BuildType.ofName? (wish h o d).buildType = none := by
      rw [Option.eq_none_iff_forall_ne_some]
      exact fun b hb => unnamed ⟨b, BuildType.ofName?_eq_some_iff.mp hb⟩
    rw [BuildType.parse, unknown]
    rfl
  | host named missing =>
    obtain ⟨b, hb⟩ := parse named
    rw [hb, Registry.resolve_wished, missing]
    rfl
  | toolchain named wished unnamed =>
    obtain ⟨b, hb⟩ := parse named
    rw [hb, Registry.resolve_wished, wished]
    dsimp only
    rw [Registry.get?_eq_none_iff.mpr unnamed]
    rfl
  | output named toolchain covers =>
    obtain ⟨b, hb⟩ := parse named
    obtain ⟨-, t, -, -, ht⟩ := Registry.resolve_of_named toolchain
    rw [hb, ht, outputRoot_of_covers output covers]
    rfl
  | jobs named toolchain apart wished low writable =>
    obtain ⟨b, hb⟩ := parse named
    obtain ⟨-, t, -, -, ht⟩ := Registry.resolve_of_named toolchain
    rw [hb, ht, outputRoot_of_apart output apart, jobCount_of_low wished low, if_pos writable]
    rfl
  | longJobs named toolchain apart wished low long =>
    obtain ⟨b, hb⟩ := parse named
    obtain ⟨-, t, -, -, ht⟩ := Registry.resolve_of_named toolchain
    rw [hb, ht, outputRoot_of_apart output apart, jobCount_of_low wished low, long]
    rfl
  | longDefinition named wished offered apart positive long =>
    obtain ⟨b, hb⟩ := parse named
    rw [hb, Registry.resolve_of_offered wished offered, outputRoot_of_apart output apart,
      jobCount_of_positive positive]
    change toolchainArguments h _ p >>= _ = _
    rw [toolchainArguments_of_long long]
    rfl

theorem resolve_of_isGranted (project : projectDirectory h o = .ok p)
    (output : realPath h.files h.cwd (p / Path.ofString d.outputDir) = .ok root)
    (granted : (wish h o d).IsGranted r p root) :
    ∃ c, resolve h r o (some d) = .ok c ∧ c.Fulfils h r o d p root := by
  obtain ⟨b, hb⟩ := granted.buildType
  have parse : BuildType.parse (settledBuildType o d) = .ok b := by
    rw [settledBuildType_eq h, ← hb]
    exact b.parse_name
  obtain ⟨name, t, wished, offered, ht⟩ := Registry.resolve_of_named granted.toolchain
  unfold settledBuildType at parse
  rw [resolve_of_project project]
  unfold resolveWith
  dsimp only
  have written := granted.definitions name wished t offered
  rw [parse, ht, outputRoot_of_apart output granted.output, jobCount_of_positive granted.jobs]
  change ∃ c, (toolchainArguments h t p >>= _) = _ ∧ _
  rw [toolchainArguments_of_writable written]
  exact ⟨_, rfl, hb, ⟨name, wished, offered⟩, rfl, rfl, rfl, rfl, rfl, rfl, rfl, rfl, rfl, rfl,
    rfl, rfl⟩

end Steps

/-! ## The decision -/

/-- In a project directory with an output directory that can be found, a run is configured exactly
if the five conditions hold; it fails with an error exactly if that is the fault of the first
condition that does not hold; and its configuration is what was wished for. -/
theorem resolve_decided {h : Host} {r : Registry} {o : Options} {d : Defaults} {p root : Path}
    (project : projectDirectory h o = .ok p)
    (output : realPath h.files h.cwd (p / Path.ofString d.outputDir) = .ok root) :
    ((∃ c, resolve h r o (some d) = .ok c) ↔ (wish h o d).IsGranted r p root) ∧
    (∀ e, resolve h r o (some d) = .error e ↔ (wish h o d).FirstFault h r d p root e) ∧
    ∀ c, resolve h r o (some d) = .ok c → c.Fulfils h r o d p root := by
  rcases (wish h o d).isGranted_or_firstFault h r d p root with granted | ⟨f, first⟩
  · obtain ⟨c, ok, fulfils⟩ := resolve_of_isGranted project output granted
    refine ⟨⟨fun _ => granted, fun _ => ⟨c, ok⟩⟩, fun e => ⟨fun failed => ?_, fun first => ?_⟩,
      fun c' ok' => ?_⟩
    · cases ok.symm.trans failed
    · cases ok.symm.trans (resolve_of_firstFault project output first)
    · cases ok.symm.trans ok'
      exact fulfils
  · have failed := resolve_of_firstFault project output first
    refine ⟨⟨?_, fun granted => ?_⟩, fun e => ⟨fun failed' => ?_, fun first' => ?_⟩,
      fun c ok => ?_⟩
    · rintro ⟨c, ok⟩
      cases ok.symm.trans failed
    · obtain ⟨c, ok, -⟩ := resolve_of_isGranted project output granted
      cases ok.symm.trans failed
    · cases failed.symm.trans failed'
      exact first
    · exact resolve_of_firstFault project output first'
    · cases ok.symm.trans failed

/-- Options that leave the build type open and ask for no jobs at all. -/
def jobless : Options := { buildType := some "", jobs := some 0, projectDir := some (.ofString "p") }

/-- The output directory is above the project and there are no jobs; the directory is told. With an
output directory beside it the jobs are told. -/
theorem resolve_decided_jobless :
    let project : Path := ⟨.root, ["w", "p"]⟩
    projectDirectory linkedHost jobless = .ok project ∧
    realPath linkedHost.files linkedHost.cwd (project / Path.ofString "..") = .ok ⟨.root, ["w"]⟩ ∧
    resolve linkedHost .builtin jobless (some { outputDir := ".." }) =
      .error (.config (.defaults (.coversProject "..") none)) ∧
    realPath linkedHost.files linkedHost.cwd (project / Path.ofString "build") =
      .ok ⟨.root, ["w", "out"]⟩ ∧
    resolve linkedHost .builtin jobless (some {}) = .error (.config (.jobs 0)) := by
  intro project
  have hproject : projectDirectory linkedHost jobless = .ok project := by decide +kernel
  have above : realPath linkedHost.files linkedHost.cwd (project / Path.ofString "..") =
      .ok ⟨.root, ["w"]⟩ := by decide +kernel
  have beside : realPath linkedHost.files linkedHost.cwd (project / Path.ofString "build") =
      .ok ⟨.root, ["w", "out"]⟩ := by decide +kernel
  have debug (d : Defaults) (open' : d.buildType = none) :
      (wish linkedHost jobless d).NamesBuildType := by
    refine ⟨.debug, ?_⟩
    simp [wish, open', jobless, said?, Option.filter, BuildType.name]
  have gcc (d : Defaults) (open' : d.toolchain = none) :
      (wish linkedHost jobless d).NamesToolchain .builtin := by
    refine ⟨"gcc", by decide +kernel, ?_⟩
    simp only [wish, open']
    decide +kernel
  refine ⟨hproject, above, ?_, beside, ?_⟩
  · obtain ⟨-, fails, -⟩ := resolve_decided (r := .builtin) (d := { outputDir := ".." })
      hproject above
    exact (fails _).mpr (.output (debug _ rfl) (gcc _ rfl) ⟨rfl, ["p"], rfl⟩)
  · obtain ⟨-, fails, -⟩ := resolve_decided (r := .builtin) (d := {}) hproject beside
    refine (fails _).mpr (.jobs (debug _ rfl) (gcc _ rfl) ?_ rfl (by decide) (by decide +kernel))
    rintro ⟨-, covers⟩
    exact absurd covers (by decide)

/-- A number of jobs that is too small is not told as such if it has too many digits. A run whose
toolchain defines a number with too many digits is not configured at all. And a run is configured
whose output directory is the project directory, behind a loop of links. -/
theorem long_numbers_not_resolved :
    resolve linkedHost .builtin { jobs := some (-(Nat.pow 10 Numeric.maxDigits : Nat)) }
      (some {}) = .error .longNumber ∧
    resolve linkedHost ⟨[("gcc", endlessDefinition)]⟩ {} (some {}) = .error .longNumber ∧
    ∃ c, resolve spelledHost .builtin {} (some { outputDir := "/e/lnk" }) = .ok c ∧
      c.projectDir = ⟨.root, ["p"]⟩ ∧ c.outputRoot = ⟨.doubleRoot, ["p"]⟩ := by
  have fails {x : Except ResolveFault Configuration}
      (h : x.map (fun _ => ()) = .error .longNumber) : x = .error .longNumber := by
    cases x with
    | error e =>
      cases h
      rfl
    | ok c => cases h
  refine ⟨fails (by decide +kernel), fails (by decide +kernel), ?_⟩
  have spelled : ((resolve spelledHost .builtin {} (some { outputDir := "/e/lnk" })).toOption.map
      fun c => (c.projectDir, c.outputRoot)) =
        some (⟨.root, ["p"]⟩, ⟨.doubleRoot, ["p"]⟩) := by
    decide +kernel
  obtain ⟨c, resolved, dirs⟩ := Option.map_eq_some_iff.mp spelled
  obtain ⟨project, root⟩ := Prod.mk.inj dirs
  exact ⟨c, eq_ok_of_toOption resolved, project, root⟩

end BuildPilot
