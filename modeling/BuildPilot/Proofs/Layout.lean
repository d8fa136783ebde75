import BuildPilot.Configuration.Resolve
import BuildPilot.Proofs.RealPath

/-!
# The layout of a configured run

Removing the output directory removes everything below it. A run is only configured if that spares
the project: the output directory is neither the project directory nor above it, and everything
that is built lies below the output directory.
-/

namespace BuildPilot

open FileSystem Text

/-! ## Paths above paths -/

namespace Path

/-- The components of `p` begin those of `q`, from the same anchor: `q` is `p` or below it. -/
def Covers (p q : Path) : Prop := p.anchor = q.anchor ∧ p.parts <+: q.parts

/-- `q` lies strictly below `p`. -/
def IsAbove (p q : Path) : Prop := p.Covers q ∧ p ≠ q

variable {p q r : Path}

theorem covers_iff_isWithin : p.Covers q ↔ q.isWithin p = true := by
  unfold Covers isWithin
  rw [Bool.and_eq_true, beq_iff_eq, List.isPrefixOf_iff_prefix, eq_comm]

theorem Covers.trans (h : p.Covers q) (h' : q.Covers r) : p.Covers r :=
  ⟨h.1.trans h'.1, h.2.trans h'.2⟩

theorem isAbove_of_parts (names : List String) (hne : names ≠ []) (hanchor : q.anchor = p.anchor)
    (hparts : q.parts = p.parts ++ names) : p.IsAbove q := by
  refine ⟨⟨hanchor.symm, names, hparts.symm⟩, ?_⟩
  rintro rfl
  exact hne (List.self_eq_append_right.mp hparts)

theorem child_injective {name : String} (h : p.child name = q.child name) : p = q := by
  cases p
  cases q
  simpa [child] using h

end Path

/-! ## What resolving a run gives -/

theorem bind_eq_ok {ε α β : Type} {x : Except ε α} {f : α → Except ε β} {b : β}
    (h : (x >>= f) = .ok b) : ∃ a, x = .ok a ∧ f a = .ok b := by
  cases x with
  | error e => cases h
  | ok a => exact ⟨a, rfl, h⟩

theorem mapError_eq_ok {ε ε' α : Type} {x : Except ε α} {f : ε → ε'} {a : α}
    (h : x.mapError f = .ok a) : x = .ok a := by
  cases x with
  | error e => cases h
  | ok b =>
    cases h
    rfl

theorem mapError_ok {ε ε' α : Type} (a : α) (f : ε → ε') : (Except.ok a).mapError f = .ok a := rfl

theorem eq_ok_of_toOption {ε α : Type} {x : Except ε α} {a : α} (h : x.toOption = some a) :
    x = .ok a := by
  cases x with
  | error e => cases h
  | ok b =>
    cases h
    rfl

theorem isOk_map {ε α β : Type} (f : α → β) (x : Except ε α) : (x.map f).isOk = x.isOk := by
  cases x <;> rfl

theorem Registry.get?_eq_none_iff {r : Registry} {name : String} :
    r.get? name = none ↔ name ∉ r.names := by
  unfold get? names
  rw [List.lookup_eq_none_iff]
  constructor
  · intro away named
    obtain ⟨e, he, rfl⟩ := List.mem_map.mp named
    simpa using away e he
  · intro absent e he
    have other : name ≠ e.1 := fun same => absent (same ▸ List.mem_map_of_mem he)
    simpa using other

theorem Registry.mem_of_get? {r : Registry} {name : String} {t : Toolchain}
    (h : r.get? name = some t) : (name, t) ∈ r.entries := by
  obtain ⟨before, after, entries, -⟩ := List.lookup_eq_some_iff.mp h
  simp [entries]

theorem Registry.mem_of_resolve {r : Registry} {name : Option String} {os : String} {t : Toolchain}
    (h : r.resolve name os = .ok t) : t ∈ r.toolchains := by
  unfold Registry.resolve at h
  split at h
  · cases h
  · split at h
    · rename_i t' found
      cases h
      exact List.mem_map_of_mem (mem_of_get? found)
    · cases h

theorem outputRoot_eq_ok {h : Host} {d : Defaults} {projectDir root : Path}
    (ok : outputRoot h d projectDir = .ok root) :
    realPath h.files h.cwd (projectDir / Path.ofString d.outputDir) = .ok root ∧
      ¬ root.Covers projectDir := by
  unfold outputRoot at ok
  obtain ⟨root', hreal, ok⟩ := bind_eq_ok ok
  by_cases covers : projectDir.isWithin root' = true
  · rw [if_pos covers] at ok
    cases ok
  · rw [if_neg covers] at ok
    cases ok
    exact ⟨mapError_eq_ok hreal, mt Path.covers_iff_isWithin.mp covers⟩

/-- Where no loop of links is met, names alone tell that the output directory spares the project.
Behind a loop, the output directory may start at the root written with two slashes, and then it is
compared with the project directory as a path from another anchor. -/
theorem names_of_outputRoot {h : Host} {d : Defaults} {projectDir root : Path}
    (ok : outputRoot h d projectDir = .ok root) (anchor : projectDir.anchor = .root)
    (resolvable : IsResolvable h.files h.cwd (projectDir / Path.ofString d.outputDir)) :
    ¬ root.parts <+: projectDir.parts := by
  obtain ⟨hreal, spared⟩ := outputRoot_eq_ok ok
  have hroot : root.anchor = .root := by
    rw [← eq_resolved_of_realPath hreal]
    exact anchor_resolved resolvable
  exact fun covers => spared ⟨hroot.trans anchor.symm, covers⟩

/-- A host on which a link leads through itself to a project, written with two slashes. -/
def spelledHost : Host where
  files := ⟨[(["e"], .dir), (["e", "lnk"], .link "lnk///p"), (["p"], .dir), (["p", "gcc"], .dir),
    (["p", "gcc", "Debug"], .dir),
    (["p", "gcc", "Debug", "compile_commands.json"], .file 0o644 [0x5b, 0x5d])]⟩
  cwd := ["p"]
  os := "Linux"
  env := ⟨[]⟩

theorem toolchainArguments_eq_ok {h : Host} {t : Toolchain} {projectDir : Path}
    {arguments : List String} (ok : toolchainArguments h t projectDir = .ok arguments) :
    t.arguments? projectDir h.env = some arguments := by
  unfold toolchainArguments at ok
  split at ok
  · next found =>
      cases ok
      exact found
  · cases ok

/-- The GNU compilers with a definition whose number has too many digits to be written. -/
def endlessDefinition : Toolchain :=
  { Registry.gcc with definitions := [("COUNT", .int (Nat.pow 10 Numeric.maxDigits))] }

/-- What a configuration with given defaults consists of. -/
theorem resolveWith_eq_ok {h : Host} {r : Registry} {o : Options} {d : Defaults} {projectDir : Path}
    {c : Configuration} (ok : resolveWith h r o d projectDir = .ok c) :
    r.resolve (orElseText o.toolchain d.toolchain) (lower h.os) = .ok c.toolchain ∧
      outputRoot h d projectDir = .ok c.outputRoot ∧ jobCount o d = .ok c.jobs ∧
      c.projectDir = projectDir ∧
      c.buildDir = buildDirectory c.outputRoot c.toolchain.name c.buildType ∧
      c.toolchain.arguments? c.projectDir h.env = some c.toolchainArgs ∧
      c.testFilter = TestFilter.parse o.testNames ∧ c.generator = d.generator ∧
      c.repeatUntilFail = d.repeatUntilFail ∧ c.headerFilter = d.headerFilter ∧
      c.missingEnvironment = c.toolchain.missingEnvironment h.env := by
  unfold resolveWith at ok
  obtain ⟨b, -, ok⟩ := bind_eq_ok ok
  obtain ⟨t, htoolchain, ok⟩ := bind_eq_ok ok
  obtain ⟨root, hroot, ok⟩ := bind_eq_ok ok
  obtain ⟨jobs, hjobs, ok⟩ := bind_eq_ok ok
  obtain ⟨arguments, harguments, ok⟩ := bind_eq_ok ok
  cases ok
  exact ⟨mapError_eq_ok htoolchain, hroot, hjobs, rfl, rfl, toolchainArguments_eq_ok harguments,
    rfl, rfl, rfl, rfl, rfl⟩

/-- A resolved configuration is made with the defaults that are given, or else with those of its
project. -/
theorem defaults_of_resolve {h : Host} {r : Registry} {o : Options} {given : Option Defaults}
    {c : Configuration} (ok : resolve h r o given = .ok c) :
    projectDirectory h o = .ok c.projectDir ∧ ∃ d,
      (given = some d ∨
        given = none ∧ Defaults.load h.files h.cwd c.projectDir o.configFile = .ok d) ∧
      resolveWith h r o d c.projectDir = .ok c := by
  unfold resolve at ok
  obtain ⟨projectDir, hproject, ok⟩ := bind_eq_ok ok
  have hproject := mapError_eq_ok hproject
  cases given with
  | some d =>
    change resolveWith h r o d projectDir = .ok c at ok
    obtain ⟨-, -, -, rfl, -⟩ := resolveWith_eq_ok ok
    exact ⟨hproject, d, .inl rfl, ok⟩
  | none =>
    obtain ⟨d, loaded, ok⟩ := bind_eq_ok ok
    obtain ⟨-, -, -, rfl, -⟩ := resolveWith_eq_ok ok
    exact ⟨hproject, d, .inr ⟨rfl, mapError_eq_ok loaded⟩, ok⟩

theorem resolve_of_load {h : Host} {r : Registry} {o : Options} {d : Defaults} {projectDir : Path}
    {c : Configuration} (project : projectDirectory h o = .ok projectDir)
    (loaded : Defaults.load h.files h.cwd projectDir o.configFile = .ok d)
    (made : resolveWith h r o d projectDir = .ok c) : resolve h r o none = .ok c := by
  simp only [resolve, project, loaded, made, mapError_ok, bind, Except.bind]

/-- What a resolved configuration says about directories. -/
theorem resolve_eq_ok {h : Host} {r : Registry} {o : Options} {given : Option Defaults}
    {c : Configuration} (ok : resolve h r o given = .ok c) :
    projectDirectory h o = .ok c.projectDir ∧
      (∃ d, outputRoot h d c.projectDir = .ok c.outputRoot) ∧ c.toolchain ∈ r.toolchains ∧
      c.buildDir = buildDirectory c.outputRoot c.toolchain.name c.buildType := by
  obtain ⟨hproject, d, -, made⟩ := defaults_of_resolve ok
  obtain ⟨htoolchain, hroot, -, -, hbuild, -⟩ := resolveWith_eq_ok made
  exact ⟨hproject, ⟨d, hroot⟩, Registry.mem_of_resolve htoolchain, hbuild⟩

/-! ## The build directory -/

/-- A name is a single component of a path. -/
def IsComponent (name : String) : Prop :=
  Path.ofString name = ⟨.here, [name]⟩ ∧ IsPlainName name

instance (name : String) : Decidable (IsComponent name) :=
  inferInstanceAs (Decidable (_ ∧ _))

theorem BuildType.isComponent_name (b : BuildType) : IsComponent b.name := by
  cases b <;> decide

theorem Toolchain.isComponent_name {t : Toolchain} (ht : t ∈ Registry.builtin.toolchains) :
    IsComponent t.name := by
  simp only [Registry.toolchains_builtin, List.mem_cons, List.not_mem_nil, or_false] at ht
  rcases ht with rfl | rfl | rfl | rfl | rfl <;> decide

/-- Two components lead from the output directory to a build directory. -/
theorem parts_buildDirectory_of_single {name : String}
    (single : Path.ofString name = ⟨.here, [name]⟩) (root : Path) (b : BuildType) :
    (buildDirectory root name b).anchor = root.anchor ∧
      (buildDirectory root name b).parts = root.parts ++ [name, b.name] := by
  unfold buildDirectory
  rw [single, b.isComponent_name.1]
  refine ⟨rfl, ?_⟩
  change root.parts ++ [name] ++ [b.name] = _
  rw [List.append_assoc]
  rfl

/-- The names of toolchains and build types are single components. -/
theorem parts_buildDirectory {t : Toolchain} (ht : t ∈ Registry.builtin.toolchains) (root : Path)
    (b : BuildType) : (buildDirectory root t.name b).anchor = root.anchor ∧
      (buildDirectory root t.name b).parts = root.parts ++ [t.name, b.name] ∧
      IsPlainName t.name ∧ IsPlainName b.name := by
  have component := Toolchain.isComponent_name ht
  obtain ⟨anchor, parts⟩ := parts_buildDirectory_of_single component.1 root b
  exact ⟨anchor, parts, component.2, b.isComponent_name.2⟩

/-! ## The layout -/

/-- Whatever directories a run is asked to use, and whatever links lead there: once it is
configured, its directories are real paths, the output directory does not cover the project
directory, and all that is built lies below the output directory. So the build directory does not
cover the project directory either, and the database is not published over itself. -/
theorem resolve_layout {h : Host} {o : Options} {given : Option Defaults} {c : Configuration}
    (ok : resolve h .builtin o given = .ok c) :
    (c.projectDir.IsReal ∧ c.outputRoot.IsReal ∧ c.buildDir.IsReal) ∧
    ¬ c.outputRoot.Covers c.projectDir ∧
    c.outputRoot.IsAbove c.buildDir ∧ c.outputRoot.IsAbove c.database ∧
    ¬ c.buildDir.Covers c.projectDir ∧ c.database ≠ c.publishedDatabase := by
  obtain ⟨hproject, ⟨d, hroot⟩, toolchain, hbuild⟩ := resolve_eq_ok ok
  obtain ⟨hreal, spared⟩ := outputRoot_eq_ok hroot
  have project : c.projectDir.IsReal := isReal_of_realPath hproject
  have root : c.outputRoot.IsReal := isReal_of_realPath hreal
  obtain ⟨anchor, parts, plain, plain'⟩ :=
    parts_buildDirectory toolchain c.outputRoot c.buildType
  rw [← hbuild] at anchor parts
  have above : c.outputRoot.IsAbove c.buildDir := Path.isAbove_of_parts _ (by simp) anchor parts
  have build : c.buildDir.IsReal := by
    refine ⟨?_, fun n hn => ?_⟩
    · unfold Path.isAbsolute
      rw [anchor]
      exact root.1
    · rw [parts] at hn
      simp only [List.mem_append, List.mem_cons, List.not_mem_nil, or_false] at hn
      rcases hn with hn | rfl | rfl
      · exact root.2 n hn
      · exact plain
      · exact plain'
  have database : c.outputRoot.IsAbove c.database := by
    refine Path.isAbove_of_parts [c.toolchain.name, c.buildType.name, databaseName]
      (by simp) anchor ?_
    change c.buildDir.parts ++ [databaseName] = _
    rw [parts, List.append_assoc]
    rfl
  have apart : ¬ c.buildDir.Covers c.projectDir := fun covers => spared (above.1.trans covers)
  refine ⟨⟨project, root, build⟩, spared, above, database, apart, fun same => apart ?_⟩
  rw [Path.child_injective same]
  exact ⟨rfl, List.prefix_rfl⟩

/-- A host whose project keeps its output elsewhere, behind a link. -/
def linkedHost : Host where
  files := ⟨[(["w"], .dir), (["w", "p"], .dir), (["w", "p", "build"], .link "../out")]⟩
  cwd := ["w"]
  os := "Linux"
  env := ⟨[]⟩

/-- The options of a run that names the project in a roundabout way. -/
def roundabout : Options := { projectDir := some (.ofString "p/./../p") }

theorem resolve_layout_linkedHost :
    ∃ c, resolve linkedHost .builtin roundabout none = .ok c ∧
      c.projectDir = ⟨.root, ["w", "p"]⟩ ∧ c.outputRoot = ⟨.root, ["w", "out"]⟩ ∧
      ¬ c.outputRoot.Covers c.projectDir ∧ c.outputRoot.IsAbove c.buildDir := by
  have dirs : ((resolve linkedHost .builtin roundabout none).toOption.map
      fun c => (c.projectDir, c.outputRoot)) =
      some (⟨.root, ["w", "p"]⟩, ⟨.root, ["w", "out"]⟩) := by
    decide +kernel
  match ok : resolve linkedHost .builtin roundabout none with
  | .ok c =>
    rw [ok] at dirs
    obtain ⟨hproject, hroot⟩ := Prod.mk.inj (Option.some.inj dirs)
    obtain ⟨-, spared, above, -⟩ := resolve_layout ok
    exact ⟨c, rfl, hproject, hroot, spared, above⟩
  | .error e =>
    rw [ok] at dirs
    cases dirs

end BuildPilot
