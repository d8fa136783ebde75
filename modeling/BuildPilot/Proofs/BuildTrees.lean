import BuildPilot.Proofs.Surroundings

/-!
# Build trees

A build directory lies two components below the output directory, one for the toolchain and one for
the build type. So two builds share a directory only if they agree in both, and none is built inside
the directory of another.
-/

namespace BuildPilot

open FileSystem Text

/-! ## Names of one component -/

/-- A name that is a single component of a path: it has no slash and is neither empty nor a dot. Two
dots are such a component. -/
def IsSingle (name : String) : Prop := name ≠ "" ∧ '/' ∉ name.toList ∧ name ≠ "."

instance (name : String) : Decidable (IsSingle name) :=
  inferInstanceAs (Decidable (_ ∧ _ ∧ _))

theorem Path.ofString_of_isSingle {name : String} (single : IsSingle name) :
    Path.ofString name = ⟨.here, [name]⟩ := by
  obtain ⟨some, plain, other⟩ := single
  have anchor : anchorOf name.toList = .here := by
    unfold anchorOf
    split
    · rename_i text
      simp [text] at plain
    · rename_i text
      simp [text] at plain
    · rename_i text
      simp [text] at plain
    · rfl
  have piece : name.toList ≠ [] ∧ name.toList ≠ ['.'] :=
    ⟨fun h => some (String.toList_inj.mp h), fun h => other (String.toList_inj.mp h)⟩
  have parts : partsOf name.toList = [name] := by
    simp [partsOf, splitAtEach_of_not_mem plain, piece]
  rw [Path.ofString, anchor, parts]

/-! ## Directories of different builds -/

section Directories

variable {root : Path} {name name' : String} {b b' : BuildType}

theorem BuildType.name_injective (same : b.name = b'.name) : b = b' := by
  have found := ofName?_name b
  rw [same, ofName?_name] at found
  exact (Option.some.inj found).symm

variable (single : Path.ofString name = ⟨.here, [name]⟩)
  (single' : Path.ofString name' = ⟨.here, [name']⟩)
include single single'

/-- Build directories have equally many components, so one covers another only if they are the
same. -/
theorem eq_of_covers_buildDirectory
    (covers : (buildDirectory root name b).Covers (buildDirectory root name' b')) :
    name = name' ∧ b = b' := by
  obtain ⟨-, parts⟩ := covers
  rw [(parts_buildDirectory_of_single single root b).2,
    (parts_buildDirectory_of_single single' root b').2, List.prefix_append_right_inj] at parts
  have same : [name, b.name] = [name', b'.name] := parts.eq_of_length rfl
  simp only [List.cons.injEq, and_true] at same
  exact ⟨same.1, BuildType.name_injective same.2⟩

theorem buildDirectory_injective (same : buildDirectory root name b = buildDirectory root name' b') :
    name = name' ∧ b = b' := by
  have covers : (buildDirectory root name b).Covers (buildDirectory root name' b') := by
    rw [same]
    exact ⟨rfl, List.prefix_rfl⟩
  exact eq_of_covers_buildDirectory single single' covers

end Directories

/-! ## Directories of different runs -/

/-- The output directory depends on the project, its defaults and the files, and on nothing else of
a run. -/
theorem outputRoot_of_resolve {h h' : Host} {r r' : Registry} {o o' : Options}
    {given given' : Option Defaults} {c c' : Configuration}
    (ok : resolve h r o given = .ok c) (ok' : resolve h' r' o' given' = .ok c')
    (files : h.files = h'.files) (project : c.projectDir = c'.projectDir)
    (defaults : defaultsInForce h o given = defaultsInForce h' o' given') :
    c.outputRoot = c'.outputRoot := by
  obtain ⟨hproject, d, force, made⟩ := defaultsInForce_of_resolve ok
  obtain ⟨-, d', force', made'⟩ := defaultsInForce_of_resolve ok'
  rw [defaults, force'] at force
  cases force
  obtain ⟨-, root, -⟩ := resolveWith_eq_ok made
  obtain ⟨-, root', -⟩ := resolveWith_eq_ok made'
  have absolute : c.projectDir.isAbsolute = true := (isReal_of_realPath hproject).1
  have same : outputRoot h d c.projectDir = outputRoot h' d c'.projectDir := by
    rw [← project]
    obtain ⟨fs, cwd, os, env⟩ := h
    obtain ⟨fs', cwd', os', env'⟩ := h'
    obtain rfl : fs = fs' := files
    show _ = outputRoot ⟨fs, cwd', os, env⟩ d c.projectDir
    exact outputRoot_agnostic absolute d
  rw [root, root'] at same
  exact Except.ok.inj same

theorem Registry.eq_of_name {name name' : Option String} {os os' : String} {t t' : Toolchain}
    (found : builtin.resolve name os = .ok t) (found' : builtin.resolve name' os' = .ok t')
    (same : t.name = t'.name) : t = t' := by
  have offered := get?_of_resolve found
  rw [same, get?_of_resolve found'] at offered
  exact (Option.some.inj offered).symm

/-- Below one output directory, two pairs of a toolchain's name and a build type have the same build
directory only if they are the same, and else neither of their directories is above the other.
So two runs with the same files, project and defaults build in the same directory exactly if they
have the same toolchain and the same build type. -/
theorem build_trees_apart :
    (∀ (root : Path) (name name' : String) (b b' : BuildType), IsSingle name → IsSingle name' →
      (buildDirectory root name b = buildDirectory root name' b' ↔ name = name' ∧ b = b') ∧
      ((name, b) ≠ (name', b') →
        ¬ (buildDirectory root name b).Covers (buildDirectory root name' b') ∧
        ¬ (buildDirectory root name' b').Covers (buildDirectory root name b))) ∧
    ∀ (h h' : Host) (o o' : Options) (given given' : Option Defaults) (c c' : Configuration),
      resolve h .builtin o given = .ok c → resolve h' .builtin o' given' = .ok c' →
      h.files = h'.files → c.projectDir = c'.projectDir →
      defaultsInForce h o given = defaultsInForce h' o' given' →
      (c.buildDir = c'.buildDir ↔ c.toolchain = c'.toolchain ∧ c.buildType = c'.buildType) := by
  constructor
  · intro root name name' b b' single single'
    have single := Path.ofString_of_isSingle single
    have single' := Path.ofString_of_isSingle single'
    refine ⟨⟨buildDirectory_injective single single', ?_⟩,
      fun other => ⟨fun covers => other ?_, fun covers => other ?_⟩⟩
    · rintro ⟨rfl, rfl⟩
      rfl
    · obtain ⟨rfl, rfl⟩ := eq_of_covers_buildDirectory single single' covers
      rfl
    · obtain ⟨rfl, rfl⟩ := eq_of_covers_buildDirectory single' single covers
      rfl
  · intro h h' o o' given given' c c' ok ok' files project defaults
    have root := outputRoot_of_resolve ok ok' files project defaults
    obtain ⟨-, d, -, made⟩ := defaultsInForce_of_resolve ok
    obtain ⟨-, d', -, made'⟩ := defaultsInForce_of_resolve ok'
    obtain ⟨found, -, -, -, build, -⟩ := resolveWith_eq_ok made
    obtain ⟨found', -, -, -, build', -⟩ := resolveWith_eq_ok made'
    rw [build, build', root]
    constructor
    · intro same
      have single := (Toolchain.isComponent_name (Registry.mem_of_resolve found)).1
      have single' := (Toolchain.isComponent_name (Registry.mem_of_resolve found')).1
      obtain ⟨names, buildType⟩ := buildDirectory_injective single single' same
      exact ⟨Registry.eq_of_name found found' names, buildType⟩
    · rintro ⟨toolchain, buildType⟩
      rw [toolchain, buildType]

/-- The same files, seen from another directory and by another operating system. -/
def distantHost : Host := { linkedHost with cwd := ["w", "p"], os := "Windows" }

/-- A release of the project, named by an absolute path. -/
def releasing : Options where
  projectDir := some ⟨.root, ["w", "p"]⟩
  toolchain := some "gcc"
  buildType := some "Release"

/-- Two dots are a name like any other here; and two runs that differ in all but the project and the
toolchain build apart, as their build types differ. -/
theorem build_trees_apart_linkedHost :
    (IsSingle ".." ∧ IsSingle "gcc" ∧
      ¬ (buildDirectory ⟨.doubleRoot, []⟩ ".." .debug).Covers
        (buildDirectory ⟨.doubleRoot, []⟩ "gcc" .debug)) ∧
    ∃ c c', resolve linkedHost .builtin roundabout none = .ok c ∧
      resolve distantHost .builtin releasing none = .ok c' ∧
      linkedHost.files = distantHost.files ∧ c.projectDir = c'.projectDir ∧
      defaultsInForce linkedHost roundabout none = defaultsInForce distantHost releasing none ∧
      c.toolchain.name = c'.toolchain.name ∧ c.buildType ≠ c'.buildType ∧
      c.buildDir ≠ c'.buildDir := by
  obtain ⟨pairs, runs⟩ := build_trees_apart
  have single : IsSingle ".." := by decide
  have single' : IsSingle "gcc" := by decide
  obtain ⟨-, apart⟩ := pairs ⟨.doubleRoot, []⟩ ".." "gcc" .debug .debug single single'
  refine ⟨⟨single, single', (apart (by decide)).1⟩, ?_⟩
  have made : (resolve linkedHost .builtin roundabout none).toOption.map
      (fun c => (c.projectDir, c.toolchain.name, c.buildType)) =
      some (⟨.root, ["w", "p"]⟩, "gcc", .debug) := by
    decide +kernel
  have made' : (resolve distantHost .builtin releasing none).toOption.map
      (fun c => (c.projectDir, c.toolchain.name, c.buildType)) =
      some (⟨.root, ["w", "p"]⟩, "gcc", .release) := by
    decide +kernel
  have force : (defaultsInForce linkedHost roundabout none).toOption = some {} := by
    decide +kernel
  have force' : (defaultsInForce distantHost releasing none).toOption = some {} := by
    decide +kernel
  have defaults : defaultsInForce linkedHost roundabout none =
      defaultsInForce distantHost releasing none :=
    (eq_ok_of_toOption force).trans (eq_ok_of_toOption force').symm
  obtain ⟨c, ok, facts⟩ := Option.map_eq_some_iff.mp made
  obtain ⟨c', ok', facts'⟩ := Option.map_eq_some_iff.mp made'
  have ok := eq_ok_of_toOption ok
  have ok' := eq_ok_of_toOption ok'
  simp only [Prod.mk.injEq] at facts facts'
  obtain ⟨project, toolchain, debug⟩ := facts
  obtain ⟨project', toolchain', release⟩ := facts'
  have other : c.buildType ≠ c'.buildType := by
    rw [debug, release]
    decide
  refine ⟨c, c', ok, ok', rfl, project.trans project'.symm, defaults,
    toolchain.trans toolchain'.symm, other, fun same => other ?_⟩
  exact ((runs _ _ _ _ _ _ c c' ok ok' rfl (project.trans project'.symm) defaults).mp same).2

end BuildPilot
