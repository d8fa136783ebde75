import BuildPilot.Proofs.Layout
import Mathlib.Data.Fintype.EquivFin

/-!
# Options before defaults

What the options of a run say about the build type, the toolchain and the number of jobs is not to
be changed by the defaults of the project. It holds for every number of jobs and for every text but
the empty one: an empty text counts as one that is not given, so the defaults speak in its place,
and a name that nothing has is accepted.
-/

namespace BuildPilot

open Text

namespace Defaults

/-- The defaults with another build type. -/
def withBuildType (d : Defaults) (b : Option String) : Defaults := { d with buildType := b }

/-- The defaults with another toolchain. -/
def withToolchain (d : Defaults) (t : Option String) : Defaults := { d with toolchain := t }

/-- The defaults with another number of jobs. -/
def withJobs (d : Defaults) (n : Option Int) : Defaults := { d with jobs := n }

/-- The defaults with another build type, toolchain and number of jobs. -/
def withChoices (d : Defaults) (c : Option String × Option String × Option Int) : Defaults :=
  ((d.withBuildType c.1).withToolchain c.2.1).withJobs c.2.2

end Defaults

/-- The options overrule some part of the defaults, which `set` sets: whatever stands there, the
run comes to the same configuration or to the same fault. -/
def Overrules {α : Type} (h : Host) (r : Registry) (o : Options) (set : Defaults → α → Defaults) :
    Prop :=
  ∀ d v w, resolve h r o (some (set d v)) = resolve h r o (some (set d w))

variable {h : Host} {r : Registry} {o : Options} {d d' : Defaults} {s : String}

/-! ## What is settled -/

@[simp] theorem orElseText_of_ne_empty (hs : s ≠ "") (b : Option String) :
    orElseText (some s) b = some s := by
  simp [orElseText, hs]

@[simp] theorem orElseText_empty (b : Option String) : orElseText (some "") b = b := rfl

/-- The name of the build type that options and defaults settle on. -/
def settledBuildType (o : Options) (d : Defaults) : String :=
  (orElseText o.buildType (orElseText d.buildType none)).getD BuildType.debug.name

theorem resolve_of_project {p : Path} (project : projectDirectory h o = .ok p) :
    resolve h r o (some d) = resolveWith h r o d p := by
  unfold resolve
  rw [project]
  rfl

theorem resolve_of_no_project {f : FileSystem.PathFault} (project : projectDirectory h o = .error f)
    (given : Option Defaults) : resolve h r o given = .error (.path f) := by
  unfold resolve
  rw [project]
  rfl

/-- A run depends on the choices of the defaults only through what is settled. -/
theorem resolve_congr (choices : d.withChoices (none, none, none) = d'.withChoices (none, none, none))
    (buildType : settledBuildType o d = settledBuildType o d')
    (toolchain : orElseText o.toolchain d.toolchain = orElseText o.toolchain d'.toolchain)
    (jobs : o.jobs.or d.jobs = o.jobs.or d'.jobs) :
    resolve h r o (some d) = resolve h r o (some d') := by
  cases project : projectDirectory h o with
  | error f => rw [resolve_of_no_project project, resolve_of_no_project project]
  | ok p =>
    rw [resolve_of_project project, resolve_of_project project]
    obtain ⟨outputDir, generator, _, _, _, repeatUntilFail, headerFilter, source⟩ := d
    obtain ⟨outputDir', generator', _, _, _, repeatUntilFail', headerFilter', source'⟩ := d'
    simp only [Defaults.withChoices, Defaults.withBuildType, Defaults.withToolchain,
      Defaults.withJobs, Defaults.mk.injEq, true_and] at choices
    obtain ⟨rfl, rfl, rfl, rfl, rfl⟩ := choices
    unfold settledBuildType at buildType
    unfold resolveWith outputRoot jobCount
    dsimp only at buildType toolchain jobs ⊢
    rw [buildType, toolchain, jobs]

/-! ## What is rejected -/

theorem resolve_of_unknownBuildType {p : Path} (project : projectDirectory h o = .ok p)
    (settled : settledBuildType o d = s) (unknown : BuildType.ofName? s = none) :
    resolve h r o (some d) = .error (.config (.buildType s)) := by
  rw [resolve_of_project project]
  unfold settledBuildType at settled
  unfold resolveWith
  dsimp only
  rw [settled, BuildType.parse, unknown]
  rfl

theorem resolve_of_unknownToolchain {p : Path} {b : BuildType}
    (project : projectDirectory h o = .ok p)
    (known : BuildType.ofName? (settledBuildType o d) = some b)
    (settled : orElseText o.toolchain d.toolchain = some s) (unknown : r.get? s = none) :
    resolve h r o (some d) = .error (.config (.toolchain s r.names)) := by
  rw [resolve_of_project project]
  unfold settledBuildType at known
  unfold resolveWith
  dsimp only
  rw [BuildType.parse, known, settled, Registry.resolve, Option.some_or]
  dsimp only
  rw [unknown]
  rfl

/-- A toolchain that the options name is not used if it is unknown; at most the build type is told
to be wrong before it. -/
theorem resolve_of_givenToolchain {p : Path} (project : projectDirectory h o = .ok p)
    (given : o.toolchain = some s) (hs : s ≠ "") (unknown : r.get? s = none) (d : Defaults) :
    resolve h r o (some d) = .error (.config (.toolchain s r.names)) ∨
      BuildType.ofName? (settledBuildType o d) = none ∧
        resolve h r o (some d) = .error (.config (.buildType (settledBuildType o d))) := by
  cases hb : BuildType.ofName? (settledBuildType o d) with
  | none => exact .inr ⟨rfl, resolve_of_unknownBuildType project rfl hb⟩
  | some b =>
    exact .inl (resolve_of_unknownToolchain project hb
      (by rw [given, orElseText_of_ne_empty hs]) unknown)

/-! ## Names that nothing has -/

/-- Besides every text there is a further one that is no toolchain. -/
theorem Registry.exists_get?_eq_none (r : Registry) (s : String) :
    ∃ t, t ≠ s ∧ r.get? t = none := by
  obtain ⟨t, ht⟩ := Infinite.exists_notMem_finset (s :: r.names).toFinset
  simp only [List.mem_toFinset, List.mem_cons, not_or] at ht
  obtain ⟨hs, hnames⟩ := ht
  exact ⟨t, hs, get?_eq_none_iff.mpr hnames⟩

/-! ## When options overrule defaults -/

theorem overrules_of_no_project {α : Type} {f : FileSystem.PathFault}
    (project : projectDirectory h o = .error f) (set : Defaults → α → Defaults) :
    Overrules h r o set := by
  intro d v w
  rw [resolve_of_no_project project, resolve_of_no_project project]

theorem overrules_of_wrongBuildType (given : o.buildType = some s) (hs : s ≠ "")
    (unknown : BuildType.ofName? s = none) : Overrules h r o Defaults.withToolchain := by
  intro d v w
  cases project : projectDirectory h o with
  | error f => exact overrules_of_no_project project _ d v w
  | ok p =>
    have rejected (t : Option String) :
        resolve h r o (some (d.withToolchain t)) = .error (.config (.buildType s)) :=
      resolve_of_unknownBuildType project (by simp [settledBuildType, given, hs]) unknown
    rw [rejected, rejected]

theorem overrules_withBuildType (given : o.buildType = some s) (hs : s ≠ "") :
    Overrules h r o Defaults.withBuildType := fun d v w =>
  resolve_congr rfl (by simp [settledBuildType, given, hs]) rfl rfl

theorem overrules_withToolchain (given : o.toolchain = some s) (hs : s ≠ "") :
    Overrules h r o Defaults.withToolchain := fun d v w =>
  resolve_congr rfl rfl (by simp [given, hs]) rfl

theorem overrules_withJobs {n : Int} (given : o.jobs = some n) :
    Overrules h r o Defaults.withJobs := fun d v w =>
  resolve_congr rfl rfl rfl (by simp [given])

theorem overrules_withChoices {t : String} {n : Int} (buildType : o.buildType = some s)
    (toolchain : o.toolchain = some t) (jobs : o.jobs = some n) (hs : s ≠ "") (ht : t ≠ "") :
    Overrules h r o Defaults.withChoices := fun d v w =>
  resolve_congr rfl (by simp [settledBuildType, buildType, hs]) (by simp [toolchain, ht])
    (by simp [jobs])

/-- An empty text leaves the build type to the defaults, so a wrong name there is what is told. -/
theorem resolve_of_emptyBuildType {p : Path} (project : projectDirectory h o = .ok p)
    (given : o.buildType = some "") (hs : s ≠ "") (unknown : BuildType.ofName? s = none) :
    resolve h r o (some (Defaults.withBuildType {} (some s))) = .error (.config (.buildType s)) :=
  resolve_of_unknownBuildType project
    (by simp [settledBuildType, given, Defaults.withBuildType, hs]) unknown

theorem not_overrules_withBuildType {p : Path} (project : projectDirectory h o = .ok p)
    (given : o.buildType = some "") : ¬ Overrules h r o Defaults.withBuildType := by
  intro same
  have same := same {} (some "Fast") (some "Slow")
  rw [resolve_of_emptyBuildType project given (by decide) (by decide),
    resolve_of_emptyBuildType project given (by decide) (by decide)] at same
  simp at same

theorem not_overrules_withToolchain {p : Path} (project : projectDirectory h o = .ok p)
    (given : o.toolchain = some "")
    (known : ∀ b, o.buildType = some b → b ≠ "" → BuildType.ofName? b ≠ none) :
    ¬ Overrules h r o Defaults.withToolchain := by
  intro same
  obtain ⟨b, settled⟩ : ∃ b, ∀ t, BuildType.ofName?
      (settledBuildType o (Defaults.withToolchain {} t)) = some b := by
    unfold settledBuildType
    cases hb : o.buildType with
    | none => exact ⟨.debug, fun t => rfl⟩
    | some name =>
      by_cases hname : name = ""
      · subst hname
        exact ⟨.debug, fun t => rfl⟩
      · obtain ⟨b, hb⟩ := Option.ne_none_iff_exists'.mp (known name hb hname)
        exact ⟨b, fun t => by rw [orElseText_of_ne_empty hname]; exact hb⟩
  have rejected {s : String} (unknown : r.get? s = none) :
      resolve h r o (some (Defaults.withToolchain {} (some s))) =
        .error (.config (.toolchain s r.names)) :=
    resolve_of_unknownToolchain project (settled (some s))
      (by rw [given, orElseText_empty]; rfl) unknown
  obtain ⟨s, -, hs⟩ := r.exists_get?_eq_none ""
  obtain ⟨t, hne, ht⟩ := r.exists_get?_eq_none s
  have same := same {} (some s) (some t)
  rw [rejected hs, rejected ht] at same
  simp only [Except.error.injEq, ResolveFault.config.injEq, ConfigFault.toolchain.injEq] at same
  exact hne same.1.symm

/-! ## The precedence of options -/

/-- When options overrule the defaults. A number of jobs always does. A build type or a toolchain
does exactly if it is not the empty text, unless the run fails before the text is looked at: without
a project directory, or, for the toolchain, over the build type that the options give. If all three
are given, and no text is empty, then the defaults have no say in any of them. A build type that
nothing has is told to be wrong whatever the defaults are, again exactly if it is not the empty
text; and so is a toolchain, unless the build type is wrong. -/
theorem options_before_defaults (h : Host) (r : Registry) (o : Options) :
    (∀ s, o.buildType = some s →
      (Overrules h r o Defaults.withBuildType ↔
        s ≠ "" ∨ ∃ f, projectDirectory h o = .error f)) ∧
    (∀ s, o.toolchain = some s →
      (Overrules h r o Defaults.withToolchain ↔
        s ≠ "" ∨ (∃ f, projectDirectory h o = .error f) ∨
          ∃ b, o.buildType = some b ∧ b ≠ "" ∧ BuildType.ofName? b = none)) ∧
    (∀ n, o.jobs = some n → Overrules h r o Defaults.withJobs) ∧
    (∀ s t n, o.buildType = some s → o.toolchain = some t → o.jobs = some n → s ≠ "" → t ≠ "" →
      Overrules h r o Defaults.withChoices) ∧
    ∀ p, projectDirectory h o = .ok p →
      (∀ s, o.buildType = some s → BuildType.ofName? s = none →
        ((∀ d, resolve h r o (some d) = .error (.config (.buildType s))) ↔ s ≠ "")) ∧
      ∀ s, o.toolchain = some s → s ≠ "" → r.get? s = none →
        ∀ d, resolve h r o (some d) = .error (.config (.toolchain s r.names)) ∨
          BuildType.ofName? (settledBuildType o d) = none ∧
            resolve h r o (some d) = .error (.config (.buildType (settledBuildType o d))) := by
  refine ⟨fun s given => ⟨fun same => ?_, ?_⟩, fun s given => ⟨fun same => ?_, ?_⟩,
    fun n given => overrules_withJobs given,
    fun s t n buildType toolchain jobs hs ht =>
      overrules_withChoices buildType toolchain jobs hs ht,
    fun p project => ⟨fun s given unknown => ⟨fun rejected => ?_, fun hs d => ?_⟩,
      fun s given hs unknown d => resolve_of_givenToolchain project given hs unknown d⟩⟩
  · by_contra fails
    obtain ⟨empty, project⟩ := not_or.mp fails
    cases hp : projectDirectory h o with
    | error f => exact project ⟨f, hp⟩
    | ok p => exact not_overrules_withBuildType hp (not_not.mp empty ▸ given) same
  · rintro (hs | ⟨f, project⟩)
    · exact overrules_withBuildType given hs
    · exact overrules_of_no_project project _
  · by_contra fails
    obtain ⟨empty, fails⟩ := not_or.mp fails
    obtain ⟨project, known⟩ := not_or.mp fails
    cases hp : projectDirectory h o with
    | error f => exact project ⟨f, hp⟩
    | ok p =>
      exact not_overrules_withToolchain hp (not_not.mp empty ▸ given)
        (fun b hb hne unknown => known ⟨b, hb, hne, unknown⟩) same
  · rintro (hs | ⟨f, project⟩ | ⟨b, buildType, hb, unknown⟩)
    · exact overrules_withToolchain given hs
    · exact overrules_of_no_project project _
    · exact overrules_of_wrongBuildType buildType hb unknown
  · rintro rfl
    have told := resolve_of_emptyBuildType (r := r) project given (s := "Fast") (by decide)
      (by decide)
    rw [rejected] at told
    simp at told
  · refine resolve_of_unknownBuildType project ?_ unknown
    simp [settledBuildType, given, hs]

/-- Options with an empty build type. -/
def vagueOptions : Options := { buildType := some "", toolchain := some "gcc", jobs := some 2 }

/-- An empty build type is neither told to be wrong nor kept: the defaults settle it. -/
theorem emptyBuildType_left_to_defaults :
    BuildType.ofName? "" = none ∧
    (resolve linkedHost .builtin vagueOptions (some { buildType := some "Release" })).toOption.map
      (·.buildType) = some .release ∧
    (resolve linkedHost .builtin vagueOptions (some {})).toOption.map
      (·.buildType) = some .debug ∧
    ¬ Overrules linkedHost .builtin vagueOptions Defaults.withChoices := by
  have release : (resolve linkedHost .builtin vagueOptions
      (some { buildType := some "Release" })).toOption.map (·.buildType) = some .release := by
    decide +kernel
  have debug : (resolve linkedHost .builtin vagueOptions (some {})).toOption.map
      (·.buildType) = some .debug := by
    decide +kernel
  refine ⟨by decide, release, debug, fun same => ?_⟩
  have same := same {} (some "Release", none, none) (none, none, none)
  change resolve linkedHost .builtin vagueOptions (some { buildType := some "Release" }) =
    resolve linkedHost .builtin vagueOptions (some {}) at same
  rw [same, debug] at release
  cases release

end BuildPilot
