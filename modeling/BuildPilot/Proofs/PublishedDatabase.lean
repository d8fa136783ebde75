import BuildPilot.Proofs.History

/-!
# The published database

The invariant of histories holds at their start wherever the directories of a project are found
without a loop of links, and no links stand in them. Every live run goes on with the history that
led to it. Where a directory has a path that is too long to be looked at, nothing is ever published.

Behind a loop, an output directory may be the project directory under another spelling. Then the
project is not spared when the output is removed, nor is what was published in it.
-/

namespace BuildPilot

open FileSystem

variable {P R : Path} {fs gs : FileSystem} {cwd l : Location} {x : Executor}

/-! ## The start of a history -/

/-- Where a search that goes to its end leads, no link is seen on the way. -/
theorem isSettled_of_realPath {p : Path} (working : IsWorkingDirectory fs cwd)
    (spelled : IgnoresSpelling fs cwd p) (resolvable : IsResolvable fs cwd p)
    (real : realPath fs cwd p = .ok P) : P.anchor = .root ∧ IsSettled fs P.parts ∧ P.IsProper := by
  obtain ⟨n, out, found, chased⟩ := resolved_of_isResolvable working.toHasWay spelled resolvable
  rw [eq_resolved_of_realPath real] at found
  subst found
  have settled := (isKept_isSettled fs).chase n cwd _ out chased working.isSettled
  have written := (isKept_written fs).chase n cwd _ out chased fun n hn => (working.written n hn).1
  exact ⟨rfl, settled, fun n hn => ⟨(settled.plain n hn).1, written n hn⟩⟩

/-- An output directory is seen from a real project directory, so its spelling does not matter. -/
theorem isSettled_of_outputRoot {p root : Path} {d : Defaults}
    (working : IsWorkingDirectory fs cwd) (project : realPath fs cwd p = .ok P)
    (toOutput : IsResolvable fs cwd (P / Path.ofString d.outputDir))
    (real : realPath fs cwd (P / Path.ofString d.outputDir) = .ok root) :
    root.anchor = .root ∧ IsSettled fs root.parts ∧ root.IsProper := by
  have absolute : (P / Path.ofString d.outputDir).isAbsolute = true := by
    rw [Path.isAbsolute_join, (isReal_of_realPath project).1, Bool.true_or]
  exact isSettled_of_realPath working (ignoresSpelling_of_isAbsolute absolute) toOutput real

theorem keeps_of_unlinked (project : Unlinked fs P.parts) (output : Unlinked fs R.parts)
    (inside : ∀ l target, fs.get? l = some (.link target) →
      ¬ P.parts <+: l ∧ ¬ R.parts <+: l) : Keeps P R none fs where
  links l target link := by
    have ⟨project', output'⟩ := inside l target link
    exact .inl ⟨⟨fun le => project l le target link, project'⟩,
      fun le => output l le target link, output'⟩
  shown _ none := by cases none

/-! ## Paths that are too long -/

theorem Deed.hasShortPaths {d : Deed} (success : d.published = true) :
    d.executor.HasShortPaths := by
  have task : d.task = .publish := by
    unfold published at success
    split at success
    · assumption
    · cases success
  exact d.executor.publish_short d.start trivial ((published_iff task).mp success)

theorem isShort_of_toString {p : Path} (root : p.anchor = .root) (le : l <+: p.parts)
    (short : p.toString.utf8ByteSize < maxPathOctets) : IsShort l := by
  obtain ⟨anchor, parts⟩ := p
  obtain rfl : anchor = .root := root
  exact IsShort.of_prefix short le

/-- Both directories of a publication that is a success are short enough to be looked at. -/
theorem Deed.IsFor.isShort {d : Deed} (fits : d.IsFor P R) (project : P.anchor = .root)
    (output : R.anchor = .root) (success : d.published = true) :
    IsShort P.parts ∧ IsShort R.parts := by
  obtain ⟨database, published⟩ := d.hasShortPaths success
  obtain ⟨anchor, parts⟩ := fits.config.parts_buildDir
  rw [fits.config.publishedDatabase_eq] at published
  have below : R.parts <+: d.executor.config.buildDir.parts :=
    parts ▸ List.prefix_append R.parts _
  exact ⟨isShort_of_toString (p := P.child databaseName) project (List.prefix_append P.parts _)
      published,
    isShort_of_toString (p := d.executor.config.database) (anchor.trans output)
      (below.trans (List.prefix_append _ _)) database⟩

theorem exists_published_of_latest {ds : List Deed} {p : Publication} (last : latest ds = some p) :
    ∃ d ∈ ds, d.published = true := by
  induction ds using List.reverseRecOn generalizing p with
  | nil => cases last
  | append_singleton ds d ih =>
    by_cases success : d.published = true
    · exact ⟨d, by simp, success⟩
    · rw [latest_concat] at last
      have before : ∃ p', latest ds = some p' := by
        unfold Deed.record at last
        split at last
        · rw [if_neg success] at last
          split at last
          · obtain ⟨p', before, -⟩ := Option.map_eq_some_iff.mp last
            exact ⟨p', before⟩
          · exact ⟨p, last⟩
        · exact ⟨p, last⟩
      obtain ⟨p', before⟩ := before
      obtain ⟨d', mem, success'⟩ := ih before
      exact ⟨d', List.mem_append_left _ mem, success'⟩

theorem History.isFor {ds : List Deed} (history : History P R fs ds gs) : ∀ d ∈ ds, d.IsFor P R := by
  induction history with
  | nothing => simp
  | next past fits ih =>
    intro d mem
    rcases List.mem_append.mp mem with mem | mem
    · exact ih d mem
    · exact List.mem_singleton.mp mem ▸ fits

/-! ## Runs in a history -/

theorem Event.Genuine.exists_deed {e : Event} (genuine : e.Genuine x) :
    ∃ d : Deed, d.executor = x ∧ d.event = e := by
  obtain ⟨task, before, after, result⟩ := e
  obtain ⟨s, t, rfl, run, rfl⟩ := genuine
  refine ⟨⟨x, s, task⟩, rfl, ?_⟩
  unfold Deed.event Deed.after Deed.before
  dsimp only at run ⊢
  rw [run]

/-- What a run does one after another continues a history. -/
theorem History.continue {es : List Event} (live : x.dryRun = false) (config : x.config.IsFor P R)
    (genuine : ∀ e ∈ es, e.Genuine x)
    (builds : ∀ e ∈ es, ∀ step, e.task = .run step →
      BuildsIn x.config.buildDir.parts e.before e.after) :
    ∀ {ds : List Deed} {hs : FileSystem}, History P R fs ds hs → Linked hs es gs →
      ∃ ds', ds'.map Deed.event = es ∧ (∀ d ∈ ds', d.executor = x) ∧
        History P R fs (ds ++ ds') gs := by
  induction es with
  | nil =>
    intro ds hs past linked
    obtain rfl : gs = hs := linked
    exact ⟨[], rfl, by simp, by rwa [List.append_nil]⟩
  | cons e es ih =>
    intro ds hs past ⟨before, linked⟩
    obtain ⟨d, executor, rfl⟩ := (genuine e List.mem_cons_self).exists_deed
    have fits : d.IsFor P R := by
      refine ⟨executor ▸ live, executor ▸ config, fun step task => ?_⟩
      rw [executor]
      exact builds d.event List.mem_cons_self step task
    obtain rfl : d.before = hs := before
    obtain ⟨ds', events, executors, history⟩ := ih
      (fun e he => genuine e (List.mem_cons_of_mem _ he))
      (fun e he => builds e (List.mem_cons_of_mem _ he)) (past.next fits) linked
    refine ⟨d :: ds', by rw [List.map_cons, events], fun d' hd' => ?_, ?_⟩
    · rcases List.mem_cons.mp hd' with rfl | hd'
      · exact executor
      · exact executors d' hd'
    · rwa [List.append_cons]

/-- A configuration that is resolved belongs to its directories. -/
theorem Configuration.isFor_of_resolve {h : Host} {o : Options} {given : Option Defaults}
    {c : Configuration} (ok : resolve h .builtin o given = .ok c) :
    c.IsFor c.projectDir c.outputRoot := by
  obtain ⟨-, -, toolchain, build⟩ := resolve_eq_ok ok
  exact ⟨rfl, rfl, build, Toolchain.isComponent_name toolchain⟩

/-! ## After a publication -/

theorem Configuration.IsFor.isProper_buildDir {c : Configuration} (g : Grounds P R)
    (h : c.IsFor P R) : c.buildDir.IsProper := by
  have proper {name : String} (component : IsComponent name) : name ≠ "" ∧ '/' ∉ name.toList := by
    refine Path.isProper_ofString name name ?_
    rw [component.1]
    exact List.mem_singleton_self name
  intro n hn
  rw [h.parts_buildDir.2] at hn
  simp only [List.mem_append, List.mem_cons, List.not_mem_nil, or_false] at hn
  rcases hn with hn | rfl | rfl
  · exact g.proper n hn
  · exact proper h.toolchain
  · exact proper c.buildType.isComponent_name

theorem History.of_concat {ds : List Deed} {d : Deed} (history : History P R fs (ds ++ [d]) gs) :
    History P R fs ds d.before ∧ d.IsFor P R ∧ gs = d.after := by
  generalize all : ds ++ [d] = es at history
  cases history with
  | nothing => simp at all
  | next past fits =>
    obtain ⟨rfl, same⟩ := List.append_inj' all rfl
    cases same
    exact ⟨past, fits, rfl⟩

/-- To read what was published is to read the database. -/
theorem Keeps.read_published {last : Option Publication} {d : Deed} (g : Grounds P R)
    (keeps : Keeps P R last d.before) (config : d.executor.config.IsFor P R)
    (success : d.published = true) (cwd : Location) :
    d.after.read cwd d.executor.config.publishedDatabase =
        d.after.read cwd d.executor.config.database ∧
      ∃ l mode, d.after.find cwd true d.executor.config.database =
        .entry l (.file mode d.content) := by
  have task : d.task = .publish := by
    unfold Deed.published at success
    split at success
    · assumption
    · cases success
  have attempted := d.attempted_publish task (keeps.hasClearWays g config)
  obtain ⟨mode, content, holds, placed⟩ := attempted.placed success
  have root : d.executor.config.buildDir.anchor = .root := config.parts_buildDir.1.trans g.anchor
  have found : d.after.find cwd true d.executor.config.database =
      .entry d.executor.config.database.parts (.file mode d.content) := by
    have absolute : d.executor.config.database.isAbsolute = true := placed.build.absolute
    have there := (holds.elsewhere attempted.elsewhere).find true
    rw [d.content_eq holds, ← there]
    exact find_agnostic absolute true
  exact ⟨placed.read_eq root (config.isProper_buildDir g) cwd, _, mode, found⟩

/-! ## From the start to the end -/

/-- The directories of a project are found without a loop of links, and hold no links; and if the
project is named from the working directory, then no path on the way is too long in one of its two
spellings only. After any history of tasks, the published place shows the publication that succeeded
last: by a link to its database, or by a copy of what that held; or it is free, because a later
attempt has failed. Right after a publication, to read the place is to read the database of that run.
And every live run for the two directories, whatever its toolchain, build type and actions, and
wherever it fails, goes on with the history, as long as its commands build in its build directory. -/
theorem published_along_history {h : Host} {o : Options} {d : Defaults}
    (project : projectDirectory h o = .ok P) (output : outputRoot h d P = .ok R)
    (tree : IsTree h.files) (working : IsWorkingDirectory h.files h.cwd)
    (spelled : IgnoresSpelling h.files h.cwd (o.projectDir.getD ⟨.root, h.cwd⟩))
    (toProject : IsResolvable h.files h.cwd (o.projectDir.getD ⟨.root, h.cwd⟩))
    (toOutput : IsResolvable h.files h.cwd (P / Path.ofString d.outputDir))
    (inside : ∀ l target, h.files.get? l = some (.link target) →
      ¬ P.parts <+: l ∧ ¬ R.parts <+: l) :
    (∀ ds gs, History P R h.files ds gs → ∀ p, latest ds = some p → ∀ cwd, ∃ e?,
      gs.find cwd false (P.child databaseName) = landing (P.child databaseName).parts e? ∧
        Shows p e?) ∧
    (∀ ds d gs, History P R h.files (ds ++ [d]) gs → d.published = true → ∀ cwd,
      gs.read cwd (P.child databaseName) = gs.read cwd d.executor.config.database ∧
        ∃ l mode, gs.find cwd true d.executor.config.database = .entry l (.file mode d.content)) ∧
    ∀ h' o' given c, resolve h' .builtin o' given = .ok c → c.projectDir = P → c.outputRoot = R →
      ∀ runner console machine (actions : List Action) extra s ds, History P R h.files ds s.files →
        let x : Executor := ⟨c, runner, console, false, machine⟩
        let run := (x.execute (actions.map Action.name) extra).runIn s
        ∃ events, run.2.events = s.events ++ events ∧
          ((∀ e ∈ events, ∀ step, e.task = .run step →
              BuildsIn c.buildDir.parts e.before e.after) →
            ∃ ds', ds'.map Deed.event = events ∧ (∀ d ∈ ds', d.executor = x) ∧
              History P R h.files (ds ++ ds') run.2.files) := by
  obtain ⟨hreal, -⟩ := outputRoot_eq_ok output
  obtain ⟨root, settled, -⟩ := isSettled_of_realPath working spelled toProject project
  obtain ⟨root', settled', proper⟩ := isSettled_of_outputRoot working project toOutput hreal
  have g : Grounds P R := ⟨isReal_of_realPath project, isReal_of_realPath hreal, root', proper,
    names_of_outputRoot output root toOutput⟩
  -- a publication that is a success has looked at both directories
  have start {e : Deed} (fits : e.IsFor P R) (success : e.published = true) :
      Keeps P R none h.files := by
    obtain ⟨short, short'⟩ := fits.isShort root root' success
    exact keeps_of_unlinked (tree.unlinked settled short) (tree.unlinked settled' short') inside
  refine ⟨fun ds gs history p hp cwd => ?_, fun ds d gs history success cwd => ?_,
    fun h' o' given c ok hP hR runner console machine actions extra s ds history => ?_⟩
  · obtain ⟨e, mem, success⟩ := exists_published_of_latest hp
    have keeps := history.keeps g (start (history.isFor e mem) success)
    obtain ⟨opened, -, shows'⟩ := keeps.shown p hp
    exact ⟨_, opened.find_nofollow cwd, shows'⟩
  · obtain ⟨past, fits, rfl⟩ := history.of_concat
    rw [← fits.config.project]
    exact (past.keeps g (start fits success)).read_published g fits.config success cwd
  · subst hP hR
    obtain ⟨events, hevents, genuine, course, -⟩ := Executor.execute_course
      ⟨c, runner, console, false, machine⟩ actions extra s
    refine ⟨events, hevents, fun builds => ?_⟩
    exact History.continue rfl (Configuration.isFor_of_resolve ok) genuine builds history
      course.linked

/-! ## A publication, and the removal of the output -/

/-- The configuration of a build for debugging with the GNU compilers. -/
def debugging (P R : Path) : Configuration where
  buildType := .debug
  toolchain := Registry.gcc
  toolchainArgs := []
  projectDir := P
  outputRoot := R
  buildDir := buildDirectory R "gcc" .debug
  skipTests := false
  testFilter := []
  verbose := false
  jobs := none
  generator := "Ninja"
  repeatUntilFail := 3
  headerFilter := "include/"
  missingEnvironment := []

/-- A deed of a live run with that configuration. -/
def debugDeed (P R : Path) (fs : FileSystem) (task : Task) : Deed :=
  ⟨⟨debugging P R, .recording, {}, false, .faultless⟩, { files := fs }, task⟩

/-- The database is published, and then the output is removed. -/
def publishAndRemove (P R : Path) (fs : FileSystem) : List Deed :=
  let published := debugDeed P R fs .publish
  [published, debugDeed P R published.after .removeOutput]

/-- The files when both are done. -/
def afterRemoval (P R : Path) (fs : FileSystem) : FileSystem :=
  (debugDeed P R (debugDeed P R fs .publish).after .removeOutput).after

theorem History.debugDeed {ds : List Deed} (past : History P R fs ds gs) {t : Task}
    (own : ∀ step, t ≠ .run step) :
    History P R fs (ds ++ [debugDeed P R gs t]) (debugDeed P R gs t).after := by
  have gcc : IsComponent "gcc" := by decide
  exact past.next ⟨rfl, ⟨rfl, rfl, rfl, gcc⟩, fun step task => absurd task (own step)⟩

theorem history_publish (P R : Path) (fs : FileSystem) :
    History P R fs ([] ++ [debugDeed P R fs .publish]) (debugDeed P R fs .publish).after :=
  History.nothing.debugDeed fun _ h => by cases h

theorem history_publishAndRemove (P R : Path) (fs : FileSystem) :
    History P R fs (publishAndRemove P R fs) (afterRemoval P R fs) :=
  (history_publish P R fs).debugDeed fun _ h => by cases h

/-- A host with a project in `/p` that was built before. -/
def builtHost : Host where
  files := ⟨[(["p"], .dir), (["p", "build"], .dir), (["p", "build", "gcc"], .dir),
    (["p", "build", "gcc", "Debug"], .dir),
    (["p", "build", "gcc", "Debug", "compile_commands.json"], .file 0o644 [0x5b, 0x5d])]⟩
  cwd := ["p"]
  os := "Linux"
  env := ⟨[]⟩

theorem not_link_builtHost (l : Location) (target : String) :
    builtHost.files.get? l ≠ some (.link target) := by
  intro link
  have mem := mem_table_of_link link
  simp [builtHost] at mem

theorem published_along_history_builtHost :
    let project : Path := ⟨.root, ["p"]⟩
    let output : Path := ⟨.root, ["p", "build"]⟩
    let publication : Publication :=
      ⟨⟨.root, ["p", "build", "gcc", "Debug", databaseName]⟩, [0x5b, 0x5d], false⟩
    let published := debugDeed project output builtHost.files .publish
    projectDirectory builtHost {} = .ok project ∧ outputRoot builtHost {} project = .ok output ∧
    IsTree builtHost.files ∧ IsWorkingDirectory builtHost.files builtHost.cwd ∧
    IgnoresSpelling builtHost.files builtHost.cwd ⟨.root, builtHost.cwd⟩ ∧
    IsResolvable builtHost.files builtHost.cwd ⟨.root, builtHost.cwd⟩ ∧
    IsResolvable builtHost.files builtHost.cwd (project / Path.ofString "build") ∧
    (∀ l target, builtHost.files.get? l = some (.link target) →
      ¬ project.parts <+: l ∧ ¬ output.parts <+: l) ∧
    latest (publishAndRemove project output builtHost.files) = some publication ∧
    (∃ e?, (afterRemoval project output builtHost.files).find [] false
        (project.child databaseName) = landing (project.child databaseName).parts e? ∧
      Shows publication e?) ∧
    published.after.read [] (project.child databaseName) =
      published.after.read [] published.executor.config.database := by
  intro project output publication published
  have hproject : projectDirectory builtHost {} = .ok project := by decide +kernel
  have houtput : outputRoot builtHost {} project = .ok output := by decide +kernel
  have tree : IsTree builtHost.files := isTree_of_table (by decide +kernel)
  have working : IsWorkingDirectory builtHost.files builtHost.cwd :=
    ⟨tree.hasWay rfl, by decide +kernel⟩
  have spelled : IgnoresSpelling builtHost.files builtHost.cwd ⟨.root, builtHost.cwd⟩ :=
    ignoresSpelling_of_isAbsolute rfl
  have toProject : IsResolvable builtHost.files builtHost.cwd ⟨.root, builtHost.cwd⟩ := by
    unfold IsResolvable
    decide +kernel
  have toOutput : IsResolvable builtHost.files builtHost.cwd
      (project / Path.ofString "build") := by
    unfold IsResolvable
    decide +kernel
  have inside : ∀ l target, builtHost.files.get? l = some (.link target) →
      ¬ project.parts <+: l ∧ ¬ output.parts <+: l :=
    fun l target link => absurd link (not_link_builtHost l target)
  have last : latest (publishAndRemove project output builtHost.files) = some publication := by
    decide +kernel
  have success : published.published = true := by decide +kernel
  obtain ⟨shown, read, -⟩ := published_along_history hproject houtput tree working spelled toProject
    toOutput inside
  have both := history_publishAndRemove project output builtHost.files
  have first := history_publish project output builtHost.files
  exact ⟨hproject, houtput, tree, working, spelled, toProject, toOutput, inside, last,
    shown _ _ both _ last [], (read [] published _ first success []).1⟩

/-- With a link that leads through itself to the project as the output directory, the project is
removed as output, and what was published in it is gone although no later attempt has failed. -/
theorem published_removed_with_project :
    let project : Path := ⟨.root, ["p"]⟩
    let output : Path := ⟨.doubleRoot, ["p"]⟩
    let publication : Publication :=
      ⟨⟨.doubleRoot, ["p", "gcc", "Debug", databaseName]⟩, [0x5b, 0x5d], false⟩
    projectDirectory spelledHost {} = .ok project ∧
    outputRoot spelledHost { outputDir := "/e/lnk" } project = .ok output ∧
    IsTree spelledHost.files ∧ IsWorkingDirectory spelledHost.files spelledHost.cwd ∧
    IgnoresSpelling spelledHost.files spelledHost.cwd ⟨.root, spelledHost.cwd⟩ ∧
    IsResolvable spelledHost.files spelledHost.cwd ⟨.root, spelledHost.cwd⟩ ∧
    (∀ l target, spelledHost.files.get? l = some (.link target) →
      ¬ project.parts <+: l ∧ ¬ output.parts <+: l) ∧
    History project output spelledHost.files (publishAndRemove project output spelledHost.files)
      (afterRemoval project output spelledHost.files) ∧
    latest (publishAndRemove project output spelledHost.files) = some publication ∧
    ¬ ∃ e?, (afterRemoval project output spelledHost.files).find [] false
        (project.child databaseName) = landing (project.child databaseName).parts e? ∧
      Shows publication e? := by
  intro project output publication
  have tree : IsTree spelledHost.files := isTree_of_table (by decide +kernel)
  have toProject : IsResolvable spelledHost.files spelledHost.cwd ⟨.root, spelledHost.cwd⟩ := by
    unfold IsResolvable
    decide +kernel
  refine ⟨by decide +kernel, by decide +kernel, tree, ⟨tree.hasWay rfl, by decide +kernel⟩,
    ignoresSpelling_of_isAbsolute rfl, toProject, fun l target link => ?_, history_publishAndRemove _ _ _,
    by decide +kernel, ?_⟩
  · obtain ⟨rfl, -⟩ : l = ["e", "lnk"] ∧ target = "lnk///p" := by
      simpa [spelledHost] using mem_table_of_link link
    decide
  · have gone : (afterRemoval project output spelledHost.files).find [] false
        (project.child databaseName) = .failed .noEntry := by
      decide +kernel
    rintro ⟨e?, found, -⟩
    rw [gone] at found
    cases e? with
    | none => cases found
    | some e => cases found

end BuildPilot
