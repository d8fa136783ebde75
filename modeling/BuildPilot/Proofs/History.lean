import BuildPilot.Proofs.Confinement
import BuildPilot.Proofs.Publication

/-!
# Histories of runs

Many runs may follow one another in one project, with one output directory but each with a toolchain
and a build type of its own. After any of their tasks, the published place shows the publication
that succeeded last: as a link to its database, which may have been removed meanwhile, or as a copy
of what it held then. It may only be free if a later attempt to publish has failed.

One lemma for each kind of task says that the task keeps the invariant `Keeps`; `History.keeps`
follows by induction on the history.
-/

namespace BuildPilot

open FileSystem Act

/-! ## Deeds -/

/-- A task as it was carried out: by whom, and in which session. -/
structure Deed where
  executor : Executor
  start : Session
  task : Task

namespace Deed

/-- The files when the task was begun. -/
def before (d : Deed) : FileSystem := d.start.files

/-- The files when the task had ended. -/
def after (d : Deed) : FileSystem := ((d.executor.operation d.task).runIn d.start).2.files

/-- The event that the run keeps of a deed. -/
def event (d : Deed) : Event :=
  ⟨d.task, d.before, d.after, ((d.executor.operation d.task).runIn d.start).1⟩

/-- Whether a database was published, and its place given as the answer. -/
def published (d : Deed) : Bool :=
  match d.task, (d.executor.publish.runIn d.start).1 with
  | .publish, .ok (some p) => p == d.executor.config.publishedDatabase
  | _, _ => false

/-- Whether there was a database to publish when the task was begun. -/
def hasDatabase (d : Deed) : Bool :=
  match Document.isFileAt d.before d.executor.machine.cwd d.executor.config.database with
  | .ok there => there
  | .error _ => false

/-- What the database held when the task was begun. -/
def content (d : Deed) : List UInt8 :=
  match d.before.find d.executor.machine.cwd true d.executor.config.database with
  | .entry _ (.file _ content) => content
  | _ => []

end Deed

/-- A database that was published, and what it held then. -/
structure Publication where
  database : Path
  content : List UInt8
  /-- Whether a later attempt to publish has failed. -/
  retried : Bool
deriving DecidableEq

/-- A publication after another attempt, which has failed. -/
def Publication.retry (p : Publication) : Publication := { p with retried := true }

/-- The latest publication that has succeeded by the end of a deed. -/
def Deed.record (d : Deed) (last : Option Publication) : Option Publication :=
  match d.task with
  | .publish =>
    if d.published then some ⟨d.executor.config.database, d.content, false⟩
    else if d.hasDatabase then last.map Publication.retry
    else last
  | _ => last

/-- The latest publication that has succeeded in a list of deeds. -/
def latest (ds : List Deed) : Option Publication := ds.foldl (fun last d => d.record last) none

/-! ## Histories -/

/-- A command creates and changes files and directories in a build directory, and creates the
directories on the way to it. -/
def BuildsIn (dir : Location) (fs gs : FileSystem) : Prop :=
  ∀ k, gs.get? k ≠ fs.get? k →
    (k <+: dir ∧ fs.get? k = none ∧ gs.get? k = some .dir) ∨
      dir <+: k ∧ ∀ target, gs.get? k ≠ some (.link target)

/-- A configuration belongs to a project and an output directory. -/
structure Configuration.IsFor (P R : Path) (c : Configuration) : Prop where
  project : c.projectDir = P
  output : c.outputRoot = R
  build : c.buildDir = buildDirectory R c.toolchain.name c.buildType
  toolchain : IsComponent c.toolchain.name

/-- A deed of a live run for a project and an output directory. -/
structure Deed.IsFor (P R : Path) (d : Deed) : Prop where
  live : d.executor.dryRun = false
  config : d.executor.config.IsFor P R
  commands : ∀ step, d.task = .run step → BuildsIn d.executor.config.buildDir.parts d.before d.after

/-- `History P R fs ds gs`: the deeds `ds` for the project `P` and the output directory `R` have led
from the files `fs` to the files `gs`. -/
inductive History (P R : Path) (fs : FileSystem) : List Deed → FileSystem → Prop
  | nothing : History P R fs [] fs
  | next {ds : List Deed} {d : Deed} (past : History P R fs ds d.before) (fits : d.IsFor P R) :
      History P R fs (ds ++ [d]) d.after

/-! ## The invariant -/

/-- Where a history takes place: both paths are real, and the output directory spares the
project. -/
structure Grounds (P R : Path) : Prop where
  project : P.IsReal
  output : R.IsReal
  anchor : R.anchor = .root
  proper : R.IsProper
  spared : ¬ R.parts <+: P.parts

/-- A location is neither below nor above a directory. -/
def Beside (dir l : Location) : Prop := ¬ l <+: dir ∧ ¬ dir <+: l

/-- What the published place shows of a publication. -/
inductive Shows (p : Publication) : Option Entry → Prop
  | link : Shows p (some (.link p.database.toString))
  | copy (mode : Nat) : Shows p (some (.file mode p.content))
  | gone (retried : p.retried = true) : Shows p none

theorem Shows.retry {p : Publication} {e? : Option Entry} (h : Shows p e?) :
    Shows p.retry e? := by
  cases h with
  | link => exact .link
  | copy mode => exact .copy mode
  | gone retried => exact .gone rfl

/-- The invariant of a history: links stand beside both directories and the ways to them, apart from
the published one; and once a publication has succeeded, it is shown. -/
structure Keeps (P R : Path) (last : Option Publication) (fs : FileSystem) : Prop where
  links : ∀ l target, fs.get? l = some (.link target) →
    Beside P.parts l ∧ Beside R.parts l ∨
      l = (P.child databaseName).parts ∧ ¬ (P.child databaseName).parts <+: R.parts
  shown : ∀ p, last = some p → IsOpen fs P databaseName ∧
    ¬ (P.child databaseName).parts <+: R.parts ∧ Shows p (fs.get? (P.child databaseName).parts)

variable {P R : Path} {last : Option Publication} {fs gs : FileSystem} {x : Executor} {d : Deed}

namespace Grounds

variable (g : Grounds P R)

include g

/-- The published place is not in the output directory, unless it is on the way there. -/
theorem not_prefix_published (off : ¬ (P.child databaseName).parts <+: R.parts) :
    ¬ R.parts <+: (P.child databaseName).parts := by
  intro le
  rcases List.prefix_concat_iff.mp (show R.parts <+: P.parts ++ [databaseName] from le) with
    same | le
  · exact off (same ▸ List.prefix_rfl)
  · exact g.spared le

theorem not_published_prefix_build {names : List String}
    (off : ¬ (P.child databaseName).parts <+: R.parts) :
    ¬ (P.child databaseName).parts <+: R.parts ++ names := by
  intro le
  rcases List.prefix_or_prefix_of_prefix le (List.prefix_append R.parts names) with le | le
  · exact off le
  · exact g.not_prefix_published off le

end Grounds

theorem Configuration.IsFor.parts_buildDir {c : Configuration} (h : c.IsFor P R) :
    c.buildDir.anchor = R.anchor ∧
      c.buildDir.parts = R.parts ++ [c.toolchain.name, c.buildType.name] := by
  rw [h.build]
  exact parts_buildDirectory_of_single h.toolchain.1 R c.buildType

theorem Configuration.IsFor.publishedDatabase_eq {c : Configuration} (h : c.IsFor P R) :
    c.publishedDatabase = P.child databaseName := by
  rw [← h.project]
  rfl

namespace Keeps

theorem unlinked_project (keeps : Keeps P R last fs) : Unlinked fs P.parts := by
  intro d le target link
  rcases keeps.links d target link with ⟨⟨off, -⟩, -⟩ | ⟨rfl, -⟩
  · exact off le
  · have long := le.length_le
    simp only [Path.child, List.length_append, List.length_singleton] at long
    omega

theorem unlinked_output (g : Grounds P R) (keeps : Keeps P R last fs) (names : List String) :
    Unlinked fs (R.parts ++ names) := by
  intro d le target link
  rcases keeps.links d target link with ⟨-, off, off'⟩ | ⟨rfl, off⟩
  · rcases List.prefix_or_prefix_of_prefix le (List.prefix_append R.parts names) with le | le
    · exact off le
    · exact off' le
  · exact g.not_published_prefix_build off le

theorem hasClearWays (g : Grounds P R) (keeps : Keeps P R last fs) (h : x.config.IsFor P R) :
    x.HasClearWays fs := by
  obtain ⟨anchor, parts⟩ := h.parts_buildDir
  have database : x.config.database.parts =
      R.parts ++ [x.config.toolchain.name, x.config.buildType.name, databaseName] := by
    change x.config.buildDir.parts ++ [databaseName] = _
    rw [parts, List.append_assoc]
    rfl
  refine ⟨h.project ▸ g.project, ⟨?_, fun n hn => ?_⟩, ?_, ?_, fun same => ?_⟩
  · unfold Path.isAbsolute
    rw [anchor, g.anchor]
    rfl
  · rw [parts] at hn
    simp only [List.mem_append, List.mem_cons, List.not_mem_nil, or_false] at hn
    rcases hn with hn | rfl | rfl
    · exact g.output.2 n hn
    · exact h.toolchain.2
    · exact x.config.buildType.isComponent_name.2
  · rw [h.project]
    exact keeps.unlinked_project
  · rw [database]
    exact keeps.unlinked_output g _
  · have same : x.config.buildDir.parts ++ [databaseName] = x.config.projectDir.parts ++
        [databaseName] := same
    have covers := (List.append_inj' same rfl).1
    rw [parts, h.project] at covers
    exact g.spared (covers ▸ List.prefix_append R.parts _)

/-- A change keeps the invariant if it adds no links, leaves the way to the project alone, and
changes no more than the mode of the published entry. -/
theorem congr (keeps : Keeps P R last fs)
    (links : ∀ l target, gs.get? l = some (.link target) → fs.get? l = some (.link target))
    (way : ∀ p, last = some p → ∀ e, e <+: P.parts → gs.get? e = fs.get? e)
    (shown : ∀ p, last = some p → ¬ (P.child databaseName).parts <+: R.parts →
      Shows p (fs.get? (P.child databaseName).parts) →
      Shows p (gs.get? (P.child databaseName).parts)) : Keeps P R last gs := by
  refine ⟨fun l target link => keeps.links l target (links l target link), fun p hp => ?_⟩
  obtain ⟨opened, off, shows'⟩ := keeps.shown p hp
  exact ⟨opened.congr (way p hp), off, shown p hp off shows'⟩

/-! ## One task -/

theorem of_buildsIn (g : Grounds P R) (keeps : Keeps P R last fs) {c : Configuration}
    (h : c.IsFor P R) (builds : BuildsIn c.buildDir.parts fs gs) : Keeps P R last gs := by
  obtain ⟨-, parts⟩ := h.parts_buildDir
  rw [parts] at builds
  have inOutput {k : Location}
      (below : R.parts ++ [c.toolchain.name, c.buildType.name] <+: k) : R.parts <+: k :=
    (List.prefix_append R.parts _).trans below
  refine keeps.congr (fun l target link => ?_) (fun p hp e he => ?_) fun p hp off shows' => ?_
  · by_contra changed
    rcases builds l (fun same => changed (same ▸ link)) with ⟨-, -, dir⟩ | ⟨-, noLink⟩
    · rw [link] at dir
      cases dir
    · exact noLink target link
  · -- what stands on the way to the project is not made by a command, but was there
    have there := (keeps.shown p hp).1.way.dirs e he
    by_contra changed
    rcases builds e changed with ⟨-, free, -⟩ | ⟨below, -⟩
    · rw [there] at free
      cases free
    · exact g.spared ((inOutput below).trans he)
  · have same : gs.get? (P.child databaseName).parts = fs.get? (P.child databaseName).parts := by
      by_contra changed
      rcases builds _ changed with ⟨le, -⟩ | ⟨below, -⟩
      · exact g.not_published_prefix_build off le
      · exact g.not_prefix_published off (inOutput below)
    rwa [same]

theorem of_marked (keeps : Keeps P R last fs) (marked : x.Marked fs gs) : Keeps P R last gs := by
  refine keeps.congr (fun l target link => marked.sameShape.symm.get?_eq_link link)
    (fun p hp e he => ?_) fun p hp off shows' => ?_
  · have there := (keeps.shown p hp).1.way.dirs e he
    rw [there, marked.sameShape.get?_eq_dir there]
  · by_cases same : gs.get? (P.child databaseName).parts = fs.get? (P.child databaseName).parts
    · rwa [same]
    · obtain ⟨q, -, mode, content, found, now⟩ := marked _ same
      rw [get?_of_find_file found] at shows'
      rw [now]
      cases shows' with
      | copy mode => exact .copy _

theorem of_prunes (g : Grounds P R) (keeps : Keeps P R last fs) {cwd : Location}
    (prunes : Prunes cwd R fs gs) : Keeps P R last gs := by
  -- no link is on the way to the output directory, so what is gone was in the directory there
  have gone {k : Location} (changed : gs.get? k ≠ fs.get? k) :
      R.parts <+: k ∧ gs.get? k = none := by
    obtain ⟨l, found, below, gone⟩ := prunes k changed
    have unlinked := keeps.unlinked_output g []
    rw [List.append_nil] at unlinked
    have walks := walks_find found rfl
    have start : startOf cwd R = [] := if_pos g.output.1
    rw [start] at walks
    obtain ⟨rfl, -⟩ := unlinked.hasWay g.output.2 walks
    exact ⟨below, gone⟩
  refine keeps.congr (fun l target link => ?_) (fun p hp e he => ?_) fun p hp off shows' => ?_
  · by_contra changed
    have free := (gone fun same => changed (same ▸ link)).2
    rw [link] at free
    cases free
  · by_contra changed
    exact g.spared ((gone changed).1.trans he)
  · have same : gs.get? (P.child databaseName).parts = fs.get? (P.child databaseName).parts := by
      by_contra changed
      exact g.not_prefix_published off (gone changed).1
    rwa [same]

end Keeps

/-! ## Publishing -/

namespace Deed

theorem after_publish (task : d.task = .publish) :
    d.after = (d.executor.publish.runIn d.start).2.files := by
  unfold after
  rw [task]
  change ((discard d.executor.publish >>= fun _ => pure none).runIn d.start).2.files = _
  rw [discard_eq_bind, bind_assoc, runIn_bind]
  cases d.executor.publish.runIn d.start with
  | mk r t => cases r <;> rfl

theorem published_iff (task : d.task = .publish) : d.published = true ↔
    (d.executor.publish.runIn d.start).1 = .ok (some d.executor.config.publishedDatabase) := by
  unfold published
  rw [task]
  match (d.executor.publish.runIn d.start).1 with
  | .ok (some p) => simp
  | .ok none => simp
  | .error e => simp

theorem attempted_publish (task : d.task = .publish) (clear : d.executor.HasClearWays d.before) :
    d.executor.Attempted d.before (d.published = true) d.after := by
  rw [after_publish task]
  exact (Executor.publish_attempted clear d.start rfl).of_iff (published_iff task).symm

theorem publish_of_missing (task : d.task = .publish) (missing : d.hasDatabase = false) :
    d.after = d.before ∧ d.published = false := by
  have none : Document.isFileAt d.before d.executor.machine.cwd d.executor.config.database ≠
      .ok true := by
    intro there
    unfold hasDatabase at missing
    rw [there] at missing
    cases missing
  obtain ⟨same, failed⟩ := Executor.publish_of_missing none d.start rfl
  rw [after_publish task]
  refine ⟨same, ?_⟩
  simpa using mt (published_iff task).mp failed

theorem content_eq {mode : Nat} {content : List UInt8}
    (holds : d.executor.HoldsDatabase mode content d.before) : d.content = content := by
  unfold Deed.content
  rw [holds.find]

end Deed

namespace Keeps

/-- A publication that succeeds is shown from then on. -/
theorem of_published (keeps : Keeps P R last d.before) (config : d.executor.config.IsFor P R)
    (attempted : d.executor.Attempted d.before (d.published = true) d.after)
    (success : d.published = true) :
    Keeps P R (some ⟨d.executor.config.database, d.content, false⟩) d.after := by
  have here := config.publishedDatabase_eq
  obtain ⟨mode, content, holds, placed⟩ := attempted.placed success
  -- the database lies in the output directory, and the published place is not on the way to it
  have off : ¬ (P.child databaseName).parts <+: R.parts := by
    intro le
    refine holds.off ?_
    rw [here, config.parts_buildDir.2]
    exact le.trans (List.prefix_append R.parts _)
  refine ⟨fun l target link => ?_, fun p hp => ?_⟩
  · by_cases published : l = (P.child databaseName).parts
    · exact .inr ⟨published, off⟩
    · rw [attempted.elsewhere l (by rwa [here])] at link
      exact keeps.links l target link
  · cases hp
    refine ⟨config.project ▸ placed.project, off, ?_⟩
    rw [← here, d.content_eq holds]
    rcases placed.published with link | copy
    · rw [link]
      exact .link
    · rw [copy]
      exact .copy mode

/-- A publication that fails leaves what was shown, or takes it away. -/
theorem of_unpublished (keeps : Keeps P R last d.before) (config : d.executor.config.IsFor P R)
    (attempted : d.executor.Attempted d.before (d.published = true) d.after)
    (failed : ¬ d.published = true) : Keeps P R (last.map Publication.retry) d.after := by
  have here := config.publishedDatabase_eq
  have kept := attempted.kept failed
  rw [here] at kept
  refine ⟨fun l target link => ?_, fun p hp => ?_⟩
  · have same : d.after.get? l = d.before.get? l := by
      by_cases published : l = (P.child databaseName).parts
      · subst published
        exact kept.resolve_right fun none => by
          rw [link] at none
          cases none
      · exact attempted.elsewhere l (by rwa [here])
    exact keeps.links l target (same ▸ link)
  · obtain ⟨p, before, rfl⟩ := Option.map_eq_some_iff.mp hp
    obtain ⟨opened, off, shows'⟩ := keeps.shown p before
    have opened := attempted.elsewhere.isOpen opened
      (config.project ▸ Executor.not_published_above d.executor.config)
    refine ⟨opened, off, ?_⟩
    rcases kept with same | none
    · rw [same]
      exact shows'.retry
    · rw [none]
      exact .gone rfl

theorem of_publish (g : Grounds P R) (keeps : Keeps P R last d.before)
    (config : d.executor.config.IsFor P R) (task : d.task = .publish) :
    Keeps P R (d.record last) d.after := by
  have attempted := d.attempted_publish task (keeps.hasClearWays g config)
  unfold Deed.record
  rw [task]
  dsimp only
  by_cases success : d.published = true
  · rw [if_pos success]
    exact keeps.of_published config attempted success
  rw [if_neg success]
  by_cases there : d.hasDatabase = true
  · rw [if_pos there]
    exact keeps.of_unpublished config attempted success
  · rw [if_neg there, (d.publish_of_missing task (by simpa using there)).1]
    exact keeps

/-! ## Whole histories -/

/-- Every deed keeps the invariant. -/
theorem of_deed (g : Grounds P R) (keeps : Keeps P R last d.before) (h : d.IsFor P R) :
    Keeps P R (d.record last) d.after := by
  have unrecorded (other : d.task ≠ .publish) : d.record last = last := by
    unfold Deed.record
    split
    · exact absurd ‹_› other
    · rfl
  cases task : d.task with
  | publish => exact keeps.of_publish g h.config task
  | run step =>
    rw [unrecorded (by simp [task])]
    exact keeps.of_buildsIn g h.config (h.commands step task)
  | fixPermissions =>
    rw [unrecorded (by simp [task])]
    have marked : d.executor.Marked d.before d.after := by
      unfold Deed.after
      rw [task]
      exact Executor.fixPermissions_onFiles.discard.thenReturn none d.start rfl
    exact keeps.of_marked marked
  | removeOutput =>
    rw [unrecorded (by simp [task])]
    have prunes : Prunes d.executor.machine.cwd R d.before d.after := by
      unfold Deed.after
      rw [task, ← h.config.output]
      exact Executor.removeOutput_onFiles.thenReturn none d.start rfl
    exact keeps.of_prunes g prunes
  | giveUp =>
    rw [unrecorded (by simp [task])]
    have same : d.after = d.before := by
      unfold Deed.after
      rw [task]
      rfl
    rwa [same]

end Keeps

theorem latest_concat (ds : List Deed) (d : Deed) :
    latest (ds ++ [d]) = d.record (latest ds) :=
  List.foldl_concat _ _ _ _

/-- The invariant holds along every history. -/
theorem History.keeps {ds : List Deed} (g : Grounds P R) (start : Keeps P R none fs)
    (history : History P R fs ds gs) : Keeps P R (latest ds) gs := by
  induction history with
  | nothing => exact start
  | next past fits ih =>
    rw [latest_concat]
    exact ih.of_deed g fits

end BuildPilot
