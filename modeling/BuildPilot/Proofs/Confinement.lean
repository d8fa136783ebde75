import BuildPilot.Proofs.Course
import BuildPilot.Proofs.Effect
import BuildPilot.Proofs.Program

/-!
# The reach of a run

Beside what its commands do, a run removes entries in the output directory, replaces the published
database, and gives execute bits to built files. The last of these follows links: it reaches a file
outside the output directory if a link in there leads to it.
-/

namespace BuildPilot

open FileSystem Act

variable {x : Executor} {e : Event} {fs : FileSystem} {k : Location}

/-- What holds of the files after the operation for a task holds of them after a genuine event. -/
theorem Event.Genuine.after {within : FileSystem → Prop} (genuine : e.Genuine x)
    (spec : (x.operation e.task).OnFiles (· = e.before) fun _ => within) : within e.after := by
  obtain ⟨s, t, hbefore, hrun, hafter⟩ := genuine
  have left := spec s hbefore
  rw [hrun] at left
  exact hafter ▸ left

namespace Executor

theorem inTree_of_removeOutput (genuine : e.Genuine x) (task : e.task = .removeOutput)
    (changed : e.after.get? k ≠ e.before.get? k) :
    InTree e.before x.machine.cwd x.config.outputRoot k ∧ e.after.get? k = none := by
  have after := genuine.after (by
    rw [task]
    exact removeOutput_onFiles.thenReturn none)
  exact after.inTree changed

theorem publicPlace?_of_publish (genuine : e.Genuine x) (task : e.task = .publish)
    (changed : e.after.get? k ≠ e.before.get? k) : x.publicPlace? e.before = some k := by
  have after := genuine.after (by
    rw [task]
    exact publish_onFiles.discard.thenReturn none)
  exact after k changed

theorem marks_of_fixPermissions (genuine : e.Genuine x) (task : e.task = .fixPermissions)
    (changed : e.after.get? k ≠ e.before.get? k) : ∃ p, x.Marks e.before e.after p k := by
  have after := genuine.after (by
    rw [task]
    exact fixPermissions_onFiles.discard.thenReturn none)
  exact after k changed

theorem files_of_giveUp (genuine : e.Genuine x) (task : e.task = .giveUp) :
    e.after = e.before := by
  exact genuine.after (by
    rw [task]
    exact onFiles_throw fun _ h => h)

/-! ## Built files and the output directory -/

/-- A file that is marked with a known toolchain lies in the output directory, unless the way to it
passes a link in there. -/
theorem Marks.inTree_or_passesLink {gs : FileSystem} {p : Path} (marks : x.Marks fs gs p k)
    (toolchain : x.config.toolchain ∈ Registry.builtin.toolchains)
    (layout : x.config.buildDir =
      buildDirectory x.config.outputRoot x.config.toolchain.name x.config.buildType)
    (proper : fs.IsProper) :
    InTree fs x.machine.cwd x.config.outputRoot k ∨ ∃ names,
      p = x.config.outputRoot.append names ∧
        PassesLink fs x.machine.cwd x.config.outputRoot names := by
  obtain ⟨⟨pattern, hpattern, ss, names, hss, selected, hp⟩, mode, content, found, -⟩ := marks
  obtain ⟨anchor, parts, plain, plain'⟩ :=
    parts_buildDirectory toolchain x.config.outputRoot x.config.buildType
  rw [← layout] at anchor parts
  have below : p = x.config.outputRoot.append
      ([x.config.toolchain.name, x.config.buildType.name] ++ names) := by
    rw [hp, Path.append, Path.append, anchor, parts, List.append_assoc]
  rw [selectorsOf_builtin toolchain hpattern] at hss
  cases hss
  have names_plain : ∀ n ∈ [x.config.toolchain.name, x.config.buildType.name] ++ names,
      IsPlainName n := by
    intro n hn
    rcases List.mem_append.mp hn with hn | hn
    · simp only [List.mem_cons, List.not_mem_nil, or_false] at hn
      rcases hn with rfl | rfl
      · exact plain
      · exact plain'
    · exact proper n ((selected_wild selected).1 n hn)
  have hl : (fs.find x.machine.cwd true p).location? = some k := by
    rw [found]
    rfl
  rcases FileSystem.inTree_or_passesLink x.config.outputRoot hl (by rw [below]; rfl)
      (by rw [below]; rfl) (by simp) names_plain with inside | link
  · exact .inl inside
  · exact .inr ⟨_, below, link⟩

/-! ## Whole runs -/

/-- In a live run of a configured request, whatever its commands do, a change that is not made by a
command is one of three: an entry in the output directory is removed; the published place gets
another entry; or a file that a pattern of the toolchain selects below the build directory gets the
execute bits, and keeps its content and all other bits. With the toolchains to choose from, such a
file lies in the output directory too, unless a link in there leads to it. -/
theorem own_changes_confined {m : Machine} {fs : FileSystem} {r : Registry} {o : Options}
    {given : Option Defaults} {c : Configuration}
    (ok : resolve (m.host fs) r o given = .ok c) (runner : Runner) (console : Console)
    (actions : List Action) (extra : ExtraArgs) (s : Session) :
    let x : Executor := ⟨c, runner, console, false, m⟩
    let run := (x.execute (actions.map Action.name) extra).runIn s
    ∃ events, run.2.events = s.events ++ events ∧ Linked s.files events run.2.files ∧
      (∀ e ∈ events, e.Genuine x) ∧
      ∀ e ∈ events, (∀ step, e.task ≠ .run step) → ∀ k, e.after.get? k ≠ e.before.get? k →
        (e.task = .removeOutput ∧ InTree e.before m.cwd c.outputRoot k ∧
          e.after.get? k = none) ∨
        (e.task = .publish ∧ e.before.place? m.cwd c.publishedDatabase = some k) ∨
        (e.task = .fixPermissions ∧ ∃ p, x.Marks e.before e.after p k ∧
          (c.toolchain ∈ Registry.builtin.toolchains → e.before.IsProper →
            InTree e.before m.cwd c.outputRoot k ∨ ∃ names, p = c.outputRoot.append names ∧
              PassesLink e.before m.cwd c.outputRoot names)) := by
  intro x run
  obtain ⟨-, -, -, layout⟩ := resolve_eq_ok ok
  obtain ⟨events, hevents, genuine, course, -⟩ := execute_course x actions extra s
  refine ⟨events, hevents, course.linked, genuine, fun e he own k changed => ?_⟩
  have genuine := genuine e he
  cases task : e.task with
  | run step => exact absurd task (own step)
  | giveUp =>
    rw [files_of_giveUp genuine task] at changed
    exact absurd rfl changed
  | removeOutput => exact .inl ⟨rfl, inTree_of_removeOutput genuine task changed⟩
  | publish => exact .inr (.inl ⟨rfl, publicPlace?_of_publish genuine task changed⟩)
  | fixPermissions =>
    obtain ⟨p, marks⟩ := marks_of_fixPermissions genuine task changed
    exact .inr (.inr ⟨rfl, p, marks, fun toolchain proper =>
      marks.inTree_or_passesLink toolchain layout proper⟩)

/-! ## A tool behind a link -/

/-- The files of a project in `/p`, whose build directory holds a link to a tool elsewhere. -/
def linkedTool : FileSystem :=
  ⟨[(["outside"], .dir), (["outside", "tool"], .file 0o644 [0x78]), (["p"], .dir),
    (["p", "build"], .dir), (["p", "build", "msvc_wsl"], .dir),
    (["p", "build", "msvc_wsl", "Debug"], .dir),
    (["p", "build", "msvc_wsl", "Debug", "tool.exe"], .link "/outside/tool")]⟩

/-- The options of a cross build. -/
def crossBuild : Options := { toolchain := some "msvc_wsl" }

/-- The events of a build with a configuration, on the files with the linked tool. -/
def toolEvents (c : Configuration) : List Event :=
  ((⟨c, .recording, {}, false, .faultless⟩ : Executor).execute ["build"] (.ofSwitches [])).runIn
    { files := linkedTool } |>.2.events

/-- Fixing permissions changed the mode of the tool, which is neither in the output directory nor
the published database. -/
def ReachesTool (c : Configuration) : Prop :=
  ∃ e ∈ toolEvents c, e.task = .fixPermissions ∧
    e.before.get? ["outside", "tool"] = some (.file 0o644 [0x78]) ∧
    e.after.get? ["outside", "tool"] = some (.file 0o755 [0x78]) ∧
    (∀ row ∈ e.before.table, ∀ n ∈ row.1, IsPlainName n) ∧
    ¬ InTree e.before ["p"] c.outputRoot ["outside", "tool"] ∧
    e.before.place? ["p"] c.publishedDatabase ≠ some ["outside", "tool"]

instance (c : Configuration) : Decidable (ReachesTool c) := List.decidableBEx _ (toolEvents c)

theorem exists_reachesTool : ∃ c,
    resolve (Machine.faultless.host linkedTool) .builtin crossBuild none = .ok c ∧
      ReachesTool c := by
  have reaches : ((resolve (Machine.faultless.host linkedTool) .builtin crossBuild none).toOption.map
      fun c => decide (ReachesTool c)) = some true := by
    decide +kernel
  match ok : resolve (Machine.faultless.host linkedTool) .builtin crossBuild none with
  | .ok c =>
    rw [ok] at reaches
    exact ⟨c, rfl, of_decide_eq_true (Option.some.inj reaches)⟩
  | .error e =>
    rw [ok] at reaches
    cases reaches

theorem ReachesTool.exists_event {c : Configuration} (h : ReachesTool c) :
    ∃ e ∈ toolEvents c, (∀ step, e.task ≠ .run step) ∧
      e.after.get? ["outside", "tool"] ≠ e.before.get? ["outside", "tool"] ∧ e.before.IsProper ∧
      ¬ InTree e.before ["p"] c.outputRoot ["outside", "tool"] ∧
      e.before.place? ["p"] c.publishedDatabase ≠ some ["outside", "tool"] := by
  obtain ⟨e, he, task, hbefore, hafter, plain, outside, unpublished⟩ := h
  refine ⟨e, he, ?_, ?_, isProper_of_table plain, outside, unpublished⟩
  · rw [task]
    exact fun step h => by cases h
  · rw [hbefore, hafter]
    decide

theorem own_changes_confined_linkedTool : ∃ c,
    resolve (Machine.faultless.host linkedTool) .builtin crossBuild none = .ok c ∧
      ∃ e ∈ toolEvents c, ∃ p names,
        Marks ⟨c, .recording, {}, false, .faultless⟩ e.before e.after p ["outside", "tool"] ∧
        p = c.outputRoot.append names ∧ PassesLink e.before ["p"] c.outputRoot names := by
  obtain ⟨c, ok, reaches⟩ := exists_reachesTool
  obtain ⟨e, he, own, changed, proper, outside, unpublished⟩ := reaches.exists_event
  have toolchain := (resolve_eq_ok ok).2.2.1
  obtain ⟨events, hevents, -, -, confined⟩ :=
    own_changes_confined ok .recording {} [.build] (.ofSwitches []) { files := linkedTool }
  have mem : e ∈ events := by
    rw [List.nil_append] at hevents
    exact hevents ▸ he
  rcases confined e mem own _ changed with ⟨-, inside, -⟩ | ⟨-, published⟩ | ⟨-, p, marks, reach⟩
  · exact absurd inside outside
  · exact absurd published unpublished
  · rcases reach toolchain proper with inside | ⟨names, hp, link⟩
    · exact absurd inside outside
    · exact ⟨c, ok, e, he, p, names, marks, hp, link⟩

/-- The output directory and the published place alone do not bound what a run changes. -/
theorem reaches_beyond_output : ¬ ∀ c,
    resolve (Machine.faultless.host linkedTool) .builtin crossBuild none = .ok c →
      ∀ e ∈ toolEvents c, (∀ step, e.task ≠ .run step) →
        ∀ k, e.after.get? k ≠ e.before.get? k →
          InTree e.before ["p"] c.outputRoot k ∨
            e.before.place? ["p"] c.publishedDatabase = some k := by
  intro confined
  obtain ⟨c, ok, reaches⟩ := exists_reachesTool
  obtain ⟨e, he, own, changed, -, outside, unpublished⟩ := reaches.exists_event
  rcases confined c ok e he own _ changed with inside | published
  · exact outside inside
  · exact unpublished published

end Executor

end BuildPilot
