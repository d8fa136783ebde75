import BuildPilot.Proofs.Publishing

/-!
# Removing the output

A removal takes away the tree at the output directory and nothing else, if no links are on the way to
that directory, as none are where the search for its real path has gone to its end. A removal that
fails may have taken away some of the tree before.

Behind a loop of links the output directory may be the project directory under another spelling, and
then the project is removed.
-/

namespace BuildPilot

open FileSystem

namespace FileSystem

variable {fs gs : FileSystem} {cwd k l : Location} {p : Path} {e : Entry} {follow : Bool}

/-! ## Settled paths -/

/-- A path below the root at which a search for its real path has come to its end. -/
structure IsSettledPath (fs : FileSystem) (p : Path) : Prop where
  tree : IsTree fs
  named : IsNamed fs
  anchor : p.anchor = .root
  settled : IsSettled fs p.parts
  below : p.parts ≠ []

/-- Below a free location everything is free. -/
theorem IsTree.get?_below (tree : IsTree fs) (free : fs.get? l = none) (le : l <+: k) :
    fs.get? k = none := by
  obtain ⟨names, rfl⟩ := le
  induction names using List.reverseRecOn with
  | nil => rwa [List.append_nil]
  | append_singleton names x ih =>
    rw [← List.append_assoc]
    by_contra there
    rw [tree.parent _ x there] at ih
    cases ih

namespace IsSettledPath

variable (h : IsSettledPath fs p)
include h

theorem isAbsolute : p.isAbsolute = true := by
  unfold Path.isAbsolute
  rw [h.anchor]
  rfl

theorem hasNul_eq_false (there : fs.get? p.parts = some e) : hasNul p = false := by
  have free := h.named.of_get? there
  rw [hasNul, List.any_eq_false]
  intro n hn
  simpa using free n hn

theorem unlinked (short : p.toString.utf8ByteSize < maxPathOctets) : Unlinked fs p.parts :=
  h.tree.unlinked h.settled (isShort_of_toString h.anchor List.prefix_rfl short)

/-- A look at the path comes to its own location. -/
theorem location_eq (hl : (fs.find cwd follow p).location? = some l) : l = p.parts := by
  have walks := walks_find rfl hl
  rw [startOf, if_pos h.isAbsolute] at walks
  rcases walks.stays h.settled.plain hl with rfl | ⟨zs, target, le, link⟩
  · rfl
  · exact absurd link (h.unlinked (short_of_find hl) zs le target)

/-- There is no link at the path to be followed. -/
theorem find_follow (hl : (fs.find cwd true p).location? = some l) :
    fs.find cwd false p = fs.find cwd true p := by
  have short := find_eq_walk hl fs
  have walks := walks_walk fs false maxLinks (startOf cwd p) p.parts
  rw [short true, short false, (walks.of_nofollow fun k target found => ?_).walk_eq]
  rw [← short false] at found
  have there := get?_of_find found (by simp)
  rw [h.location_eq (congrArg Sight.location? found)] at there
  exact h.unlinked (short_of_find hl) _ List.prefix_rfl target there

theorem get?_eq_dir (found : fs.find cwd false p = .entry l .dir) :
    fs.get? p.parts = some .dir := by
  have walks := walks_find found rfl
  rw [startOf, if_pos h.isAbsolute] at walks
  have unlinked := h.unlinked (short_of_find (congrArg Sight.location? found))
  exact (unlinked.hasWay h.settled.plain walks).2.dirs _ List.prefix_rfl

theorem get?_eq (found : fs.find cwd true p = .entry l e) : fs.get? p.parts = some e := by
  by_cases dir : e = .dir
  · subst dir
    exact h.get?_eq_dir ((h.find_follow (congrArg Sight.location? found)).trans found)
  · obtain rfl := h.location_eq (congrArg Sight.location? found)
    exact get?_of_find found dir

/-- If something is there, then there is a way to the directory that it stands in. -/
theorem exists_isOpen (there : fs.get? p.parts = some e)
    (short : p.toString.utf8ByteSize < maxPathOctets) :
    ∃ dir name, p = dir.child name ∧ IsOpen fs dir name := by
  obtain ⟨anchor, parts⟩ := p
  obtain ⟨names, x, rfl⟩ := (List.eq_nil_or_concat parts).resolve_left h.below
  rw [List.concat_eq_append] at *
  have taken : fs.get? (names ++ [x]) ≠ none := by
    rw [there]
    exact Option.some_ne_none e
  exact ⟨⟨anchor, names⟩, x, rfl, h.isAbsolute, short,
    h.tree.hasWay (h.tree.parent names x taken), h.tree.fits names x taken⟩

/-- A look at the path sees what is there, unless the path is too long. -/
theorem find_eq (there : fs.get? p.parts = some e) (cwd : Location) (follow : Bool) :
    fs.find cwd follow p =
      if p.toString.utf8ByteSize < maxPathOctets then .entry p.parts e
      else .failed .nameTooLong := by
  split
  · next short =>
      have unlinked := h.unlinked short
      obtain ⟨dir, name, rfl, opened⟩ := h.exists_isOpen there short
      rw [opened.find_eq cwd follow fun _ target => unlinked _ List.prefix_rfl target, there]
      rfl
  · next long => exact if_pos (Nat.le_of_not_lt long)

/-- A look that follows links, if it does not fail, sees what is there. -/
theorem get?_of_status {seen : Option (Location × Entry)} (look : fs.status cwd p = .ok seen) :
    fs.get? p.parts = seen.map Prod.snd := by
  unfold status at look
  cases there : fs.get? p.parts with
  | some e =>
    rw [h.hasNul_eq_false there, h.find_eq there cwd true] at look
    by_cases short : p.toString.utf8ByteSize < maxPathOctets
    · rw [if_pos short] at look
      cases look
      rfl
    · rw [if_neg short] at look
      cases look
  | none =>
    split at look
    · cases look
      rfl
    · split at look
      · next found =>
          rw [h.get?_eq found] at there
          cases there
      · cases look
        rfl
      · split at look <;> cases look
        rfl

/-- A tree is removed at the path: nothing is left at or below it, and the rest is as before. -/
theorem of_removeTree (done : fs.removeTree cwd p = .ok gs) :
    (∀ k, gs.get? k = if p.parts <+: k then none else fs.get? k) ∧
      ∀ cwd', gs.status cwd' p = .ok none := by
  obtain ⟨l, found, rfl⟩ := removeTree_eq_ok done
  obtain rfl := h.location_eq (congrArg Sight.location? found)
  have there := h.get?_eq_dir found
  have left := get?_eraseTree fs h.below
  refine ⟨left, fun cwd' => ?_⟩
  have short := short_of_find (congrArg Sight.location? found)
  have clean := h.hasNul_eq_false there
  have gone : (fs.eraseTree p.parts).get? p.parts = none := by
    rw [left, if_pos List.prefix_rfl]
  generalize fs.eraseTree p.parts = gs at left gone
  obtain ⟨dir, name, rfl, opened⟩ := h.exists_isOpen there short
  have opened' : IsOpen gs dir name := by
    refine opened.congr fun e le => ?_
    rw [left, if_neg fun le' => ?_]
    have long := (le'.trans le).length_le
    rw [show (dir.child name).parts = dir.parts ++ [name] from rfl, List.length_append] at long
    exact absurd long (by simp)
  have free := opened'.find_eq cwd' true fun _ target link => by
    rw [gone] at link
    cases link
  unfold status
  rw [clean, free, gone]
  rfl

end IsSettledPath

/-- Where searches for real paths go to their ends, the output directory of a configuration is a
settled path, and by its names alone it spares the project. -/
theorem isSettledPath_of_resolve {h : Host} {r : Registry} {o : Options} {given : Option Defaults}
    {c : Configuration} {d : Defaults} (ok : resolve h r o given = .ok c)
    (root : outputRoot h d c.projectDir = .ok c.outputRoot)
    (tree : IsTree h.files) (named : IsNamed h.files) (working : IsWorkingDirectory h.files h.cwd)
    (toProject : IsResolvable h.files h.cwd (o.projectDir.getD ⟨.root, h.cwd⟩))
    (toOutput : IsResolvable h.files h.cwd (c.projectDir / Path.ofString d.outputDir)) :
    IsSettledPath h.files c.outputRoot ∧ ¬ c.outputRoot.parts <+: c.projectDir.parts := by
  obtain ⟨hproject, -⟩ := resolve_eq_ok ok
  obtain ⟨hreal, -⟩ := outputRoot_eq_ok root
  have anchor : c.projectDir.anchor = .root := by
    rw [← eq_resolved_of_realPath hproject]
    exact anchor_resolved toProject
  obtain ⟨anchor', settled, -⟩ := isSettled_of_outputRoot working hproject toOutput hreal
  have spared := names_of_outputRoot root anchor toOutput
  refine ⟨⟨tree, named, anchor', settled, fun top => spared ?_⟩, spared⟩
  rw [top]
  exact List.nil_prefix

end FileSystem

namespace Executor

open Act

variable {x : Executor} {fs gs : FileSystem} {n : Nat} {r : Except Failure Unit}

/-! ## The ways of a removal -/

/-- From the files `fs` at the time `n`, the removal of the output ends with a result and leaves
files. -/
inductive Removes (x : Executor) (fs : FileSystem) (n : Nat) :
    Except Failure Unit → FileSystem → Prop
  | unseen {e : FileError} (look : fs.status x.machine.cwd x.config.outputRoot = .error e) :
      Removes x fs n (.error (.file e)) fs
  | nothing (look : fs.status x.machine.cwd x.config.outputRoot = .ok none) :
      Removes x fs n (.ok ()) fs
  | removed {there : Location × Entry} {gs : FileSystem}
      (look : fs.status x.machine.cwd x.config.outputRoot = .ok (some there))
      (done : x.machine.faults.attempt n .removeTree
        (fs.removeTree x.machine.cwd x.config.outputRoot) = .ok gs) :
      Removes x fs n (.ok ()) gs
  | broken {there : Location × Entry} {e : FileError}
      (look : fs.status x.machine.cwd x.config.outputRoot = .ok (some there))
      (failed : x.machine.faults.attempt n .removeTree
        (fs.removeTree x.machine.cwd x.config.outputRoot) = .error e) :
      Removes x fs n (.error (.file e)) (x.leftOutput n fs)

theorem removeOutput_removes (x : Executor) (s : Session) :
    x.Removes s.files s.clock (x.removeOutput.runIn s).1 (x.removeOutput.runIn s).2.files := by
  unfold removeOutput
  match look : s.files.status x.machine.cwd x.config.outputRoot with
  | .error e =>
    rw [runIn_bind_error (runIn_ask_of_error look)]
    exact .unseen look
  | .ok none =>
    rw [runIn_bind_ok (runIn_ask_of_ok look)]
    exact .nothing look
  | .ok (some there) =>
    rw [runIn_bind_ok (runIn_ask_of_ok look), if_neg (by simp), runIn_bind_ok (runIn_print _ s)]
    match tried : x.machine.faults.attempt s.clock .removeTree
        (s.files.removeTree x.machine.cwd x.config.outputRoot) with
    | .ok gs =>
      rw [runIn_bind_ok (runIn_changeLeaving_of_ok _ tried)]
      exact .removed look tried
    | .error e =>
      rw [runIn_bind_ok (runIn_changeLeaving_of_error _ tried)]
      exact .broken look tried

/-- A live run of the removal alone ends as the removal does. -/
theorem runIn_execute_cleanall (live : x.dryRun = false) (extra : ExtraArgs) (s : Session) :
    ∃ r, x.Removes s.files s.clock r ((x.execute [Action.cleanall.name] extra).runIn s).2.files ∧
      ((x.execute [Action.cleanall.name] extra).runIn s).1 = r.map fun _ => [.cleanall] := by
  obtain ⟨t, files, clock, run⟩ := x.runIn_execute_single .cleanall extra s
  have removes := x.removeOutput_removes t
  have carried : x.carryOut extra .cleanall = x.undertake .removeOutput := by
    rw [carryOut, cleanall, if_neg (by rw [live]; decide)]
  have operation : x.operation .removeOutput = x.removeOutput >>= fun _ => pure none := rfl
  rw [run, carried, undertake, runIn_undertaking, operation, runIn_bind, ← files, ← clock]
  generalize x.removeOutput.runIn t = ran at removes ⊢
  obtain ⟨ended, u⟩ := ran
  cases ended with
  | ok => exact ⟨_, removes, rfl⟩
  | error e => exact ⟨_, removes, rfl⟩

/-! ## The effect of a removal -/

namespace Removes

theorem prunes (h : x.Removes fs n r gs) : Prunes x.machine.cwd x.config.outputRoot fs gs := by
  cases h with
  | unseen => exact .refl
  | nothing => exact .refl
  | removed look done => exact prunes_of_removeTree (eq_of_attempt done)
  | broken => exact prunes_removePart _

theorem of_error {e : Failure} (h : x.Removes fs n (.error e) gs) : ∃ cause, e = .file cause := by
  cases h with
  | unseen => exact ⟨_, rfl⟩
  | broken => exact ⟨_, rfl⟩

theorem of_status_none (h : x.Removes fs n r gs)
    (free : fs.status x.machine.cwd x.config.outputRoot = .ok none) : r = .ok () ∧ gs = fs := by
  cases h with
  | nothing => exact ⟨rfl, rfl⟩
  | unseen look => cases free.symm.trans look
  | removed look => cases free.symm.trans look
  | broken look => cases free.symm.trans look

variable (settled : IsSettledPath fs x.config.outputRoot)
include settled

/-- A removal that succeeds leaves nothing in the output directory and everything else as it was, and
then there is nothing to be removed. -/
theorem of_ok (h : x.Removes fs n (.ok ()) gs) :
    (∀ k, gs.get? k = if x.config.outputRoot.parts <+: k then none else fs.get? k) ∧
      gs.status x.machine.cwd x.config.outputRoot = .ok none := by
  cases h with
  | nothing look =>
    refine ⟨fun k => ?_, look⟩
    split
    · next le => exact settled.tree.get?_below (settled.get?_of_status look) le
    · rfl
  | removed look done =>
    obtain ⟨left, gone⟩ := settled.of_removeTree (eq_of_attempt done)
    exact ⟨left, gone _⟩

/-- Whatever a removal does, it does in the output directory, where an entry is as before or gone. -/
theorem get?_eq (h : x.Removes fs n r gs) (k : Location) :
    gs.get? k = fs.get? k ∨ x.config.outputRoot.parts <+: k ∧ gs.get? k = none := by
  by_cases same : gs.get? k = fs.get? k
  · exact .inl same
  · obtain ⟨l, found, below, gone⟩ := h.prunes k same
    obtain rfl := settled.location_eq (congrArg Sight.location? found)
    exact .inr ⟨below, gone⟩

/-- Where no directory is, nothing is removed. -/
theorem of_noDir (h : x.Removes fs n r gs) (noDir : fs.get? x.config.outputRoot.parts ≠ some .dir) :
    gs = fs := by
  cases h with
  | unseen => rfl
  | nothing => rfl
  | removed look done =>
    obtain ⟨l, found, -⟩ := removeTree_eq_ok (eq_of_attempt done)
    exact absurd (settled.get?_eq_dir found) noDir
  | broken =>
    unfold leftOutput removePart
    split
    · next found => exact absurd (settled.get?_eq_dir found) noDir
    · rfl

/-- What is there is removed only if it is a directory, and no fault is set. -/
theorem of_there (h : x.Removes fs n (.ok ()) gs) {e : Entry}
    (there : fs.get? x.config.outputRoot.parts = some e) :
    e = .dir ∧ x.machine.faults n .removeTree = none := by
  cases h with
  | nothing look => cases there.symm.trans (settled.get?_of_status look)
  | removed look done =>
    obtain ⟨l, found, -⟩ := removeTree_eq_ok (eq_of_attempt done)
    have dir := settled.get?_eq_dir found
    rw [there] at dir
    refine ⟨Option.some.inj dir, ?_⟩
    unfold Faults.attempt at done
    split at done
    · cases done
    · assumption

end Removes

end Executor

/-- Where the searches for the project and for the output directory go to their ends, the output
directory does not contain the project directory. A live removal that succeeds leaves nothing in the
output directory and everything else as it was, and a second one then succeeds and changes nothing,
at any time. If there is no output directory, or if something else is there, nothing is changed. The
error of a removal that fails ends the run, and everything outside the output directory is as it was;
inside, what had been removed by then is gone. A removal does fail if something else than a directory
is there, or if the removal of what is there raises an error. -/
theorem removal_confined_to_output {m : Machine} {fs : FileSystem} {r : Registry} {o : Options}
    {given : Option Defaults} {c : Configuration} {d : Defaults}
    (ok : resolve (m.host fs) r o given = .ok c)
    (root : outputRoot (m.host fs) d c.projectDir = .ok c.outputRoot)
    (tree : IsTree fs) (named : IsNamed fs) (working : IsWorkingDirectory fs m.cwd)
    (toProject : IsResolvable fs m.cwd (o.projectDir.getD ⟨.root, m.cwd⟩))
    (toOutput : IsResolvable fs m.cwd (c.projectDir / Path.ofString d.outputDir))
    (runner : Runner) (console : Console) (extra : ExtraArgs) (s : Session)
    (start : s.files = fs) :
    let x : Executor := ⟨c, runner, console, false, m⟩
    let removal := x.execute [Action.cleanall.name] extra
    let run := removal.runIn s
    let l := c.outputRoot.parts
    ¬ l <+: c.projectDir.parts ∧
    (run.1.isOk = true →
      (∀ k, run.2.files.get? k = if l <+: k then none else fs.get? k) ∧
      ∀ t, t.files = run.2.files →
        (removal.runIn t).1.isOk = true ∧ (removal.runIn t).2.files = run.2.files) ∧
    (fs.get? l ≠ some .dir → run.2.files = fs) ∧
    (∀ e, run.1 = .error e → (∃ cause, e = .file cause) ∧
      ∀ k, run.2.files.get? k = fs.get? k ∨ l <+: k ∧ run.2.files.get? k = none) ∧
    ∀ e, fs.get? l = some e →
      (e ≠ .dir ∨ (m.faults s.clock .removeTree).isSome = true) →
        ∃ cause, run.1 = .error (.file cause) := by
  intro x removal run l
  subst start
  obtain ⟨settled, spared⟩ := isSettledPath_of_resolve ok root tree named working toProject toOutput
  obtain ⟨ended, removes, result⟩ := x.runIn_execute_cleanall rfl extra s
  change x.Removes _ _ ended run.2.files at removes
  change run.1 = _ at result
  rw [result]
  refine ⟨spared, fun success => ?_, removes.of_noDir settled, fun e failed => ?_, ?_⟩
  · rw [isOk_map] at success
    match ended, success with
    | .ok (), _ =>
      obtain ⟨left, gone⟩ := removes.of_ok settled
      refine ⟨left, fun t same => ?_⟩
      obtain ⟨again, removes', result'⟩ := x.runIn_execute_cleanall rfl extra t
      rw [same] at removes'
      obtain ⟨rfl, kept⟩ := removes'.of_status_none gone
      exact ⟨congrArg _ result', kept⟩
  · match ended, failed with
    | .error e', failed =>
      cases failed
      exact ⟨removes.of_error, removes.get?_eq settled⟩
  · intro e there hindered
    match ended with
    | .error e' =>
      obtain ⟨cause, rfl⟩ := removes.of_error
      exact ⟨cause, rfl⟩
    | .ok () =>
      obtain ⟨dir, free⟩ := removes.of_there settled there
      rw [free] at hindered
      exact absurd hindered (by simp [dir])

/-- A project in `/p` whose output holds a link to a file elsewhere. -/
def linkedOutput : FileSystem :=
  ⟨[(["e"], .dir), (["e", "lib"], .file 0o644 [0x78]), (["p"], .dir),
    (["p", "src"], .file 0o644 [0x79]), (["p", "build"], .dir),
    (["p", "build", "lib"], .link "/e/lib")]⟩

/-- A machine on which a removal fails when the link in the output is gone. -/
def Machine.stuck : Machine where
  cwd := ["p"]
  os := "Linux"
  env := ⟨[]⟩
  processors := none
  copies := false
  faults := fun _ op => if op = .removeTree then some .accessDenied else none
  goneAtFault := fun _ k => k = ["p", "build", "lib"]

theorem removal_confined_to_output_linkedOutput :
    ∃ c, resolve (Machine.faultless.host linkedOutput) .builtin {} (some {}) = .ok c ∧
      let run (m : Machine) := ((⟨c, .recording, {}, false, m⟩ : Executor).execute
        [Action.cleanall.name] {}).runIn { files := linkedOutput }
      (run .faultless).1.isOk = true ∧
      (run .faultless).2.files.get? ["p", "build", "lib"] = none ∧
      (∀ k, ¬ ["p", "build"] <+: k → (run .faultless).2.files.get? k = linkedOutput.get? k) ∧
      (run .stuck).1.isOk = false ∧ (run .stuck).2.files.get? ["p", "build"] = some .dir ∧
      (run .stuck).2.files.get? ["p", "build", "lib"] = none ∧
      ∀ k, ¬ ["p", "build"] <+: k → (run .stuck).2.files.get? k = linkedOutput.get? k := by
  have facts : ((resolve (Machine.faultless.host linkedOutput) .builtin {} (some {})).toOption.map
      fun c =>
        let run (m : Machine) := ((⟨c, .recording, {}, false, m⟩ : Executor).execute
          [Action.cleanall.name] {}).runIn { files := linkedOutput }
        decide (c.projectDir = ⟨.root, ["p"]⟩ ∧ c.outputRoot = ⟨.root, ["p", "build"]⟩ ∧
          (run .faultless).1.isOk = true ∧ (run .stuck).2.files.get? ["p", "build"] = some .dir ∧
          (run .stuck).2.files.get? ["p", "build", "lib"] = none)) = some true := by
    decide +kernel
  obtain ⟨c, resolved, facts⟩ := Option.map_eq_some_iff.mp facts
  obtain ⟨project, output, success, stays, gone⟩ := of_decide_eq_true facts
  have ok := eq_ok_of_toOption resolved
  have root : outputRoot (Machine.faultless.host linkedOutput) {} c.projectDir =
      .ok c.outputRoot := by
    rw [project, output]
    decide +kernel
  have tree : IsTree linkedOutput := isTree_of_table (by decide +kernel)
  have working : IsWorkingDirectory linkedOutput Machine.faultless.cwd :=
    ⟨tree.hasWay rfl, by decide +kernel⟩
  have toProject : IsResolvable linkedOutput Machine.faultless.cwd ⟨.root, ["p"]⟩ := by
    unfold IsResolvable
    decide +kernel
  have toOutput : IsResolvable linkedOutput Machine.faultless.cwd
      (c.projectDir / Path.ofString "build") := by
    rw [project]
    unfold IsResolvable
    decide +kernel
  have confined (m : Machine) (same : m.host linkedOutput = Machine.faultless.host linkedOutput)
      (here : m.cwd = Machine.faultless.cwd) :=
    removal_confined_to_output (m := m) (same ▸ ok) (same ▸ root) tree (by decide +kernel)
      (here ▸ working) (here ▸ toProject) (here ▸ toOutput) .recording {} {}
      { files := linkedOutput } rfl
  obtain ⟨-, removed, -⟩ := confined .faultless rfl rfl
  obtain ⟨left, -⟩ := removed success
  obtain ⟨-, -, -, broken, fails⟩ := confined .stuck rfl rfl
  obtain ⟨cause, failed⟩ := fails .dir (by rw [output]; rfl) (.inr rfl)
  obtain ⟨-, kept⟩ := broken _ failed
  rw [output] at left kept
  exact ⟨c, ok, success, (left _).trans (if_pos (by decide)),
    fun k outside => (left k).trans (if_neg outside), congrArg Except.isOk failed, stays, gone,
    fun k outside => (kept k).resolve_right fun inside => outside inside.1⟩

/-- With a link that leads through itself to the project as the output directory, a removal that
succeeds removes the project, although the output directory is not one that the resolution sees to
contain it. -/
theorem project_removed_as_output :
    ∃ c, resolve (Machine.faultless.host spelledHost.files) .builtin {}
        (some { outputDir := "/e/lnk" }) = .ok c ∧
      c.projectDir = ⟨.root, ["p"]⟩ ∧ ¬ c.outputRoot.Covers c.projectDir ∧
      let run := ((⟨c, .recording, {}, false, .faultless⟩ : Executor).execute
        [Action.cleanall.name] {}).runIn { files := spelledHost.files }
      run.1.isOk = true ∧ spelledHost.files.get? ["p"] = some .dir ∧
        run.2.files.get? ["p"] = none := by
  have facts : ((resolve (Machine.faultless.host spelledHost.files) .builtin {}
      (some { outputDir := "/e/lnk" })).toOption.map fun c =>
        let run := ((⟨c, .recording, {}, false, .faultless⟩ : Executor).execute
          [Action.cleanall.name] {}).runIn { files := spelledHost.files }
        decide (c.projectDir = ⟨.root, ["p"]⟩ ∧ c.outputRoot = ⟨.doubleRoot, ["p"]⟩ ∧
          run.1.isOk = true ∧ run.2.files.get? ["p"] = none)) = some true := by
    decide +kernel
  obtain ⟨c, resolved, facts⟩ := Option.map_eq_some_iff.mp facts
  obtain ⟨project, output, success, gone⟩ := of_decide_eq_true facts
  refine ⟨c, eq_ok_of_toOption resolved, project, ?_, success, by decide +kernel, gone⟩
  rw [project, output]
  exact fun covers => absurd covers.1 (by decide)

end BuildPilot
