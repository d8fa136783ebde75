import BuildPilot.Proofs.Effect
import BuildPilot.Proofs.Footprint
import BuildPilot.Proofs.PublishedDatabase

/-!
# Ways to publish

Every way that publishing the database can go, on any files and with any faults: whether the
database is a regular file, whether the published place is clear or can be cleared, and whether a
link or a copy can be put there. Publishing never fails, and it is a success exactly if the last of
these steps is.
-/

namespace BuildPilot

open FileSystem

namespace Act

variable {faults : Faults} {s : Session} {op : Operation}

theorem runIn_changeLeaving_of_ok {f : FileSystem → Except FileError FileSystem} {gs : FileSystem}
    (left : Nat → FileSystem → FileSystem)
    (h : faults.attempt s.clock op (f s.files) = .ok gs) :
    (changeLeaving left faults op f).runIn s =
      (.ok (.ok ()), { s with files := gs, clock := s.clock + 1 }) := by
  unfold changeLeaving
  rw [runIn_bind_ok (runIn_get s), h]
  rfl

theorem runIn_changeLeaving_of_error {f : FileSystem → Except FileError FileSystem} {e : FileError}
    (left : Nat → FileSystem → FileSystem)
    (h : faults.attempt s.clock op (f s.files) = .error e) :
    (changeLeaving left faults op f).runIn s =
      (.ok (.error e), { s with files := left s.clock s.files, clock := s.clock + 1 }) := by
  unfold changeLeaving
  rw [runIn_bind_ok (runIn_get s), h]
  rfl

theorem runIn_change_of_ok {f : FileSystem → Except FileError FileSystem} {gs : FileSystem}
    (h : faults.attempt s.clock op (f s.files) = .ok gs) :
    (change faults op f).runIn s =
      (.ok (.ok ()), { s with files := gs, clock := s.clock + 1 }) :=
  runIn_changeLeaving_of_ok _ h

theorem runIn_change_of_error {f : FileSystem → Except FileError FileSystem} {e : FileError}
    (h : faults.attempt s.clock op (f s.files) = .error e) :
    (change faults op f).runIn s = (.ok (.error e), { s with clock := s.clock + 1 }) :=
  runIn_changeLeaving_of_error _ h

end Act

namespace Executor

open Act

/-! ## The steps of a publication -/

/-- The files with a link to the database in the published place. -/
def linking (x : Executor) (fs : FileSystem) : Except FileError FileSystem :=
  (fs.makeLink x.machine.cwd x.config.publishedDatabase x.config.database.toString).mapError
    fun cause => .onPath cause x.config.publishedDatabase.toString

/-- The files with a copy of the database in the published place. -/
def copying (x : Executor) (fs : FileSystem) : Except FileError FileSystem :=
  fs.copy x.machine.cwd x.config.database x.config.publishedDatabase

/-- The files without the entry in the published place. -/
def unlinking (x : Executor) (fs : FileSystem) : Except FileError FileSystem :=
  (fs.unlink x.machine.cwd x.config.publishedDatabase).mapError
    fun cause => .onPath cause x.config.publishedDatabase.toString

/-- The database is seen to be a regular file. -/
def SeesDatabase (x : Executor) (fs : FileSystem) (n : Nat) : Prop :=
  x.machine.faults.attempt n .isFile (Document.isFileAt fs x.machine.cwd x.config.database) =
    .ok true

/-- Whether the published place is seen to be taken. -/
def seesOccupied (x : Executor) (fs : FileSystem) (n : Nat) : Except FileError Bool :=
  x.machine.faults.attempt n .isOccupied
    (isOccupied fs x.machine.cwd x.config.publishedDatabase)

/-- From the files `fs` at the time `n`, the published place is cleared by `gs` at the time `m`:
nothing was there, or what was there is removed. -/
inductive Clears (x : Executor) (fs : FileSystem) (n : Nat) : FileSystem → Nat → Prop
  | already (free : x.seesOccupied fs n = .ok false) : Clears x fs n fs n
  | removed {gs : FileSystem} (taken : x.seesOccupied fs n = .ok true)
      (done : x.machine.faults.attempt n .unlink (x.unlinking fs) = .ok gs) :
      Clears x fs n gs (n + 1)

/-- From the files `fs` at the time `n`, the last attempt to put the database in the published place
is a success, and leaves `gs`. It is a copy where files are copied, or where a link failed. -/
inductive Places (x : Executor) (fs : FileSystem) (n : Nat) : FileSystem → Prop
  | link {gs : FileSystem} (links : x.machine.copies = false)
      (done : x.machine.faults.attempt n .link (x.linking fs) = .ok gs) : Places x fs n gs
  | copy {gs : FileSystem} (copies : x.machine.copies = true)
      (done : x.machine.faults.attempt n .copy (x.copying fs) = .ok gs) : Places x fs n gs
  | copyInstead {gs : FileSystem} {e : FileError} (links : x.machine.copies = false)
      (failed : x.machine.faults.attempt n .link (x.linking fs) = .error e)
      (done : x.machine.faults.attempt (n + 1) .copy (x.copying fs) = .ok gs) : Places x fs n gs

/-- From the files `fs` at the time `n`, all steps of a publication are successes, and leave `gs`. -/
def Publishes (x : Executor) (fs : FileSystem) (n : Nat) (gs : FileSystem) : Prop :=
  x.SeesDatabase fs n ∧ ∃ mid m, x.Clears fs n mid m ∧ x.Places mid m gs

variable {x : Executor} {fs gs mid mid' : FileSystem} {n m m' : Nat} {k l : Location} {s : Session}

theorem Clears.unique (h : x.Clears fs n mid m) (h' : x.Clears fs n mid' m') :
    mid = mid' ∧ m = m' := by
  cases h with
  | already free =>
    cases h' with
    | already => exact ⟨rfl, rfl⟩
    | removed taken => cases free.symm.trans taken
  | removed taken done =>
    cases h' with
    | already free => cases free.symm.trans taken
    | removed taken' done' =>
      cases done.symm.trans done'
      exact ⟨rfl, rfl⟩

/-- A publication from the files `fs` at the time `n` fails, and leaves `gs`: either all is as before,
or the published place was cleared and nothing could be put there. -/
inductive Leaves (x : Executor) (fs : FileSystem) (n : Nat) : FileSystem → Prop
  | unchanged (never : ∀ gs, ¬ x.Publishes fs n gs) : Leaves x fs n fs
  | cleared {mid : FileSystem} {m : Nat} (sees : x.SeesDatabase fs n)
      (clears : x.Clears fs n mid m) (fails : ∀ gs, ¬ x.Places mid m gs) : Leaves x fs n mid

theorem Leaves.not_publishes (h : x.Leaves fs n gs) : ∀ hs, ¬ x.Publishes fs n hs := by
  cases h with
  | unchanged never => exact never
  | cleared sees clears fails =>
    rintro hs ⟨-, mid, m, clears', places⟩
    obtain ⟨rfl, rfl⟩ := clears.unique clears'
    exact fails hs places

/-! ## Runs of the steps -/

/-- After a link that could not be made, the database is copied. -/
def copyUnlessLinked (x : Executor) (linked : Except FileError Unit) : Act (Except FileError Unit) :=
  match linked with
  | .ok _ => return .ok ()
  | .error _ => change x.machine.faults .copy x.copying

theorem placeDatabase_of_copies (copies : x.machine.copies = true) :
    x.placeDatabase = change x.machine.faults .copy x.copying := by
  unfold placeDatabase
  rw [copies]
  rfl

theorem placeDatabase_of_links (links : x.machine.copies = false) :
    x.placeDatabase = change x.machine.faults .link x.linking >>= x.copyUnlessLinked := by
  unfold placeDatabase
  rw [links]
  rfl

theorem placeDatabase_cases (x : Executor) (s : Session) :
    (∃ gs n, x.placeDatabase.runIn s = (.ok (.ok ()), { s with files := gs, clock := n }) ∧
      x.Places s.files s.clock gs) ∨
    ∃ e n, x.placeDatabase.runIn s = (.ok (.error e), { s with clock := n }) ∧
      ∀ gs, ¬ x.Places s.files s.clock gs := by
  cases copies : x.machine.copies with
  | true =>
    rw [placeDatabase_of_copies copies]
    cases hcopy : x.machine.faults.attempt s.clock .copy (x.copying s.files) with
    | ok gs => exact .inl ⟨gs, s.clock + 1, runIn_change_of_ok hcopy, .copy copies hcopy⟩
    | error e =>
      refine .inr ⟨e, s.clock + 1, runIn_change_of_error hcopy, fun gs places => ?_⟩
      cases places <;> simp_all
  | false =>
    rw [placeDatabase_of_links copies]
    cases hlink : x.machine.faults.attempt s.clock .link (x.linking s.files) with
    | ok gs =>
      rw [runIn_bind_ok (runIn_change_of_ok hlink)]
      exact .inl ⟨gs, s.clock + 1, rfl, .link copies hlink⟩
    | error e =>
      rw [runIn_bind_ok (runIn_change_of_error hlink)]
      unfold copyUnlessLinked
      dsimp only
      cases hcopy : x.machine.faults.attempt (s.clock + 1) .copy (x.copying s.files) with
      | ok gs =>
        exact .inl ⟨gs, s.clock + 2, runIn_change_of_ok hcopy, .copyInstead copies hlink hcopy⟩
      | error e' =>
        refine .inr ⟨e', s.clock + 2, runIn_change_of_error hcopy, fun gs places => ?_⟩
        cases places <;> simp_all

theorem freeTarget_cases (x : Executor) (s : Session) :
    (∃ mid n, x.freeTarget.runIn s = (.ok (.ok ()), { s with files := mid, clock := n }) ∧
      x.Clears s.files s.clock mid n) ∨
    ∃ e n, x.freeTarget.runIn s = (.ok (.error e), { s with clock := n }) ∧
      ∀ mid n, ¬ x.Clears s.files s.clock mid n := by
  unfold freeTarget
  dsimp only
  rw [runIn_bind_ok (runIn_look _ _ _ s)]
  cases sees : x.seesOccupied s.files s.clock with
  | error e =>
    refine .inr ⟨e, s.clock, ?_, fun mid n clears => ?_⟩
    · unfold seesOccupied at sees
      rw [sees]
      rfl
    · cases clears <;> simp_all
  | ok taken =>
    have seen := sees
    unfold seesOccupied at sees
    rw [sees]
    cases taken with
    | false => exact .inl ⟨s.files, s.clock, rfl, .already seen⟩
    | true =>
      cases hunlink : x.machine.faults.attempt s.clock .unlink (x.unlinking s.files) with
      | ok mid =>
        exact .inl ⟨mid, s.clock + 1, runIn_change_of_ok hunlink, .removed seen hunlink⟩
      | error e =>
        refine .inr ⟨e, s.clock + 1, runIn_change_of_error hunlink, fun mid n clears => ?_⟩
        cases clears <;> simp_all

theorem replaceDatabase_cases (x : Executor) (s : Session) :
    (∃ gs n, x.replaceDatabase.runIn s = (.ok (.ok true), { s with files := gs, clock := n }) ∧
      x.Publishes s.files s.clock gs) ∨
    ∃ r gs n, r ≠ .ok true ∧
      x.replaceDatabase.runIn s = (.ok r, { s with files := gs, clock := n }) ∧
      x.Leaves s.files s.clock gs := by
  unfold replaceDatabase
  rw [runIn_bind_ok (runIn_look _ _ _ s)]
  by_cases sees : x.SeesDatabase s.files s.clock
  · have seen := sees
    unfold SeesDatabase at sees
    rw [sees]
    dsimp only
    rcases x.freeTarget_cases s with ⟨mid, n, freed, clears⟩ | ⟨e, n, kept, never⟩
    · rw [runIn_bind_ok freed]
      dsimp only
      rcases x.placeDatabase_cases { s with files := mid, clock := n } with
        ⟨gs, m, placed, places⟩ | ⟨e, m, failed, fails⟩
      · refine .inl ⟨gs, m, ?_, seen, mid, n, clears, places⟩
        rw [runIn_bind_ok placed]
        rfl
      · refine .inr ⟨.error e, mid, m, by simp, ?_, .cleared seen clears fails⟩
        rw [runIn_bind_ok failed]
        rfl
    · refine .inr ⟨.error e, s.files, n, by simp, ?_, .unchanged ?_⟩
      · rw [runIn_bind_ok kept]
        rfl
      · rintro gs ⟨-, mid, m, clears, -⟩
        exact never mid m clears
  · have stays : x.Leaves s.files s.clock s.files := .unchanged fun gs h => sees h.1
    refine .inr ?_
    unfold SeesDatabase at sees
    split
    · exact ⟨_, s.files, s.clock, by simp, rfl, stays⟩
    · exact ⟨_, s.files, s.clock, by simp, rfl, stays⟩
    · exact absurd ‹_› sees

/-- What a publication that is a success is reported by. -/
def publishedText (x : Executor) : String :=
  s!"Published {x.config.database} -> {x.config.publishedDatabase}"

/-- Publishing gives the published place and reports a detail, or gives nothing and warns once. -/
theorem publish_cases (x : Executor) (s : Session) :
    (∃ gs n, x.publish.runIn s = (.ok (some x.config.publishedDatabase), { s with
        files := gs, clock := n, printed := s.printed ++ x.console.debug x.publishedText }) ∧
      x.Publishes s.files s.clock gs) ∨
    ∃ gs n text, x.publish.runIn s = (.ok none, { s with
        files := gs, clock := n, printed := s.printed ++ x.console.warning text }) ∧
      x.Leaves s.files s.clock gs := by
  unfold publish
  dsimp only
  rcases x.replaceDatabase_cases s with ⟨gs, n, replaced, publishes⟩ | ⟨r, gs, n, hr, kept, leaves⟩
  · refine .inl ⟨gs, n, ?_, publishes⟩
    rw [runIn_bind_ok replaced]
    exact runIn_bind_ok (runIn_print _ _) _
  · refine .inr ⟨gs, n, ?_⟩
    rw [runIn_bind_ok kept]
    match r, hr with
    | .error e, _ => exact ⟨_, runIn_bind_ok (runIn_print _ _) _, leaves⟩
    | .ok false, _ => exact ⟨_, runIn_bind_ok (runIn_print _ _) _, leaves⟩

/-! ## What the steps change -/

theorem Clears.eq_or_erase (h : x.Clears fs n mid m) :
    mid = fs ∨ ∃ l e, x.publicPlace? fs = some l ∧ fs.get? l = some e ∧ e ≠ .dir ∧
      mid = fs.erase l := by
  cases h with
  | already => exact .inl rfl
  | removed taken done =>
    obtain ⟨l, e, found, hdir, rfl⟩ := unlink_eq_ok (mapError_eq_ok (eq_of_attempt done))
    exact .inr ⟨l, e, place?_of_find found rfl, get?_of_find found hdir, hdir, rfl⟩

theorem Clears.frees (h : x.Clears fs n mid m) : x.Frees fs (x.publicPlace? fs) mid := by
  cases h with
  | already free => exact frees_of_unoccupied (eq_of_attempt free)
  | removed taken done => exact frees_of_unlink (mapError_eq_ok (eq_of_attempt done))

/-- A file that is there after clearing was there before. -/
theorem Clears.get?_file (h : x.Clears fs n mid m) {mode : Nat} {content : List UInt8}
    (file : mid.get? k = some (.file mode content)) : fs.get? k = some (.file mode content) := by
  rcases h.eq_or_erase with rfl | ⟨l, e, -, there, hdir, rfl⟩
  · exact file
  · have hl : l ≠ [] := ne_nil_of_get? (by rw [there]; simpa using hdir)
    rw [get?_erase fs hl] at file
    split at file
    · cases file
    · exact file

theorem status_eq_none {cwd : Location} {p : Path} (nul : hasNul p = false)
    (h : fs.status cwd p = .ok none) (e : Entry) : fs.find cwd true p ≠ .entry l e := by
  intro found
  unfold status at h
  rw [nul, found] at h
  cases h

/-- When the published place is clear, its path leads to no file. -/
theorem Clears.vacant (h : x.Clears fs n mid m) (clean : hasNul x.config.publishedDatabase = false)
    (mode : Nat) (content : List UInt8) :
    mid.find x.machine.cwd true x.config.publishedDatabase ≠ .entry k (.file mode content) := by
  intro found
  cases h with
  | already free =>
    have free := eq_of_attempt free
    unfold isOccupied at free
    split at free
    · cases free
    · obtain ⟨there, hthere, free⟩ := bind_eq_ok free
      cases there with
      | none => exact status_eq_none clean hthere _ found
      | some => cases free
  | removed taken done =>
    have done := mapError_eq_ok (eq_of_attempt done)
    obtain ⟨l, e, found', hdir, rfl⟩ := unlink_eq_ok done
    have hl : l ≠ [] := ne_nil_of_get? (by rw [get?_of_find found' hdir]; simpa using hdir)
    have place : x.publicPlace? fs = some l := place?_of_find found' rfl
    have here := (frees_of_unlink done).1 true k (by rw [found]; rfl)
    obtain rfl : l = k := Option.some.inj (place.symm.trans here)
    have gone := get?_of_find_file found
    rw [get?_erase fs hl, if_pos rfl] at gone
    cases gone

/-- What is copied to the published place when it is clear is a new file. -/
theorem Clears.get?_eq_none_of_copy (h : x.Clears fs n mid m)
    (clean : hasNul x.config.publishedDatabase = false) (copied : x.copying mid = .ok gs)
    (changed : gs.get? k ≠ mid.get? k) : x.publicPlace? fs = some k ∧ mid.get? k = none := by
  have place := h.frees.1.changesOnly_copy copied k changed
  refine ⟨place, ?_⟩
  obtain ⟨content, written, -, wrote, -⟩ := copy_eq_ok copied
  obtain ⟨l, mode, free | ⟨old, file⟩, -⟩ := writeAt_eq_ok wrote
  · have here := h.frees.1 true l (by rw [free]; rfl)
    obtain rfl : k = l := Option.some.inj (place.symm.trans here)
    exact get?_of_find_absent free
  · exact absurd file (h.vacant clean mode old)

/-- The only file that putting the database in its place may write is a new one there. -/
theorem Places.get?_file (h : x.Places mid m gs) (clears : x.Clears fs n mid m)
    (clean : hasNul x.config.publishedDatabase = false) {mode : Nat} {content : List UInt8}
    (file : gs.get? k = some (.file mode content)) (new : mid.get? k ≠ some (.file mode content)) :
    x.publicPlace? fs = some k ∧ mid.get? k = none := by
  have changed : gs.get? k ≠ mid.get? k := fun same => new (same ▸ file)
  cases h with
  | link _ done =>
    obtain ⟨l, free, rfl⟩ := makeLink_eq_ok (mapError_eq_ok (eq_of_attempt done))
    have hl : l ≠ [] := ne_nil_of_get? (by rw [get?_of_find_absent free]; simp)
    rw [get?_put mid hl] at file
    split at file
    · cases file
    · exact absurd file new
  | copy _ done => exact clears.get?_eq_none_of_copy clean (eq_of_attempt done) changed
  | copyInstead _ _ done => exact clears.get?_eq_none_of_copy clean (eq_of_attempt done) changed

theorem hasNul_publishedDatabase (clean : hasNul x.config.projectDir = false) :
    hasNul x.config.publishedDatabase = false := by
  have parts : x.config.publishedDatabase.parts = x.config.projectDir.parts ++ [databaseName] := rfl
  unfold hasNul at clean ⊢
  rw [parts, List.any_append, clean, Bool.false_or]
  decide

/-! ## The whole publication -/

/-- Publishing never fails. It gives the published place, with a detail and no warning, exactly if
all its steps are successes; else it gives nothing and warns once. No other entry than the one in
the published place changes, and a file that was not there before is one that was created there,
once the place was clear. If the database is no regular file, no files change. -/
theorem publish_touches_one_entry (clean : hasNul x.config.projectDir = false) (s : Session) :
    let run := x.publish.runIn s
    (run.1 = .ok (some x.config.publishedDatabase) ∧
        x.Publishes s.files s.clock run.2.files ∧
        run.2.printed = s.printed ++ x.console.debug x.publishedText ∨
      run.1 = .ok none ∧ (∀ gs, ¬ x.Publishes s.files s.clock gs) ∧
        ∃ text, run.2.printed = s.printed ++ x.console.warning text) ∧
    run.2.events = s.events ∧ run.2.noted = s.noted ∧
    ChangesOnly s.files run.2.files (x.publicPlace? s.files = some ·) ∧
    (∀ k mode content, run.2.files.get? k = some (.file mode content) →
      s.files.get? k ≠ some (.file mode content) →
      x.publicPlace? s.files = some k ∧
        ∃ mid m, x.Clears s.files s.clock mid m ∧ mid.get? k = none) ∧
    (Document.isFileAt s.files x.machine.cwd x.config.database ≠ .ok true →
      run.2.files = s.files) := by
  intro run
  have only : ChangesOnly s.files run.2.files (x.publicPlace? s.files = some ·) :=
    publish_onFiles s rfl
  have missing (h : Document.isFileAt s.files x.machine.cwd x.config.database ≠ .ok true) :
      run.2.files = s.files := (publish_of_missing h s rfl).1
  have target := hasNul_publishedDatabase clean
  rcases x.publish_cases s with ⟨gs, n, hrun, publishes⟩ | ⟨gs, n, text, hrun, leaves⟩
  · have hrun : run = _ := hrun
    rw [hrun] at only missing ⊢
    refine ⟨.inl ⟨rfl, publishes, rfl⟩, rfl, rfl, only, fun k mode content file new => ?_, missing⟩
    obtain ⟨-, mid, m, clears, places⟩ := publishes
    have placed := places.get?_file clears target file fun old => new (clears.get?_file old)
    exact ⟨placed.1, mid, m, clears, placed.2⟩
  · have hrun : run = _ := hrun
    rw [hrun] at only missing ⊢
    refine ⟨.inr ⟨rfl, leaves.not_publishes, text, rfl⟩, rfl, rfl, only,
      fun k mode content file new => ?_, missing⟩
    -- no file is new, since at most the published place was cleared
    cases leaves with
    | unchanged => exact absurd file new
    | cleared _ clears => exact absurd (clears.get?_file file) new

/-- A project with a database, and a link out of the project in the published place. -/
def linkedPlace : FileSystem :=
  ⟨(["o"], .file 0o644 [0x78]) :: (["p", databaseName], .link "/o") :: builtHost.files.table⟩

/-- A publication that copies to where a link is: the link is replaced, and what it led to is left
alone. -/
theorem publish_touches_one_entry_linkedPlace :
    let x : Executor := ⟨debugging ⟨.root, ["p"]⟩ ⟨.root, ["p", "build"]⟩, .recording, {}, false,
      { Machine.faultless with copies := true }⟩
    let run := x.publish.runIn { files := linkedPlace }
    hasNul x.config.projectDir = false ∧ run.1 = .ok (some x.config.publishedDatabase) ∧
    run.2.files.get? ["o"] = some (.file 0o644 [0x78]) ∧
    run.2.files.get? ["p", databaseName] = some (.file 0o644 [0x5b, 0x5d]) := by
  intro x run
  have clean : hasNul x.config.projectDir = false := by decide +kernel
  have published : run.2.files.get? ["p", databaseName] = some (.file 0o644 [0x5b, 0x5d]) := by
    decide +kernel
  obtain ⟨answer, -, -, only, -, -⟩ := publish_touches_one_entry clean { files := linkedPlace }
  refine ⟨clean, ?_, ?_, published⟩
  · rcases answer with ⟨ok, -⟩ | ⟨failed, never, -⟩
    · exact ok
    · have ok : run.1.toOption = some (some x.config.publishedDatabase) := by decide +kernel
      rw [failed] at ok
      cases ok
  · exact only.get?_eq (by decide +kernel : x.publicPlace? linkedPlace ≠ some ["o"])

/-- If publishing gives nothing, the files are as before, unless the database was seen, the entry in
the published place was removed, and then nothing could be put there: then this entry is gone. If
publishing gives the published place and the way to the database does not come by that place, the
database is the same file as before. -/
theorem publish_keeps_entry_and_database (x : Executor) (s : Session) :
    let run := x.publish.runIn s
    (run.1 = .ok none → run.2.files = s.files ∨
      x.SeesDatabase s.files s.clock ∧ ∃ l e m, x.publicPlace? s.files = some l ∧
        s.files.get? l = some e ∧ e ≠ .dir ∧ x.Clears s.files s.clock (s.files.erase l) m ∧
        (∀ gs, ¬ x.Places (s.files.erase l) m gs) ∧ run.2.files = s.files.erase l) ∧
    ∀ target, run.1 = .ok (some target) →
      (∀ k, x.publicPlace? s.files = some k →
        ¬ s.files.ComesBy x.machine.cwd x.config.database k) →
      ∃ l mode content,
        s.files.find x.machine.cwd true x.config.database = .entry l (.file mode content) ∧
        run.2.files.find x.machine.cwd true x.config.database = .entry l (.file mode content) := by
  intro run
  have only : ChangesOnly s.files run.2.files (x.publicPlace? s.files = some ·) :=
    publish_onFiles s rfl
  rcases x.publish_cases s with ⟨gs, n, hrun, publishes⟩ | ⟨gs, n, text, hrun, leaves⟩
  · have hrun : run = _ := hrun
    refine ⟨fun none => ?_, fun target _ apart => ?_⟩
    · rw [hrun] at none
      cases none
    · obtain ⟨-, l, mode, content, found⟩ := isFileAt_eq_true (eq_of_attempt publishes.1)
      have same : run.2.files.find x.machine.cwd true x.config.database =
          s.files.find x.machine.cwd true x.config.database :=
        find_of_agree fun k hk => only.get?_eq fun place => apart k place hk
      exact ⟨l, mode, content, found, same.trans found⟩
  · have hrun : run = _ := hrun
    rw [hrun]
    refine ⟨fun _ => ?_, fun target ok => by cases ok⟩
    cases leaves with
    | unchanged => exact .inl rfl
    | cleared sees clears fails =>
      rcases clears.eq_or_erase with rfl | ⟨l, e, place, there, hdir, rfl⟩
      · exact .inl rfl
      · exact .inr ⟨sees, l, e, _, place, there, hdir, clears, fails, rfl⟩

/-- A project with a database, and an older one in the published place. -/
def replacing : FileSystem :=
  ⟨(["p", databaseName], .file 0o644 [0x78]) :: builtHost.files.table⟩

/-- A run in that project; links and copies cannot be made if it is `full`. -/
def replacement (full : Bool) : Executor :=
  ⟨debugging ⟨.root, ["p"]⟩ ⟨.root, ["p", "build"]⟩, .recording, {}, false,
    { Machine.faultless with
      faults := fun _ op => if full && (op == .link || op == .copy) then some .noSpace else none }⟩

theorem not_link_replacing (l : Location) (target : String) :
    replacing.get? l ≠ some (.link target) := by
  intro link
  have mem := mem_table_of_link link
  simp [replacing, builtHost] at mem

/-- Without links and copies the older database is removed and nothing comes in its place; with them
the new one is published, and the database itself is untouched. -/
theorem publish_keeps_entry_and_database_replacing :
    let failed := (replacement true).publish.runIn { files := replacing }
    let done := (replacement false).publish.runIn { files := replacing }
    let database := (replacement false).config.database
    failed.1 = .ok none ∧ failed.2.files = replacing.erase ["p", databaseName] ∧
    done.1 = .ok (some (replacement false).config.publishedDatabase) ∧
    done.2.files.find ["p"] true database =
      .entry database.parts (.file 0o644 [0x5b, 0x5d]) := by
  intro failed done database
  have first := (publish_keeps_entry_and_database (replacement true) { files := replacing }).1
  have second := (publish_keeps_entry_and_database (replacement false) { files := replacing }).2
  have none : failed.1 = .ok none := by rfl
  have some : done.1 = .ok (some (replacement false).config.publishedDatabase) := by rfl
  have gone : failed.2.files ≠ replacing := by decide +kernel
  obtain ⟨-, l, e, m, place, -, -, -, -, left⟩ := (first none).resolve_left gone
  have apart : ∀ k, (replacement false).publicPlace? replacing = .some k →
      ¬ replacing.ComesBy ["p"] database k := by
    intro k place comes
    obtain rfl : k = ["p", databaseName] := Option.some.inj (place.symm.trans (by decide +kernel))
    obtain ⟨zs, le, same⟩ := comes.exists_prefix (by decide +kernel)
      fun zs _ target => not_link_replacing _ target
    obtain rfl : zs = ["p", databaseName] := same.symm
    exact absurd le (by decide +kernel)
  have here : replacing.find ["p"] true database =
      .entry database.parts (.file 0o644 [0x5b, 0x5d]) := by decide +kernel
  obtain ⟨l', mode, content, before, after⟩ := second _ some apart
  refine ⟨none, ?_, some, after.trans (before.symm.trans here)⟩
  obtain rfl : l = ["p", databaseName] := Option.some.inj (place.symm.trans (by decide +kernel))
  exact left

/-- A project whose database is a link to the published place. -/
def circling : FileSystem :=
  ⟨(["p", databaseName], .file 0o644 [0x78]) ::
    (["p", "build", "gcc", "Debug", databaseName], .link "/p/compile_commands.json") ::
    builtHost.files.table⟩

/-- Publishing may give nothing and lose the entry in the published place; and it may give that place
and leave a database that can no longer be read. -/
theorem publish_loses_entry_or_database :
    (let run := (replacement true).publish.runIn { files := replacing };
      run.1 = .ok none ∧ replacing.get? ["p", databaseName] = some (.file 0o644 [0x78]) ∧
      run.2.files.get? ["p", databaseName] = none) ∧
    let run := (replacement false).publish.runIn { files := circling }
    run.1 = .ok (some (replacement false).config.publishedDatabase) ∧
    circling.read ["p"] (replacement false).config.database = .ok [0x78] ∧
    run.2.files.read ["p"] (replacement false).config.database = .error .linkLoop := by
  exact ⟨⟨rfl, by decide +kernel, by decide +kernel⟩, rfl, by decide +kernel, by decide +kernel⟩

end Executor

end BuildPilot
