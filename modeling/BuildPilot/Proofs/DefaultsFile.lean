import BuildPilot.Proofs.DefaultsTable
import BuildPilot.Proofs.Escape
import BuildPilot.Proofs.Footprint
import BuildPilot.Proofs.Publication

/-!
# The file of defaults

Defaults come from one file at most. A file that is asked for is the only one that counts, whatever
else the project holds. Otherwise it is the one of four files in the project directory that exists;
two of them are too many, and without any of them the fixed defaults hold.
-/

namespace BuildPilot

open FileSystem Document Text

/-! ## Looks at paths -/

namespace FileSystem

variable {fs gs : FileSystem} {cwd loc : Location} {p : Path} {follow : Bool} {n : Nat}
  {names : List String} {cause : ErrorCause}

/-- A regular file is at a path, links followed. -/
def IsRegular (fs : FileSystem) (cwd : Location) (p : Path) : Prop :=
  hasNul p = false ∧ ∃ l mode content, fs.find cwd true p = .entry l (.file mode content)

/-- A path cannot be looked at, as it is too long or comes by a name that is. -/
def IsTooLong (fs : FileSystem) (cwd : Location) (p : Path) : Prop :=
  hasNul p = false ∧ fs.find cwd true p = .failed .nameTooLong

instance (fs : FileSystem) (cwd : Location) (p : Path) : Decidable (IsTooLong fs cwd p) :=
  inferInstanceAs (Decidable (_ ∧ _))

theorem isFileAt_of_isRegular (h : IsRegular fs cwd p) : isFileAt fs cwd p = .ok true := by
  obtain ⟨clean, l, mode, content, found⟩ := h
  unfold isFileAt status
  rw [clean, found]
  rfl

theorem isRegular_iff : IsRegular fs cwd p ↔ (isFileAt fs cwd p).toOption = some true :=
  ⟨fun h => by rw [isFileAt_of_isRegular h]; rfl,
    fun h => Executor.isFileAt_eq_true (eq_ok_of_toOption h)⟩

instance (fs : FileSystem) (cwd : Location) (p : Path) : Decidable (IsRegular fs cwd p) :=
  decidable_of_iff _ isRegular_iff.symm

/-- Unless a name is too long, a walk that comes to nothing means that nothing is there. -/
theorem Walks.meansAbsent {s : Sight} (h : Walks fs follow n loc names s) (hs : s = .failed cause) :
    cause = .nameTooLong ∨ cause.meansAbsent = true := by
  induction h with
  | arrived => cases hs
  | stay _ _ ih | up _ ih | down _ _ _ ih | jump _ _ _ _ ih => exact ih hs
  | landed =>
    unfold landing at hs
    split at hs <;> cases hs
  | stuck why =>
    cases hs
    cases why with
    | long => exact .inl rfl
    | lost | blocked | tired => exact .inr rfl

theorem meansAbsent_of_find (h : fs.find cwd follow p = .failed cause) :
    cause = .nameTooLong ∨ cause.meansAbsent = true := by
  unfold find at h
  split at h
  · cases h
    exact .inl rfl
  · exact (walks_walk fs follow maxLinks _ _).meansAbsent h

/-- A look at a path that is not too long tells whether a regular file is there. -/
theorem isFileAt_eq (look : ¬ IsTooLong fs cwd p) :
    isFileAt fs cwd p = .ok (decide (IsRegular fs cwd p)) := by
  by_cases regular : IsRegular fs cwd p
  · rw [isFileAt_of_isRegular regular, decide_eq_true regular]
  rw [decide_eq_false regular]
  unfold isFileAt status
  cases clean : hasNul p with
  | true => rfl
  | false =>
    cases found : fs.find cwd true p with
    | entry l e =>
      cases e with
      | file mode content => exact absurd ⟨clean, l, mode, content, found⟩ regular
      | _ => rfl
    | absent l => rfl
    | failed cause =>
      rcases meansAbsent_of_find found with rfl | absent
      · exact absurd ⟨clean, found⟩ look
      · rw [if_neg Bool.false_ne_true]
        dsimp only
        rw [if_pos absent]
        rfl

theorem isFileAt_of_isTooLong (long : IsTooLong fs cwd p) :
    isFileAt fs cwd p = .error (.onPath .nameTooLong p.toString) := by
  unfold isFileAt status
  rw [long.1, long.2]
  rfl

end FileSystem

/-! ## Candidates -/

/-- A filter whose test never fails keeps what passes the test. -/
theorem filterM_eq_ok {ε α : Type} {f : α → Except ε Bool} {g : α → Bool} {l : List α}
    (h : ∀ a ∈ l, f a = .ok (g a)) : l.filterM f = .ok (l.filter g) := by
  have aux : ∀ acc, l.filterAuxM f acc = .ok ((l.filter g).reverse ++ acc) := by
    induction l with
    | nil => exact fun acc => rfl
    | cons a l ih =>
      intro acc
      have rest := ih fun b hb => h b (List.mem_cons_of_mem a hb)
      unfold List.filterAuxM
      rw [h a List.mem_cons_self]
      change l.filterAuxM f _ = _
      rw [rest]
      cases hg : g a <;> simp [hg]
  unfold List.filterM
  rw [aux]
  simp [bind, Except.bind, pure, Except.pure]

namespace Defaults

variable {fs gs : FileSystem} {cwd : Location} {projectDir p requested : Path} {doc : Document}
  {source : Option String} {d : Defaults}

/-- The names that a file of defaults may have in the project directory. -/
def fileNames : List String :=
  ["buildfront.toml", "buildfront.json", "buildfront.yaml", "buildfront.yml"]

/-- The paths that a file of defaults may have in a project directory. -/
def places (projectDir : Path) : List Path := fileNames.map projectDir.child

/-- The files of defaults in a project directory. -/
def filesIn (fs : FileSystem) (cwd : Location) (projectDir : Path) : List Path :=
  (places projectDir).filter fun p => IsRegular fs cwd p

/-- The four paths in a project directory can be looked at. -/
def InSight (fs : FileSystem) (cwd : Location) (projectDir : Path) : Prop :=
  ∀ p ∈ places projectDir, ¬ IsTooLong fs cwd p

instance (fs : FileSystem) (cwd : Location) (projectDir : Path) :
    Decidable (InSight fs cwd projectDir) :=
  inferInstanceAs (Decidable (∀ p ∈ places projectDir, _))

theorem candidates_eq (projectDir : Path) :
    candidates projectDir defaultsStem [] = places projectDir := by
  have names : (standardSuffixes.map fun suffix => Path.ofString (defaultsStem ++ lower suffix)) =
      fileNames.map fun name => ⟨.here, [name]⟩ := by
    decide +kernel
  have joined := congrArg (List.map fun q => projectDir / q) names
  rw [List.map_map, List.map_map] at joined
  exact joined

theorem findDocument_eq (look : InSight fs cwd projectDir) :
    findDocument fs cwd projectDir defaultsStem [] =
      .ok (Search.ofPaths (filesIn fs cwd projectDir)) := by
  unfold findDocument
  rw [candidates_eq, filterM_eq_ok fun p hp => isFileAt_eq (look p hp)]
  rfl

theorem load_none (look : InSight fs cwd projectDir) :
    load fs cwd projectDir none = match Search.ofPaths (filesIn fs cwd projectDir) with
      | .none => .ok {}
      | .one p => loadFile fs cwd p
      | .several names => .error (.rejected (.several names) none) := by
  unfold load
  dsimp only
  rw [findDocument_eq look]
  change (match Search.ofPaths (filesIn fs cwd projectDir) with
    | .none => _
    | .one p => _
    | .several names => _) = _
  cases Search.ofPaths (filesIn fs cwd projectDir) <;> rfl

theorem load_none_of_isTooLong (long : IsTooLong fs cwd (projectDir.child "buildfront.toml")) :
    load fs cwd projectDir none =
      .error (.file (.onPath .nameTooLong (projectDir.child "buildfront.toml").toString)) := by
  unfold load findDocument
  dsimp only
  rw [candidates_eq, places, fileNames, List.map_cons, List.filterM, List.filterAuxM,
    isFileAt_of_isTooLong long]
  rfl

/-! ## One file -/

/-- A file holds a document, in the notation that its suffix names. -/
def Holds (fs : FileSystem) (cwd : Location) (p : Path) (doc : Document) : Prop :=
  ∃ format bs, Format.ofSuffix? (lower p.suffix) = some format ∧ fs.read cwd p = .ok bs ∧
    format.read bs = .ok doc

/-- The file is to blame: it cannot be read, or the defaults in it are wrong. -/
inductive IsFaulty (fs : FileSystem) (cwd : Location) (p : Path) : Prop
  | unread {e : SourceFault} (bad : readDocument fs cwd p = .error e)
      (blamed : e.unblamed? = none)
  | invalid {doc : Document} {f : DefaultsFault} (read : readDocument fs cwd p = .ok doc)
      (bad : ofDocument (some p.toString) doc = .error f) (writable : f ≠ .longNumber)

/-- There is no file of defaults at a path: no regular file at all, or one with another suffix, or
one with a document that is neither a mapping nor null. -/
inductive IsMisfit (fs : FileSystem) (cwd : Location) (p : Path) : Prop
  | missing (h : ¬ IsRegular fs cwd p)
  | unsupported (h : Format.ofSuffix? (lower p.suffix) = none)
  | notMapping {doc : Document} (holds : Holds fs cwd p doc)
      (full : doc.resolved doc.root ≠ .null) (other : ∀ es, doc.resolved doc.root ≠ .map es)

/-- Loading ends with the fault of a file of defaults. -/
def IsRejected (r : Except LoadFault Defaults) : Prop :=
  ∃ fault source, r = .error (.rejected fault source)

theorem not_isRejected_ok (d : Defaults) : ¬ IsRejected (.ok d) := nofun

theorem loadFile_of_missing (look : ¬ IsTooLong fs cwd p) (missing : ¬ IsRegular fs cwd p) :
    loadFile fs cwd p = .error (.rejected .missing (some p.toString)) := by
  unfold loadFile
  rw [isFileAt_eq look, decide_eq_false missing]
  rfl

theorem loadFile_of_isTooLong (long : IsTooLong fs cwd p) :
    loadFile fs cwd p = .error (.file (.onPath .nameTooLong p.toString)) := by
  unfold loadFile
  rw [isFileAt_of_isTooLong long]
  rfl

theorem loadFile_of_fault (regular : IsRegular fs cwd p) {e : SourceFault}
    (bad : readDocument fs cwd p = .error e) :
    loadFile fs cwd p = .error (unreadable p.toString e) := by
  unfold loadFile
  rw [isFileAt_of_isRegular regular, bad]
  rfl

theorem loadFile_of_document (regular : IsRegular fs cwd p)
    (read : readDocument fs cwd p = .ok doc) : loadFile fs cwd p =
      (ofDocument (some p.toString) doc).mapError (.ofDefaults (some p.toString)) := by
  unfold loadFile
  rw [isFileAt_of_isRegular regular, read]
  rfl

theorem loadFile_of_find (same : gs.find cwd true p = fs.find cwd true p) :
    loadFile gs cwd p = loadFile fs cwd p := by
  unfold loadFile isFileAt status readDocument FileSystem.read
  rw [same]

/-- Of a regular file only the content matters. -/
theorem loadFile_of_read {c : Location} (regular : IsRegular fs cwd p) (regular' : IsRegular gs c p)
    (same : gs.read c p = fs.read cwd p) : loadFile gs c p = loadFile fs cwd p := by
  unfold loadFile readDocument
  rw [isFileAt_of_isRegular regular, isFileAt_of_isRegular regular', same]

theorem Holds.readDocument_eq (holds : Holds fs cwd p doc) (regular : IsRegular fs cwd p) :
    readDocument fs cwd p = asMapping p doc := by
  obtain ⟨format, bs, suffix, content, read⟩ := holds
  unfold readDocument
  simp only [suffix, regular.1, content, read, Bool.false_eq_true, if_false]

theorem isRejected_unreadable_iff {path : String} {e : SourceFault} :
    IsRejected (.error (unreadable path e)) ↔ e.unblamed? = none := by
  cases e with
  | malformed r =>
    unfold unreadable SourceFault.unblamed?
    dsimp only
    by_cases blamed : r.isBlamed = true
    · rw [if_pos blamed, if_pos blamed]
      exact iff_of_true ⟨_, _, rfl⟩ rfl
    · rw [if_neg blamed, if_neg blamed]
      refine iff_of_false ?_ (Option.some_ne_none r)
      rintro ⟨fault, source, rejected⟩
      cases rejected
  | _ => exact iff_of_true ⟨_, _, rfl⟩ rfl

theorem isRejected_ofDocument_iff {r : Except DefaultsFault Defaults} :
    IsRejected (r.mapError (.ofDefaults source)) ↔ ∃ f, r = .error f ∧ f ≠ .longNumber := by
  constructor
  · rintro ⟨fault, origin, rejected⟩
    cases r with
    | ok d => cases rejected
    | error f =>
      refine ⟨f, rfl, ?_⟩
      rintro rfl
      cases rejected
  · rintro ⟨f, rfl, writable⟩
    cases f with
    | longNumber => exact absurd rfl writable
    | _ => exact ⟨_, _, rfl⟩

/-- A regular file is rejected exactly if it is to blame. -/
theorem isRejected_loadFile_iff (regular : IsRegular fs cwd p) :
    IsRejected (loadFile fs cwd p) ↔ IsFaulty fs cwd p := by
  cases read : readDocument fs cwd p with
  | error e =>
    rw [loadFile_of_fault regular read, isRejected_unreadable_iff]
    constructor
    · exact .unread read
    · rintro (⟨bad, blamed⟩ | ⟨ok, -, -⟩)
      · rw [read] at bad
        cases bad
        exact blamed
      · rw [read] at ok
        cases ok
  | ok doc =>
    rw [loadFile_of_document regular read, isRejected_ofDocument_iff]
    constructor
    · rintro ⟨f, bad, writable⟩
      exact .invalid read bad writable
    · rintro (⟨bad, -⟩ | ⟨ok, bad, writable⟩)
      · rw [read] at bad
        cases bad
      · rw [read] at ok
        cases ok
        exact ⟨_, bad, writable⟩

theorem isRejected_of_isMisfit (look : ¬ IsTooLong fs cwd p) (h : IsMisfit fs cwd p) :
    IsRejected (loadFile fs cwd p) := by
  by_cases regular : IsRegular fs cwd p
  · rw [isRejected_loadFile_iff regular]
    cases h with
    | missing missing => exact absurd regular missing
    | unsupported suffix =>
      have bad : readDocument fs cwd p = .error (.unsupported (lower p.suffix)) := by
        unfold readDocument
        dsimp only
        rw [suffix]
      exact .unread bad rfl
    | @notMapping doc holds full other =>
      have bad : readDocument fs cwd p = .error (.notMapping p.toString) := by
        rw [holds.readDocument_eq regular]
        unfold asMapping
        split
        · rename_i null
          exact absurd null full
        · rename_i es map
          exact absurd map (other es)
        · rfl
      exact .unread bad rfl
  · rw [loadFile_of_missing look regular]
    exact ⟨_, _, rfl⟩

/-! ## Documents without a table -/

theorem ofDocument_empty (source : Option String) (doc : Document) :
    ofDocument source { doc with root := .map [] } = .ok { source := source } := by
  have accepted : IsAccepted { doc with root := .map [] } :=
    { table := nofun, keys := nofun, texts := fun _ _ => nofun, counts := fun _ _ => nofun }
  have writable : HasWritableKeys { doc with root := .map [] } := nofun
  exact (ofDocument_eq_ok_iff writable).mpr ⟨accepted, rfl⟩

theorem loadFile_of_null (regular : IsRegular fs cwd p) (holds : Holds fs cwd p doc)
    (null : doc.resolved doc.root = .null) :
    loadFile fs cwd p = .ok { source := some p.toString } := by
  have read : readDocument fs cwd p = .ok { doc with root := .map [] } := by
    rw [holds.readDocument_eq regular, asMapping, null]
  rw [loadFile_of_document regular read, ofDocument_empty]
  rfl

/-- A YAML file without content holds null. -/
theorem holds_of_emptyYaml (suffix : Format.ofSuffix? (lower p.suffix) = some .yaml)
    (empty : fs.read cwd p = .ok []) :
    ∃ doc, Holds fs cwd p doc ∧ doc.resolved doc.root = .null := by
  have read : Format.read .yaml [] = .ok ⟨.null, []⟩ := rfl
  exact ⟨⟨.null, []⟩, ⟨.yaml, [], suffix, empty, read⟩, rfl⟩

/-- Defaults that a file gives tell their file. -/
theorem source_of_loadFile (regular : IsRegular fs cwd p) (loaded : loadFile fs cwd p = .ok d) :
    d.source = some p.toString := by
  cases read : readDocument fs cwd p with
  | error e =>
    rw [loadFile_of_fault regular read] at loaded
    cases loaded
  | ok doc =>
    rw [loadFile_of_document regular read] at loaded
    have ok := mapError_eq_ok loaded
    exact source_of_ofDocument (hasWritableKeys_of_ok ok) ok

/-! ## Loading -/

/-- The defaults of a project come from this file: it is asked for, or it is the only one there. -/
inductive IsChosen (fs : FileSystem) (cwd : Location) (projectDir : Path) :
    Option Path → Path → Prop
  | requested {requested : Path}
      (regular : IsRegular fs cwd (requestedPath projectDir requested)) :
      IsChosen fs cwd projectDir (some requested) (requestedPath projectDir requested)
  | only {p : Path} (look : InSight fs cwd projectDir) (only : filesIn fs cwd projectDir = [p]) :
      IsChosen fs cwd projectDir none p

theorem isRegular_of_mem_filesIn (h : p ∈ filesIn fs cwd projectDir) : IsRegular fs cwd p :=
  of_decide_eq_true (List.mem_filter.mp h).2

variable {choice : Option Path}

theorem IsChosen.isRegular (h : IsChosen fs cwd projectDir choice p) : IsRegular fs cwd p := by
  cases h with
  | requested regular => exact regular
  | only look only => exact isRegular_of_mem_filesIn (by rw [only]; exact List.mem_cons_self)

theorem IsChosen.load_eq (h : IsChosen fs cwd projectDir choice p) :
    load fs cwd projectDir choice = loadFile fs cwd p := by
  cases h with
  | requested => rfl
  | only look only => rw [load_none look, only, Search.ofPaths]

theorem load_none_eq_standard_iff (look : InSight fs cwd projectDir) :
    load fs cwd projectDir none = .ok {} ↔ filesIn fs cwd projectDir = [] := by
  rw [load_none look]
  match files : filesIn fs cwd projectDir with
  | [] => exact iff_of_true rfl rfl
  | [p] =>
    refine iff_of_false (fun loaded => ?_) (List.cons_ne_nil p [])
    have regular : IsRegular fs cwd p :=
      isRegular_of_mem_filesIn (by rw [files]; exact List.mem_cons_self)
    have source := source_of_loadFile regular loaded
    cases source
  | p :: q :: rest => exact iff_of_false nofun (List.cons_ne_nil p (q :: rest))

theorem isRejected_load_none_iff (look : InSight fs cwd projectDir) :
    IsRejected (load fs cwd projectDir none) ↔ 1 < (filesIn fs cwd projectDir).length ∨
      ∃ p, filesIn fs cwd projectDir = [p] ∧ IsFaulty fs cwd p := by
  match files : filesIn fs cwd projectDir with
  | [] =>
    rw [load_none look, files]
    exact iff_of_false (not_isRejected_ok {}) (by simp)
  | [p] =>
    have chosen : IsChosen fs cwd projectDir none p := .only look files
    rw [chosen.load_eq, isRejected_loadFile_iff chosen.isRegular]
    simp
  | p :: q :: rest =>
    rw [load_none look, files]
    exact iff_of_true ⟨_, _, rfl⟩ (.inl (by simp))

/-- The defaults of a project come from one file at most. If a file is asked for, nothing matters
but what the way to it comes by, and it is rejected if it is no file of defaults. Otherwise the
fixed defaults hold exactly if none of the four files in the project directory exists, and a fault
is told exactly if several do, or if the only one is to blame. Of the chosen file only the content
matters: its document gives the defaults, null or an empty text of YAML gives the fixed ones, and a
failure to read it that it is not blamed for is passed on. -/
theorem load_from_one_file (fs : FileSystem) (cwd : Location) (projectDir : Path) :
    (∀ requested gs,
      (∀ k, fs.ComesBy cwd (requestedPath projectDir requested) k → gs.get? k = fs.get? k) →
      load gs cwd projectDir (some requested) = load fs cwd projectDir (some requested)) ∧
    (∀ requested, ¬ IsTooLong fs cwd (requestedPath projectDir requested) →
      IsMisfit fs cwd (requestedPath projectDir requested) →
      IsRejected (load fs cwd projectDir (some requested))) ∧
    (InSight fs cwd projectDir →
      (load fs cwd projectDir none = .ok {} ↔ filesIn fs cwd projectDir = []) ∧
      (IsRejected (load fs cwd projectDir none) ↔ 1 < (filesIn fs cwd projectDir).length ∨
        ∃ p, filesIn fs cwd projectDir = [p] ∧ IsFaulty fs cwd p)) ∧
    ∀ choice p, IsChosen fs cwd projectDir choice p →
      (∀ gs c, IsChosen gs c projectDir choice p → gs.read c p = fs.read cwd p →
        load gs c projectDir choice = load fs cwd projectDir choice) ∧
      (∀ doc, readDocument fs cwd p = .ok doc → load fs cwd projectDir choice =
        (ofDocument (some p.toString) doc).mapError (.ofDefaults (some p.toString))) ∧
      (∀ r, readDocument fs cwd p = .error (.malformed r) → r.isBlamed = false →
        load fs cwd projectDir choice = .error (.escaped r)) ∧
      (∀ doc, Holds fs cwd p doc → doc.resolved doc.root = .null →
        load fs cwd projectDir choice = .ok { source := some p.toString }) ∧
      (Format.ofSuffix? (lower p.suffix) = some .yaml → fs.read cwd p = .ok [] →
        load fs cwd projectDir choice = .ok { source := some p.toString }) := by
  refine ⟨fun requested gs agree => ?_, fun requested look misfit => ?_, fun look => ?_,
    fun choice p chosen => ⟨fun gs c chosen' same => ?_, fun doc read => ?_, fun r bad other => ?_,
      fun doc holds null => ?_, fun suffix empty => ?_⟩⟩
  · exact loadFile_of_find (find_of_agree agree)
  · exact isRejected_of_isMisfit look misfit
  · exact ⟨load_none_eq_standard_iff look, isRejected_load_none_iff look⟩
  · rw [chosen'.load_eq, chosen.load_eq, loadFile_of_read chosen.isRegular chosen'.isRegular same]
  · rw [chosen.load_eq, loadFile_of_document chosen.isRegular read]
  · rw [chosen.load_eq, loadFile_of_fault chosen.isRegular bad, unreadable, if_neg]
    rw [other]
    exact Bool.false_ne_true
  · rw [chosen.load_eq, loadFile_of_null chosen.isRegular holds null]
  · obtain ⟨doc, holds, null⟩ := holds_of_emptyYaml suffix empty
    rw [chosen.load_eq, loadFile_of_null chosen.isRegular holds null]

/-- A project in the directory `/p` with an empty file of defaults, and nothing else. -/
def emptyDefaults : FileSystem :=
  ⟨[(["p"], .dir), (["p", "buildfront.yaml"], .file 0o644 [])]⟩

/-- That project with a file of defaults more, which holds a single opening bracket. -/
def twoDefaults : FileSystem :=
  emptyDefaults.put ["p", "buildfront.toml"] (.file 0o644 [0x5b])

theorem load_from_one_file_emptyYaml :
    let project : Path := ⟨.root, ["p"]⟩
    let d : Defaults := { source := some "/p/buildfront.yaml" }
    load emptyDefaults ["p"] project none = .ok d ∧
    load twoDefaults ["p"] project (some ⟨.here, ["buildfront.yaml"]⟩) = .ok d ∧
    IsRejected (load twoDefaults ["p"] project none) ∧
    load .empty ["p"] project none = .ok {} ∧
    IsRejected (load .empty ["p"] project (some ⟨.here, ["ci.toml"]⟩)) := by
  intro project d
  obtain ⟨alone, -, -, chosen⟩ := load_from_one_file emptyDefaults ["p"] project
  obtain ⟨-, -, both, -⟩ := load_from_one_file twoDefaults ["p"] project
  obtain ⟨-, misfit, nothing, -⟩ := load_from_one_file .empty ["p"] project
  have suffix : Format.ofSuffix? (lower (Path.mk .root ["p", "buildfront.yaml"]).suffix) =
      some .yaml := by
    decide +kernel
  have only : IsChosen emptyDefaults ["p"] project none ⟨.root, ["p", "buildfront.yaml"]⟩ :=
    .only (by decide +kernel) (by decide +kernel)
  have requested : IsChosen emptyDefaults ["p"] project (some ⟨.here, ["buildfront.yaml"]⟩)
      ⟨.root, ["p", "buildfront.yaml"]⟩ :=
    .requested (by decide +kernel)
  have agree : ∀ k, emptyDefaults.ComesBy ["p"] ⟨.root, ["p", "buildfront.yaml"]⟩ k →
      twoDefaults.get? k = emptyDefaults.get? k := by
    intro k comes
    have unlinked : ∀ l target, emptyDefaults.get? l ≠ some (.link target) := by
      intro l target link
      simpa [emptyDefaults] using mem_table_of_link link
    obtain ⟨zs, le, rfl⟩ := comes.exists_prefix (by decide) fun zs _ => unlinked _
    rw [twoDefaults, get?_put _ (by decide), if_neg]
    rintro rfl
    exact absurd le (by decide)
  have accepted := (chosen _ _ requested).2.2.2.2 suffix rfl
  refine ⟨(chosen _ _ only).2.2.2.2 suffix rfl, ?_, ?_, ?_, ?_⟩
  · exact (alone ⟨.here, ["buildfront.yaml"]⟩ twoDefaults agree).trans accepted
  · exact (both (by decide +kernel)).2.mpr (.inl (by decide +kernel))
  · exact (nothing (by decide +kernel)).1.mpr (by decide +kernel)
  · exact misfit _ (by decide +kernel) (.missing (by decide +kernel))

/-- A project with a file of JSON that holds null. -/
def nullDefaults : FileSystem :=
  ⟨[(["p"], .dir), (["p", "ci.json"], .file 0o644 "null".toUTF8.data.toList)]⟩

/-- A name that is too long for a file. -/
def longName : String := String.ofList (List.replicate 256 'a')

theorem hasNul_longName (before behind : List String) (anchor : Anchor) :
    hasNul ⟨anchor, before ++ longName :: behind⟩ = (hasNul ⟨anchor, before ++ behind⟩) := by
  have clean : longName.toList.contains '\x00' = false := by
    have chars : longName.toList = List.replicate 256 'a' := String.toList_ofList
    rw [chars, List.contains_replicate]
    rfl
  simp only [hasNul, List.any_append, List.any_cons, clean, Bool.false_or]

/-- Null in another notation is accepted as well, and neither a file that is asked for nor one in
the project directory is told to be missing if its path is too long. -/
theorem nullDocument_accepted :
    load nullDefaults ["p"] ⟨.root, ["p"]⟩ (some ⟨.here, ["ci.json"]⟩) =
      .ok { source := some "/p/ci.json" } ∧
    load emptyDefaults ["p"] ⟨.root, ["p"]⟩ (some ⟨.here, [longName]⟩) =
      .error (.file (.onPath .nameTooLong (Path.mk .root ["p", longName]).toString)) ∧
    load emptyDefaults ["p"] ⟨.root, [longName]⟩ none =
      .error (.file (.onPath .nameTooLong
        (Path.mk .root [longName, "buildfront.toml"]).toString)) := by
  refine ⟨by decide +kernel, ?_, ?_⟩
  · have clean := hasNul_longName ["p"] [] .root
    exact loadFile_of_isTooLong ⟨clean.trans (by decide +kernel), by decide +kernel⟩
  · have clean := hasNul_longName [] ["buildfront.toml"] .root
    exact load_none_of_isTooLong ⟨clean.trans (by decide +kernel), by decide +kernel⟩

end Defaults

end BuildPilot
