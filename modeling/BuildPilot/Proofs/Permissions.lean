import BuildPilot.Proofs.Publishing
import BuildPilot.Proofs.Selection

/-!
# Making built files executable

Pattern by pattern, the regular files that a pattern leads to below the build directory are made
executable, in order. Nothing else is changed, so that doing it again finds the same files and
changes nothing. If one of the files cannot be changed, exactly the files before it have been.
-/

namespace BuildPilot

open FileSystem

namespace FileSystem

variable {fs gs hs : FileSystem} {cwd l : Location} {p q dir : Path} {pattern : String}
  {done qs found : List Path}

/-! ## Files that are made executable -/

/-- The files that some paths lead to have been given the execute bits; all else is as before. -/
structure MadeExecutable (fs : FileSystem) (cwd : Location) (qs : List Path) (gs : FileSystem) :
    Prop where
  marked : ∀ q ∈ qs, ∀ l mode content, fs.find cwd true q = .entry l (.file mode content) →
    gs.get? l = some (.file (mode ||| executeBits) content)
  kept : ∀ k, (∀ q ∈ qs, ∀ mode content, fs.find cwd true q ≠ .entry k (.file mode content)) →
    gs.get? k = fs.get? k

namespace MadeExecutable

theorem refl (fs : FileSystem) (cwd : Location) : MadeExecutable fs cwd [] fs :=
  ⟨fun q hq => (by cases hq), fun _ _ => rfl⟩

/-- A location is one that a path leads to, or is as before. -/
theorem exists_or_kept (h : MadeExecutable fs cwd qs gs) (k : Location) :
    (∃ q ∈ qs, ∃ mode content, fs.find cwd true q = .entry k (.file mode content)) ∨
      gs.get? k = fs.get? k := by
  by_cases led : ∃ q ∈ qs, ∃ mode content, fs.find cwd true q = .entry k (.file mode content)
  · exact .inl led
  · exact .inr (h.kept k fun q hq mode content found => led ⟨q, hq, mode, content, found⟩)

theorem sameShape (h : MadeExecutable fs cwd qs gs) : SameShape fs gs := by
  intro k
  rcases h.exists_or_kept k with ⟨q, hq, mode, content, found⟩ | same
  · rw [h.marked q hq k mode content found, get?_of_find_file found]
    rfl
  · rw [same]

/-- A file has kept its content, and its mode up to the execute bits. -/
theorem get?_file (h : MadeExecutable fs cwd qs gs) {mode mode' : Nat}
    {content content' : List UInt8} (before : fs.get? l = some (.file mode content))
    (after : gs.get? l = some (.file mode' content')) :
    mode' ||| executeBits = mode ||| executeBits ∧ content' = content := by
  rcases h.exists_or_kept l with ⟨q, hq, m, c, found⟩ | same
  · have marked := h.marked q hq l m c found
    cases (get?_of_find_file found).symm.trans before
    cases marked.symm.trans after
    exact ⟨by rw [Nat.or_assoc, Nat.or_self], rfl⟩
  · cases before.symm.trans (same.symm.trans after)
    exact ⟨rfl, rfl⟩

/-- To make one more file executable, or one a second time. -/
theorem next (h : MadeExecutable fs cwd done gs) {mode : Nat} {content : List UInt8}
    (found : gs.find cwd true p = .entry l (.file mode content)) :
    MadeExecutable fs cwd (done ++ [p]) (gs.put l (.file (mode ||| executeBits) content)) := by
  have after : gs.get? l = some (.file mode content) := get?_of_find_file found
  have below : l ≠ [] := ne_nil_of_get? (by rw [after]; simp)
  obtain ⟨mode₀, content₀, found₀⟩ := h.sameShape.symm.find_eq_file found
  obtain ⟨bits, rfl⟩ := h.get?_file (get?_of_find_file found₀) after
  refine ⟨fun q hq k m c led => ?_, fun k away => ?_⟩
  · rw [get?_put gs below]
    by_cases hk : k = l
    · subst hk
      cases (get?_of_find_file led).symm.trans (get?_of_find_file found₀)
      rw [if_pos rfl, bits]
    · rw [if_neg hk]
      rcases List.mem_append.mp hq with hq | hq
      · exact h.marked q hq k m c led
      · obtain rfl := List.mem_singleton.mp hq
        cases led.symm.trans found₀
        exact absurd rfl hk
  · have hk : k ≠ l := by
      rintro rfl
      exact away p (by simp) _ _ found₀
    rw [get?_put gs below, if_neg hk]
    exact h.kept k fun q hq => away q (List.mem_append_left _ hq)

/-- To make some of the files executable again changes nothing. -/
theorem again (h : MadeExecutable fs cwd qs gs) {rs : List Path}
    (h' : MadeExecutable gs cwd rs hs) (subset : ∀ q ∈ rs, q ∈ qs) (k : Location) :
    hs.get? k = gs.get? k := by
  rcases h'.exists_or_kept k with ⟨q, hq, mode, content, found⟩ | same
  · obtain ⟨mode₀, content₀, found₀⟩ := h.sameShape.symm.find_eq_file found
    have after := h.marked q (subset q hq) k mode₀ content₀ found₀
    cases (get?_of_find_file found).symm.trans after
    rw [h'.marked q hq k _ _ found, after, Nat.or_assoc, Nat.or_self]
  · exact same

end MadeExecutable

/-! ## Files that a pattern leads to -/

/-- A pattern leads from a directory to a path. -/
def Finds (fs : FileSystem) (cwd : Location) (dir : Path) (pattern : String) (q : Path) : Prop :=
  ∃ ss, selectorsOf pattern = .ok ss ∧ Reaches fs cwd ss dir q

/-- The list of the regular files that a pattern leads to from a directory, in order and without
repetitions. For a pattern of one component they are the entries at any depth whose names match. -/
structure Lists (fs : FileSystem) (cwd : Location) (dir : Path) (pattern : String)
    (qs : List Path) : Prop where
  ordered : Ordered qs
  mem : ∀ q, q ∈ qs ↔ Finds fs cwd dir pattern q ∧ IsRegular fs cwd q
  component : IsComponent pattern → pattern ≠ "**" → IsTree fs → IsNamed fs →
    ∀ q, q ∈ qs ↔ HasMatch fs cwd dir pattern q ∧ IsRegular fs cwd q

/-- There is one list at most. -/
theorem Lists.eq {rs : List Path} (h : Lists fs cwd dir pattern qs)
    (h' : Lists fs cwd dir pattern rs) : qs = rs :=
  h.ordered.eq_of_mem_iff h'.ordered fun q => (h.mem q).trans (h'.mem q).symm

/-- The regular files among what a search has found. -/
def regular (fs : FileSystem) (cwd : Location) (found : List Path) : List Path :=
  found.filter fun q => IsRegular fs cwd q

theorem mem_regular : q ∈ regular fs cwd found ↔ q ∈ found ∧ IsRegular fs cwd q := by
  rw [regular, List.mem_filter, decide_eq_true_iff]

theorem SameShape.regular_eq (same : SameShape fs gs) (cwd : Location) (found : List Path) :
    regular gs cwd found = regular fs cwd found :=
  List.filter_congr fun _ _ => decide_eq_decide.mpr same.isRegular_iff

theorem lists_regular {ss : List Selector} (hss : selectorsOf pattern = .ok ss)
    (h : fs.search cwd ss dir = .ok found) : Lists fs cwd dir pattern (regular fs cwd found) := by
  obtain ⟨rest, rfl⟩ := exists_of_selectorsOf hss
  obtain ⟨ordered, mem⟩ := search_found h
  refine ⟨ordered.filter _, fun q => ?_, fun component stars tree named q => ?_⟩
  · rw [mem_regular, mem]
    refine and_congr_left fun _ => ⟨fun reaches => ⟨_, hss, reaches⟩, fun ⟨ss, hss', reaches⟩ => ?_⟩
    cases hss.symm.trans hss'
    exact reaches
  · rw [mem_regular]
    refine and_congr_left fun file => ?_
    rcases selectorsOf_component component hss with same | wild | ⟨fixed, name⟩
    · exact absurd same stars
    · cases wild
      exact mem_search_wild_iff tree named h
    · cases name
      rw [mem_search_name_iff tree component.2 fixed h]
      obtain ⟨l, mode, content, look⟩ := isRegular_iff_status.mp file
      exact and_iff_left ⟨_, _, look⟩

/-- A pattern can be searched for, and all that it leads to can be looked at: the regular files
among it are `qs`. -/
def Searched (fs : FileSystem) (cwd : Location) (dir : Path) (pattern : String)
    (qs : List Path) : Prop :=
  ∃ ss found, selectorsOf pattern = .ok ss ∧ fs.search cwd ss dir = .ok found ∧
    (∀ q ∈ found, ∃ seen, fs.status cwd q = .ok seen) ∧ qs = regular fs cwd found

theorem Searched.lists (h : Searched fs cwd dir pattern qs) : Lists fs cwd dir pattern qs := by
  obtain ⟨ss, found, hss, search, -, rfl⟩ := h
  exact lists_regular hss search

/-- Whatever modes and contents files have, the same is found. -/
theorem Searched.of_sameShape (h : Searched fs cwd dir pattern qs) (same : SameShape fs gs) :
    Searched gs cwd dir pattern qs := by
  obtain ⟨ss, found, hss, search, looks, rfl⟩ := h
  obtain ⟨rest, rfl⟩ := exists_of_selectorsOf hss
  refine ⟨_, found, hss, same.search_eq search, fun q hq => ?_, (same.regular_eq cwd found).symm⟩
  obtain ⟨seen, look⟩ := looks q hq
  exact same.exists_status look

/-- All that a pattern leads to can be looked at. -/
theorem Searched.look (h : Searched fs cwd dir pattern qs) (hq : Finds fs cwd dir pattern q) :
    ∃ seen, fs.status cwd q = .ok seen := by
  obtain ⟨ss, found, hss, search, looks, -⟩ := h
  obtain ⟨ss', hss', reaches⟩ := hq
  cases hss.symm.trans hss'
  obtain ⟨rest, rfl⟩ := exists_of_selectorsOf hss
  exact looks q (((search_found search).2 q).mpr reaches)

end FileSystem

namespace Executor

open Act

variable {x : Executor} {fs gs : FileSystem} {n : Nat} {s t : Session} {done front : List Path}
  {p : Path} {pattern : String}

/-! ## One file -/

/-- Why a run stops at a pattern, at the time `n`, when it has made some files of it executable: the
pattern is not one, or cannot be searched for, or something that it leads to cannot be looked at, or
the file that is next cannot be changed. -/
inductive Stops (x : Executor) (fs : FileSystem) (n : Nat) (pattern : String) :
    List Path → Failure → Prop
  | pattern {fault : PatternFault} (wrong : selectorsOf pattern = .error fault) :
      Stops x fs n pattern [] (.pattern fault)
  | search {ss : List Selector} {e : FileError} (good : selectorsOf pattern = .ok ss)
      (failed : ∀ found, fs.search x.machine.cwd ss x.config.buildDir ≠ .ok found) :
      Stops x fs n pattern [] (.file e)
  | look {front back : List Path} {p : Path} {e : FileError}
      (list : Lists fs x.machine.cwd x.config.buildDir pattern (front ++ back))
      (found : Finds fs x.machine.cwd x.config.buildDir pattern p)
      (failed : fs.status x.machine.cwd p = .error e) : Stops x fs n pattern front (.file e)
  | chmod {front back : List Path} {p : Path} {cause : ErrorCause}
      (list : Lists fs x.machine.cwd x.config.buildDir pattern (front ++ p :: back))
      (fault : x.machine.faults (n + front.length) .chmod = some cause) :
      Stops x fs n pattern front (.file (.system cause .unknown))

/-- A run of some patterns that starts at the time `n` stops at one of them, when it has made some
files executable: all those of the patterns before it, and some of its own. -/
inductive Interrupted (x : Executor) (fs : FileSystem) :
    Nat → List String → Failure → List Path → Prop
  | here {n : Nat} {pattern : String} {patterns : List String} {front : List Path} {e : Failure}
      (stops : x.Stops fs n pattern front e) : Interrupted x fs n (pattern :: patterns) e front
  | later {n : Nat} {pattern : String} {patterns : List String} {qs done : List Path} {e : Failure}
      (list : Lists fs x.machine.cwd x.config.buildDir pattern qs)
      (rest : Interrupted x fs (n + qs.length) patterns e done) :
      Interrupted x fs n (pattern :: patterns) e (qs ++ done)

/-- Where all patterns can be searched for, an interrupted run has changed some of their files. -/
theorem Interrupted.subset {n : Nat} {patterns : List String} {lists : List (List Path)}
    {e : Failure} (h : x.Interrupted fs n patterns e done)
    (all : patterns.Forall₂ (Searched fs x.machine.cwd x.config.buildDir) lists) :
    ∀ q ∈ done, q ∈ lists.flatten := by
  induction h generalizing lists with
  | here stops =>
    cases all with
    | cons searched rest =>
      intro q hq
      refine List.mem_append_left _ ?_
      cases stops with
      | pattern => cases hq
      | search => cases hq
      | look list =>
        rw [searched.lists.eq list]
        exact List.mem_append_left _ hq
      | chmod list =>
        rw [searched.lists.eq list]
        exact List.mem_append_left _ hq
  | later list rest ih =>
    cases all with
    | cons searched all =>
      intro q hq
      rw [searched.lists.eq list]
      exact (List.mem_append.mp hq).elim (List.mem_append_left _)
        fun hq => List.mem_append_right _ (ih all q hq)

/-- A run for a toolchain whose built files are named by the given patterns. -/
def marker (patterns : List String) : Executor :=
  ⟨{ debugging ⟨.root, ["p"]⟩ ⟨.root, ["p", "build"]⟩ with
      toolchain := { Registry.gcc with executablePatterns := patterns } },
    .recording, {}, false, .faultless⟩

/-- A build directory with a file that two names lead to, and with a link out of it. -/
def nested : FileSystem :=
  ⟨[(["out"], .dir), (["out", "x.exe"], .file 0o644 [0x78]), (["p"], .dir), (["p", "build"], .dir),
    (["p", "build", "gcc"], .dir), (["p", "build", "gcc", "Debug"], .dir),
    (["p", "build", "gcc", "Debug", "a.exe"], .file 0o640 [0x79]),
    (["p", "build", "gcc", "Debug", "b.exe"], .dir),
    (["p", "build", "gcc", "Debug", "b.exe", "c.dll"], .link "../a.exe"),
    (["p", "build", "gcc", "Debug", "lnk"], .link "/out")]⟩

end Executor

end BuildPilot
