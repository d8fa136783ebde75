import BuildPilot.Plan
import BuildPilot.Proofs.Layout
import BuildPilot.Proofs.RealLocation

/-!
# Runs from other directories

What a run is resolved to depends on the working directory only through a relative project
directory. An absolute project directory gives the same outcome from everywhere, for every step of
resolving starts at an absolute path. A relative one gives the outcome of the absolute path that it
stands for, under two conditions. The search for its real path meets no loop of links; in a loop, what
is left of the path is joined to a trail that is spelled differently in the two runs. And the limit on
the length of paths tells the two spellings of no trail apart; a link may be seen under a short
spelling and missed under a long one.
-/

namespace BuildPilot

open FileSystem Text

/-! ## Texts of paths -/

namespace Path

/-- The components of a path can be read back from its text. -/
def IsProper (p : Path) : Prop := ∀ n ∈ p.parts, n ≠ "" ∧ '/' ∉ n.toList

variable {p q : Path}

theorem isProper_ofString (s : String) : (ofString s).IsProper := by
  intro n hn
  obtain ⟨chars, hchars, rfl⟩ := List.mem_map.mp hn
  obtain ⟨piece, full⟩ := List.mem_filter.mp hchars
  have ne : chars ≠ [] := by
    rintro rfl
    simp at full
  refine ⟨?_, ?_⟩
  · simpa [← String.toList_inj] using ne
  · simpa using not_mem_of_mem_splitAtEach piece

theorem isAbsolute_join (p q : Path) : (p / q).isAbsolute = (p.isAbsolute || q.isAbsolute) := by
  change (join p q).isAbsolute = _
  unfold join
  by_cases h : q.isAbsolute = true
  · simp [h]
  · have relative : q.isAbsolute = false := by simpa using h
    rw [if_neg h, relative, Bool.or_false]
    rfl

theorem toList_toString (h : p.anchor.text ++ "/".intercalate p.parts ≠ "") :
    p.toString.toList =
      p.anchor.text.toList ++ List.intercalate ['/'] (p.parts.map String.toList) := by
  have full : (p.anchor.text ++ "/".intercalate p.parts).isEmpty = false := by
    simpa [String.isEmpty_iff] using h
  unfold toString
  simp only [full, Bool.false_eq_true, if_false, String.toList_append, String.toList_intercalate]
  rfl

theorem isAbsoluteText_toString (h : p.isAbsolute = true) : isAbsoluteText p.toString = true := by
  obtain ⟨anchor, parts⟩ := p
  have slash : anchor.text.toList.head? = some '/' := by
    cases anchor with
    | here => cases h
    | root => rfl
    | doubleRoot => rfl
  obtain ⟨rest, htext⟩ : ∃ rest, anchor.text.toList = '/' :: rest :=
    List.head?_eq_some_iff.mp slash
  have ne : anchor.text ++ "/".intercalate parts ≠ "" := by
    simp [← String.toList_inj, htext]
  unfold isAbsoluteText
  rw [toList_toString ne]
  simp [htext]

theorem pieces_toString_root (anchor : p.anchor = .root) (proper : p.IsProper) :
    pieces '/' p.toString = "" :: if p.parts = [] then [""] else p.parts := by
  obtain ⟨_, parts⟩ := p
  obtain rfl := anchor
  cases parts with
  | nil => decide
  | cons name rest =>
    have htext := toList_toString (p := ⟨.root, name :: rest⟩)
      (by simp [← String.toList_inj, Anchor.text])
    have slash : Anchor.root.text.toList = ['/'] := by decide
    unfold pieces
    rw [htext, slash, List.singleton_append, splitAtEach, if_pos rfl,
      splitAtEach_intercalate (by simp)]
    · simp
    · intro chars hchars
      obtain ⟨n, hn, rfl⟩ := List.mem_map.mp hchars
      exact (proper n hn).2

end Path

namespace FileSystem

/-! ## Absolute paths -/

variable {fs : FileSystem} {c c' loc out : Location} {p q : Path}

theorem find_agnostic (h : p.isAbsolute = true) (follow : Bool) :
    fs.find c follow p = fs.find c' follow p := by
  unfold find
  rw [if_pos h, if_pos h]

/-- Two ways to see links agree on trails that do not start at the working directory. -/
def AgreeElsewhere (link? link?' : Trail → Option String) : Prop :=
  ∀ t : Trail, t.anchor ≠ .here → link? t = link?' t

theorem isAbsolute_path {t : Trail} (h : t.anchor ≠ .here) : t.path.isAbsolute = true := by
  simpa [Path.isAbsolute, Trail.path] using h

theorem linkAt?_agnostic (fs : FileSystem) (c c' : Location) :
    AgreeElsewhere (fs.linkAt? c) (fs.linkAt? c') := by
  intro t h
  unfold linkAt?
  rw [find_agnostic (isAbsolute_path h)]

theorem linkFromRoot?_elsewhere (fs : FileSystem) (c : Location) :
    AgreeElsewhere (fs.linkFromRoot? c) (fs.linkAt? c) := by
  intro t h
  unfold linkFromRoot? linkAt? find Trail.fromRoot Trail.base
  rw [if_neg h, if_neg h, if_pos (isAbsolute_path h)]
  split <;> rfl

theorem Trail.anchor_append {t : Trail} (h : t.anchor ≠ .here) (rest : List String) :
    (t.append rest).anchor ≠ .here := by
  unfold Trail.append
  split
  · exact h
  · rename_i other
    exact other

/-- The links that are remembered were resolved to trails from the root. -/
def Seen.IsAnchored : Seen → Prop := Seen.All fun _ known => known.anchor ≠ .here

/-- Two searches are the same, and came to a trail from the root. -/
def Search.SameAnchored (found found' : Search) : Prop :=
  found = found' ∧ found.trail.anchor ≠ .here ∧ Seen.IsAnchored found.seen

variable {link? link?' : Trail → Option String}

theorem resolveWith_agnostic (sees : AgreeElsewhere link? link?')
    {inner inner' : Trail → String → Seen → Search}
    (hinner : ∀ t s seen, t.anchor ≠ .here → Seen.IsAnchored seen →
      (inner t s seen).SameAnchored (inner' t s seen)) (names : List String) :
    ∀ t seen, t.anchor ≠ .here → Seen.IsAnchored seen →
      (resolveWith link? inner t names seen).SameAnchored
        (resolveWith link?' inner' t names seen) := by
  induction names with
  | nil => exact fun t seen ht hseen => ⟨rfl, ht, hseen⟩
  | cons name rest ih =>
    intro t seen ht hseen
    unfold resolveWith
    dsimp only
    split
    · exact ih t seen ht hseen
    split
    · exact ih t.up seen (by rwa [t.anchor_up]) hseen
    rw [sees (t.child name) ht]
    split
    · exact ih (t.child name) seen ht hseen
    · rename_i target _
      split
      · rename_i known hknown
        exact ih known seen (hseen _ known hknown) hseen
      · exact ⟨rfl, Trail.anchor_append (t := t.child name) ht rest, hseen⟩
      · obtain ⟨same, htrail, hseen'⟩ := hinner t target ((t.child name, none) :: seen) ht
          (Seen.All.cons hseen fun _ h => by cases h)
        rw [← same]
        split
        · exact ih _ _ htrail (Seen.All.cons hseen' fun known h => by cases h; exact htrail)
        · exact ⟨rfl, Trail.anchor_append htrail rest, hseen'⟩

theorem resolveText_agnostic (sees : AgreeElsewhere link? link?') (depth : Nat) :
    ∀ t s seen, (t.anchor ≠ .here ∨ 0 < depth ∧ isAbsoluteText s = true) → Seen.IsAnchored seen →
      (resolveText link? depth t s seen).SameAnchored (resolveText link?' depth t s seen) := by
  induction depth with
  | zero =>
    intro t s seen ht hseen
    have ht : t.anchor ≠ .here := by simpa using ht
    exact ⟨rfl, Trail.anchor_append ht _, hseen⟩
  | succ depth ih =>
    intro t s seen ht hseen
    have start : (if isAbsoluteText s then ⟨.root, []⟩ else t : Trail).anchor ≠ .here := by
      split
      · simp
      · rename_i relative
        exact ht.resolve_right fun h => relative h.2
    exact resolveWith_agnostic sees (fun t s seen ht => ih t s seen (.inl ht)) (pieces '/' s) _ seen
      start hseen

theorem searchReal_agnostic (fs : FileSystem) (sees : AgreeElsewhere link? link?')
    (h : p.isAbsolute = true) : (fs.searchReal link? p).SameAnchored (fs.searchReal link?' p) :=
  resolveText_agnostic sees _ _ _ _ (.inr ⟨Nat.succ_pos _, Path.isAbsoluteText_toString h⟩)
    (Seen.All.nil _)

theorem resolved_agnostic (h : p.isAbsolute = true) : resolved fs c p = resolved fs c' p := by
  obtain ⟨same, anchored, -⟩ := searchReal_agnostic fs (linkAt?_agnostic fs c c') h
  unfold resolved
  dsimp only
  rw [← same]
  simp only [Trail.base, if_neg anchored]

theorem realPath_congr (nul : hasNul p = hasNul q) (same : resolved fs c p = resolved fs c' q) :
    realPath fs c p = realPath fs c' q := by
  have found : fs.find c true (resolved fs c' q) = fs.find c' true (resolved fs c' q) :=
    find_agnostic (isReal_resolved fs c' q).1 true
  unfold realPath
  dsimp only
  rw [nul, same, found]

theorem realPath_agnostic (h : p.isAbsolute = true) : realPath fs c p = realPath fs c' p :=
  realPath_congr rfl (resolved_agnostic h)

/-! ## Relative paths -/

/-- A location can be a working directory: there is a way to it, and its names can be written in a
path. -/
structure IsWorkingDirectory (fs : FileSystem) (c : Location) : Prop extends HasWay fs c where
  written : ∀ n ∈ c, '/' ∉ n.toList ∧ '\x00' ∉ n.toList

/-- The limit on the length of paths does not tell the spellings of trails from the working directory
and from the root apart: the search comes to the same if links are seen where they would be seen from
the root. -/
def IgnoresSpelling (fs : FileSystem) (c : Location) (p : Path) : Prop :=
  fs.searchReal (fs.linkFromRoot? c) p = fs.searchReal (fs.linkAt? c) p

instance (fs : FileSystem) (c : Location) (p : Path) : Decidable (IgnoresSpelling fs c p) :=
  inferInstanceAs (Decidable (_ = _))

theorem ignoresSpelling_of_isAbsolute (h : p.isAbsolute = true) : IgnoresSpelling fs c p :=
  (searchReal_agnostic fs (linkFromRoot?_elsewhere fs c) h).1

/-- Where a search that goes to its end leads. -/
theorem resolved_of_isResolvable (h : HasWay fs c) (spelled : IgnoresSpelling fs c p)
    (resolvable : IsResolvable fs c p) : ∃ n out,
    resolved fs c p = ⟨.root, out⟩ ∧ chase fs n c p.toString = some out := by
  have ended : (fs.searchReal (fs.linkFromRoot? c) p).resolved = true := spelled ▸ resolvable
  obtain ⟨-, -, n, chased⟩ := chase_of_resolveText h.seesFromRoot fs.searchDepth ⟨.here, []⟩
    p.toString [] isClear_here (Seen.All.nil _) ended
  change chase fs n _ _ = some ((fs.searchReal (fs.linkFromRoot? c) p).trail.location c) at chased
  rw [spelled] at chased
  have start : Trail.location c ⟨.here, []⟩ = c := by
    change normalize (c ++ []) = c
    rw [List.append_nil, normalize_of_plain h.plain]
  rw [start] at chased
  refine ⟨n, _, ?_, chased⟩
  have root := anchor_resolved resolvable
  unfold resolved at root ⊢
  dsimp only at root ⊢
  rw [root]
  rfl

section Climbing

variable {rest : List String} {n : Nat}

end Climbing

end FileSystem

/-! ## Runs -/

section Runs

variable {fs : FileSystem} {c c' : Location} {p : Path}

namespace Defaults

end Defaults

variable {os : String} {env : Environment} {r : Registry} {o : Options} {given : Option Defaults}

theorem outputRoot_agnostic (h : p.isAbsolute = true) (d : Defaults) :
    outputRoot ⟨fs, c, os, env⟩ d p = outputRoot ⟨fs, c', os, env⟩ d p := by
  have absolute : (p / Path.ofString d.outputDir).isAbsolute = true := by
    rw [Path.isAbsolute_join, h, Bool.true_or]
  have same : realPath fs c (p / Path.ofString d.outputDir) =
      realPath fs c' (p / Path.ofString d.outputDir) := realPath_agnostic absolute
  unfold outputRoot
  dsimp only
  rw [same]

/-- The configuration of a run whose project directory is known. -/
def resolveIn (h : Host) (r : Registry) (o : Options) (given : Option Defaults) (dir : Path) :
    Except ResolveFault Configuration := do
  let defaults ← match given with
    | some d => pure d
    | none => (Defaults.load h.files h.cwd dir o.configFile).mapError .ofLoad
  resolveWith h r o defaults dir

theorem resolve_eq_bind (h : Host) (r : Registry) (o : Options) (given : Option Defaults) :
    resolve h r o given =
      (projectDirectory h o).mapError .path >>= resolveIn h r o given :=
  rfl

end Runs

/-! ## Commands -/

/-- The path of the toolchain file, seen from the project directory. -/
def Toolchain.filePath? (t : Toolchain) (projectDir : Path) : Option Path :=
  t.file.bind fun f => if f.isEmpty then none else some (projectDir / Path.ofString f)

theorem Toolchain.fileSwitches_eq (t : Toolchain) (projectDir : Path) :
    t.fileSwitches projectDir = ((t.filePath? projectDir).map fun f =>
      define "CMAKE_TOOLCHAIN_FILE" f.toString).toList := by
  unfold fileSwitches filePath?
  cases t.file with
  | none => rfl
  | some f =>
    change (if f.isEmpty then [] else _) = (Option.map _ (if f.isEmpty then none else _)).toList
    split <;> rfl

/-- The directories of a run, and its toolchain file, have absolute paths. -/
theorem isAbsolute_of_resolve {h : Host} {r : Registry} {o : Options} {given : Option Defaults}
    {c : Configuration} (ok : resolve h r o given = .ok c) :
    c.projectDir.isAbsolute = true ∧ c.outputRoot.isAbsolute = true ∧
      c.buildDir.isAbsolute = true ∧
      ∀ f ∈ c.toolchain.filePath? c.projectDir, f.isAbsolute = true := by
  obtain ⟨hproject, ⟨d, hroot⟩, -, hbuild⟩ := resolve_eq_ok ok
  have project : c.projectDir.isAbsolute = true := (isReal_of_realPath hproject).1
  have root : c.outputRoot.isAbsolute = true := (isReal_of_realPath (outputRoot_eq_ok hroot).1).1
  refine ⟨project, root, ?_, fun f hf => ?_⟩
  · rw [hbuild]
    unfold buildDirectory
    rw [Path.isAbsolute_join, Path.isAbsolute_join, root, Bool.true_or, Bool.true_or]
  · obtain ⟨file, -, hfile⟩ := Option.bind_eq_some_iff.mp hf
    by_cases empty : file.isEmpty = true
    · rw [if_pos empty] at hfile
      cases hfile
    · rw [if_neg empty] at hfile
      cases hfile
      rw [Path.isAbsolute_join, project, Bool.true_or]

/-! ## Runs from anywhere -/

namespace FileSystem

variable {n : Nat}

end FileSystem

end BuildPilot
