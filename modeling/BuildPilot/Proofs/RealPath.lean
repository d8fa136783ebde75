import BuildPilot.FileSystem.RealPath

/-!
# Real paths

A real path is absolute and has no dots. Its anchor is the plain root, unless the search for it met
a loop of links: what is left of a path behind a loop may bring slashes of its own.
-/

namespace BuildPilot

/-- A name that is neither empty nor made of one or two dots. -/
def IsPlainName (n : String) : Prop := n ≠ "" ∧ n ≠ "." ∧ n ≠ ".."

instance (n : String) : Decidable (IsPlainName n) :=
  inferInstanceAs (Decidable (n ≠ "" ∧ n ≠ "." ∧ n ≠ ".."))

/-- A path that is absolute and has no dots among its components. -/
def Path.IsReal (p : Path) : Prop := p.isAbsolute = true ∧ ∀ n ∈ p.parts, IsPlainName n

namespace FileSystem

open Text

/-! ## Normal forms -/

theorem isPlainName_foldl {loc : Location} (h : ∀ n ∈ loc, IsPlainName n) (parts : List String) :
    ∀ n ∈ parts.foldl (fun loc name =>
      if name == "" || name == "." then loc
      else if name == ".." then loc.dropLast
      else loc ++ [name]) loc, IsPlainName n := by
  induction parts generalizing loc with
  | nil => exact h
  | cons name parts ih =>
    rw [List.foldl_cons]
    apply ih
    split
    · exact h
    · rename_i plain
      split
      · exact fun n hn => h n (List.dropLast_subset loc hn)
      · rename_i climbs
        intro n hn
        rcases List.mem_append.mp hn with hn | hn
        · exact h n hn
        · rw [List.mem_singleton] at hn
          subst hn
          simpa [IsPlainName, and_assoc] using And.intro plain climbs

theorem isPlainName_normalize (parts : List String) : ∀ n ∈ normalize parts, IsPlainName n :=
  isPlainName_foldl (by simp) parts

theorem isReal_resolved (fs : FileSystem) (cwd : Location) (p : Path) :
    (resolved fs cwd p).IsReal := by
  unfold resolved
  dsimp only
  generalize (fs.searchReal _ p).trail = t
  refine ⟨?_, isPlainName_normalize (t.base cwd ++ t.parts)⟩
  unfold Path.isAbsolute
  dsimp only
  split
  · rfl
  · simpa using ‹_›

theorem eq_resolved_of_realPath {fs : FileSystem} {cwd : Location} {p q : Path}
    (h : realPath fs cwd p = .ok q) : resolved fs cwd p = q := by
  unfold realPath at h
  split at h
  · cases h
  · dsimp only at h
    split at h
    · cases h
    · exact Except.ok.inj h

theorem isReal_of_realPath {fs : FileSystem} {cwd : Location} {p q : Path}
    (h : realPath fs cwd p = .ok q) : q.IsReal := by
  rw [← eq_resolved_of_realPath h]
  exact isReal_resolved fs cwd p

/-! ## Memory -/

/-- Each link that is remembered, and the trail that it was resolved to, are `good`. -/
def Seen.All (good : Trail → Trail → Prop) (seen : Seen) : Prop :=
  ∀ t known, seen.lookup t = some (some known) → good t known

theorem Seen.All.nil (good : Trail → Trail → Prop) : Seen.All good [] :=
  fun _ _ h => by cases h

theorem Seen.All.cons {good : Trail → Trail → Prop} {seen : Seen} {t : Trail}
    {entry : Option Trail} (h : seen.All good) (he : ∀ known, entry = some known → good t known) :
    Seen.All good ((t, entry) :: seen) := by
  intro u known hk
  rw [List.lookup_cons] at hk
  split at hk
  · rename_i same
    rw [eq_of_beq same]
    exact he known (by simpa using hk)
  · exact h u known hk

/-! ## Anchors -/

/-- The trails that are remembered do not start at the root written with two slashes. -/
def Seen.IsRooted (seen : Seen) : Prop :=
  ∀ t known, seen.lookup t = some (some known) → known.anchor ≠ .doubleRoot

/-- A search that went to its end did not get to the root written with two slashes. -/
def Search.IsRooted (found : Search) : Prop :=
  found.resolved = true → found.trail.anchor ≠ .doubleRoot ∧ Seen.IsRooted found.seen

theorem Seen.IsRooted.cons {seen : Seen} (h : seen.IsRooted) (t : Trail) {entry : Option Trail}
    (he : ∀ known, entry = some known → known.anchor ≠ .doubleRoot) :
    Seen.IsRooted ((t, entry) :: seen) :=
  Seen.All.cons h he

theorem Trail.anchor_up (t : Trail) : t.up.anchor = t.anchor := by
  unfold Trail.up Trail.child
  split <;> split <;> rfl

theorem isRooted_resolveWith {link? : Trail → Option String}
    {inner : Trail → String → Seen → Search}
    (hinner : ∀ t s seen, t.anchor ≠ .doubleRoot → Seen.IsRooted seen → (inner t s seen).IsRooted)
    (names : List String) : ∀ t seen, t.anchor ≠ .doubleRoot → Seen.IsRooted seen →
      (resolveWith link? inner t names seen).IsRooted := by
  induction names with
  | nil => exact fun t seen ht hseen _ => ⟨ht, hseen⟩
  | cons name rest ih =>
    intro t seen ht hseen
    unfold resolveWith
    dsimp only
    split
    · exact ih t seen ht hseen
    split
    · exact ih t.up seen (by rwa [t.anchor_up]) hseen
    split
    · exact ih (t.child name) seen ht hseen
    · rename_i target _
      split
      · rename_i known hknown
        exact ih known seen (hseen _ known hknown) hseen
      · exact fun h => by cases h
      · have hfound := hinner t target ((t.child name, none) :: seen) ht
          (hseen.cons _ fun _ h => by cases h)
        split
        · rename_i ended
          obtain ⟨htrail, hseen'⟩ := hfound ended
          exact ih _ _ htrail (hseen'.cons _ fun known h => by cases h; exact htrail)
        · exact fun h => by cases h

theorem isRooted_resolveText (link? : Trail → Option String) (depth : Nat) :
    ∀ t s seen, t.anchor ≠ .doubleRoot → Seen.IsRooted seen →
      (resolveText link? depth t s seen).IsRooted := by
  induction depth with
  | zero => exact fun t s seen _ _ h => by cases h
  | succ depth ih =>
    intro t s seen ht hseen
    unfold resolveText
    have hstart : (if isAbsoluteText s then ⟨.root, []⟩ else t : Trail).anchor ≠ .doubleRoot := by
      split
      · simp
      · exact ht
    exact isRooted_resolveWith ih (pieces '/' s) _ seen hstart hseen

/-- The search for the real path of a path goes to its end: it meets no loop of links. -/
def IsResolvable (fs : FileSystem) (cwd : Location) (p : Path) : Prop :=
  (fs.searchReal (fs.linkAt? cwd) p).resolved = true

theorem anchor_resolved {fs : FileSystem} {cwd : Location} {p : Path}
    (h : IsResolvable fs cwd p) : (resolved fs cwd p).anchor = .root := by
  have rooted := isRooted_resolveText (fs.linkAt? cwd) fs.searchDepth ⟨.here, []⟩ p.toString []
    (by simp) (fun _ _ h => by cases h) h
  change (fs.searchReal (fs.linkAt? cwd) p).trail.anchor ≠ .doubleRoot ∧ _ at rooted
  unfold resolved
  dsimp only
  split
  · rfl
  · rename_i elsewhere
    cases ha : (fs.searchReal (fs.linkAt? cwd) p).trail.anchor with
    | here => exact absurd ha elsewhere
    | root => rfl
    | doubleRoot => exact absurd ha rooted.1

end FileSystem

end BuildPilot
