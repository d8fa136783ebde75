import BuildPilot.Text.Split

/-!
# File systems

A file system is a table from locations to entries. A location lists the names from the root
down; the root itself is always a directory. Symbolic links hold the text that they point to.

`FileSystem.get?` is the view of a file system through which everything else is stated: what
`put`, `erase`, `eraseTree` and `eraseSome` do to it is said by one lemma each.
-/

namespace BuildPilot

/-- The names on the way from the root to an entry. -/
abbrev Location := List String

/-- What a location may hold. -/
inductive Entry where
  | dir
  | file (mode : Nat) (content : List UInt8)
  | link (target : String)
deriving DecidableEq, Repr

namespace Entry

/-- Whether an entry is a directory. -/
def isDir : Entry → Bool
  | dir => true
  | _ => false

/-- Whether an entry is a regular file. -/
def isFile : Entry → Bool
  | file _ _ => true
  | _ => false

end Entry

/-- A table from locations to entries, in which the first pair for a location counts. -/
structure FileSystem where
  table : List (Location × Entry)
deriving DecidableEq, Repr

namespace FileSystem

/-- The file system that holds the root only. -/
def empty : FileSystem := ⟨[]⟩

/-- The entry at a location. -/
def get? (fs : FileSystem) (loc : Location) : Option Entry :=
  if loc = [] then some .dir else fs.table.lookup loc

/-- The file system with an entry at a location, in place of any entry that was there. -/
def put (fs : FileSystem) (loc : Location) (e : Entry) : FileSystem :=
  ⟨(loc, e) :: fs.table.filter fun p => p.1 != loc⟩

/-- The file system without the entry at a location. -/
def erase (fs : FileSystem) (loc : Location) : FileSystem :=
  ⟨fs.table.filter fun p => p.1 != loc⟩

/-- The file system without the entries at and below a location. -/
def eraseTree (fs : FileSystem) (loc : Location) : FileSystem :=
  ⟨fs.table.filter fun p => !loc.isPrefixOf p.1⟩

/-- Whether everything from a location on is `gone`, and the location lies strictly below another. -/
def isLost (fs : FileSystem) (loc : Location) (gone : Location → Bool) (k : Location) : Bool :=
  loc.isPrefixOf k && k != loc && fs.table.all fun p => gone p.1 || !k.isPrefixOf p.1

/-- The file system without some of the entries below a location: those that are `gone` with all that
is below them. -/
def eraseSome (fs : FileSystem) (loc : Location) (gone : Location → Bool) : FileSystem :=
  ⟨fs.table.filter fun p => !fs.isLost loc gone p.1⟩

/-- The locations strictly below a location. -/
def below (fs : FileSystem) (loc : Location) : List Location :=
  (fs.table.map (·.1)).filter fun l => loc.isPrefixOf l && l != loc

/-- The names of the entries in a directory. -/
def namesIn (fs : FileSystem) (loc : Location) : List String :=
  (fs.table.map (·.1)).filterMap fun l =>
    if l ≠ [] ∧ l.dropLast = loc then l.getLast? else none

theorem lookup_filter_of_pos {α β : Type} [BEq α] [LawfulBEq α] (p : α → Bool) (k : α)
    (hk : p k = true) (t : List (α × β)) :
    (t.filter fun e => p e.1).lookup k = t.lookup k := by
  induction t with
  | nil => rfl
  | cons e t ih =>
    obtain ⟨a, b⟩ := e
    by_cases ha : a = k
    · subst ha
      simp [hk]
    · have hne : (k == a) = false := by simpa using Ne.symm ha
      by_cases hp : p a = true
      · simp [hp, List.lookup_cons, hne, ih]
      · simp [hp, List.lookup_cons, hne, ih]

theorem lookup_filter_of_neg {α β : Type} [BEq α] [LawfulBEq α] (p : α → Bool) (k : α)
    (hk : p k = false) (t : List (α × β)) :
    (t.filter fun e => p e.1).lookup k = none := by
  induction t with
  | nil => rfl
  | cons e t ih =>
    obtain ⟨a, b⟩ := e
    by_cases hp : p a = true
    · have ha : (k == a) = false := by
        rw [beq_eq_false_iff_ne]
        rintro rfl
        rw [hk] at hp
        cases hp
      simp [hp, List.lookup_cons, ha, ih]
    · simp [hp, ih]

@[simp] theorem get?_root (fs : FileSystem) : fs.get? [] = some .dir := rfl

theorem get?_of_ne_nil (fs : FileSystem) {l : Location} (h : l ≠ []) :
    fs.get? l = fs.table.lookup l := by simp [get?, h]

theorem mem_table_of_get? {fs : FileSystem} {l : Location} {e : Entry} (hl : l ≠ [])
    (h : fs.get? l = some e) : (l, e) ∈ fs.table := by
  rw [get?_of_ne_nil fs hl] at h
  obtain ⟨before, behind, htable, -⟩ := List.lookup_eq_some_iff.mp h
  simp [htable]

theorem mem_table_of_link {fs : FileSystem} {l : Location} {target : String}
    (h : fs.get? l = some (.link target)) : (l, Entry.link target) ∈ fs.table := by
  refine mem_table_of_get? (fun root => ?_) h
  rw [root] at h
  cases h

/-- Putting an entry changes the entry at its location and no other. -/
theorem get?_put (fs : FileSystem) {l : Location} (hl : l ≠ []) (e : Entry) (k : Location) :
    (fs.put l e).get? k = if k = l then some e else fs.get? k := by
  by_cases hk : k = []
  · subst hk
    simp [Ne.symm hl]
  rw [get?_of_ne_nil _ hk, get?_of_ne_nil _ hk]
  by_cases h : k = l
  · subst h
    simp [put]
  · have hb : (k == l) = false := by simpa using h
    simp only [put, List.lookup_cons, hb, h, if_false]
    exact lookup_filter_of_pos (fun a => a != l) k (by simpa using h) fs.table

/-- Erasing an entry changes the entry at its location and no other. -/
theorem get?_erase (fs : FileSystem) {l : Location} (hl : l ≠ []) (k : Location) :
    (fs.erase l).get? k = if k = l then none else fs.get? k := by
  by_cases hk : k = []
  · subst hk
    simp [Ne.symm hl]
  rw [get?_of_ne_nil _ hk, get?_of_ne_nil _ hk]
  by_cases h : k = l
  · subst h
    simpa [erase] using lookup_filter_of_neg (fun a => a != k) k (by simp) fs.table
  · simp only [erase, h, if_false]
    exact lookup_filter_of_pos (fun a => a != l) k (by simpa using h) fs.table

/-- Erasing a tree removes what is at or below its location and nothing else. -/
theorem get?_eraseTree (fs : FileSystem) {l : Location} (hl : l ≠ []) (k : Location) :
    (fs.eraseTree l).get? k = if l <+: k then none else fs.get? k := by
  by_cases hk : k = []
  · subst hk
    simp [hl]
  rw [get?_of_ne_nil _ hk, get?_of_ne_nil _ hk]
  by_cases h : l <+: k
  · simp only [eraseTree, h, if_true]
    exact lookup_filter_of_neg (fun a => !l.isPrefixOf a) k (by simpa using h) fs.table
  · simp only [eraseTree, h, if_false]
    exact lookup_filter_of_pos (fun a => !l.isPrefixOf a) k
      (by simpa [← Bool.not_eq_true, List.isPrefixOf_iff_prefix] using h) fs.table

theorem prefix_of_isLost {fs : FileSystem} {l k : Location} {gone : Location → Bool}
    (lost : fs.isLost l gone k = true) : l <+: k ∧ k ≠ l := by
  simp only [isLost, Bool.and_eq_true, List.isPrefixOf_iff_prefix, bne_iff_ne] at lost
  exact lost.1

/-- Erasing some of the entries below a location removes them and nothing else. -/
theorem get?_eraseSome (fs : FileSystem) (l : Location) (gone : Location → Bool) (k : Location) :
    (fs.eraseSome l gone).get? k = if fs.isLost l gone k then none else fs.get? k := by
  cases lost : fs.isLost l gone k with
  | true =>
    obtain ⟨below, other⟩ := prefix_of_isLost lost
    have hk : k ≠ [] := by
      rintro rfl
      exact other (List.prefix_nil.mp below).symm
    rw [get?_of_ne_nil _ hk]
    exact lookup_filter_of_neg (fun a => !fs.isLost l gone a) k (by simp [lost]) fs.table
  | false =>
    by_cases hk : k = []
    · subst hk
      rfl
    rw [get?_of_ne_nil _ hk, get?_of_ne_nil _ hk]
    exact lookup_filter_of_pos (fun a => !fs.isLost l gone a) k (by simp [lost]) fs.table

end FileSystem

end BuildPilot
