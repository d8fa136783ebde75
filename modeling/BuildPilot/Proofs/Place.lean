import BuildPilot.FileSystem.Operations
import BuildPilot.Proofs.Walk

/-!
# Places of paths

The place of a path is the location that it names: an entry, or a free name in a directory. The
operations on files change entries at the places of their paths only, apart from those that follow
a link at the end of a path.
-/

namespace BuildPilot.FileSystem

variable {fs gs hs : FileSystem} {cwd l k : Location} {p root : Path} {follow : Bool} {s : Sight}

/-! ## Places -/

/-- Where the walk of a path starts. -/
def startOf (cwd : Location) (p : Path) : Location := if p.isAbsolute then [] else cwd

/-- The location that a path names, taken or free. Links on the way are followed, and one at the end
is not. -/
def place? (fs : FileSystem) (cwd : Location) (p : Path) : Option Location :=
  (walk fs false maxLinks (startOf cwd p) p.parts).location?

theorem short_of_find (hl : (fs.find cwd follow p).location? = some l) :
    p.toString.utf8ByteSize < maxPathOctets := by
  refine Nat.lt_of_not_le fun long => ?_
  unfold find at hl
  rw [if_pos long] at hl
  cases hl

/-- A path that is found is not too long, so looking for it is walking it, also elsewhere. -/
theorem find_eq_walk (hl : (fs.find cwd follow p).location? = some l) (gs : FileSystem)
    (follow' : Bool) : gs.find cwd follow' p = walk gs follow' maxLinks (startOf cwd p) p.parts :=
  if_neg (Nat.not_le.mpr (short_of_find hl))

theorem walks_find (hs : fs.find cwd follow p = s) (hl : s.location? = some l) :
    Walks fs follow maxLinks (startOf cwd p) p.parts s := by
  subst hs
  rw [find_eq_walk hl]
  exact walks_walk fs follow maxLinks _ _

theorem place?_of_walks (h : Walks fs false maxLinks (startOf cwd p) p.parts s) :
    fs.place? cwd p = s.location? := by
  rw [place?, h.walk_eq]

theorem place?_of_find (hs : fs.find cwd false p = s) (hl : s.location? = some l) :
    fs.place? cwd p = some l := by
  rw [place?_of_walks (walks_find hs hl), hl]

/-- What is found stands where it is found, unless it is a directory: a search may end in the
directory in which it starts. -/
theorem get?_of_find {e : Entry} (found : fs.find cwd follow p = .entry l e) (hdir : e ≠ .dir) :
    fs.get? l = some e := by
  rcases (walks_find found rfl).eq_landing rfl with dir | there
  · cases dir
    exact absurd rfl hdir
  · cases he : fs.get? l with
    | none =>
      rw [he] at there
      cases there
    | some e' =>
      rw [he] at there
      cases there
      rfl

theorem get?_of_find_absent (found : fs.find cwd follow p = .absent l) : fs.get? l = none := by
  rcases (walks_find found rfl).eq_landing rfl with dir | free
  · cases dir
  · cases he : fs.get? l with
    | none => rfl
    | some e =>
      rw [he] at free
      cases free

theorem get?_of_find_file {mode : Nat} {content : List UInt8}
    (found : fs.find cwd follow p = .entry l (.file mode content)) :
    fs.get? l = some (.file mode content) :=
  get?_of_find found (by simp)

/-- A path that leads to a file leads to a file at the same place in a file system of the same
shape. -/
theorem SameShape.find_eq_file (same : SameShape fs gs) {mode : Nat} {content : List UInt8}
    (found : fs.find cwd follow p = .entry l (.file mode content)) :
    ∃ mode' content', gs.find cwd follow p = .entry l (.file mode' content') := by
  obtain ⟨t, walks, kind⟩ := (walks_find found rfl).of_sameShape same
  rw [find_eq_walk (by rw [found]; rfl) gs follow, walks.walk_eq]
  match t, kind with
  | .entry _ (.file mode' content'), kind =>
    cases kind
    exact ⟨mode', content', rfl⟩

/-- A location lies in the tree at a path. -/
def InTree (fs : FileSystem) (cwd : Location) (root : Path) (k : Location) : Prop :=
  ∃ l, fs.place? cwd root = some l ∧ l <+: k

instance (fs : FileSystem) (cwd : Location) (root : Path) (k : Location) :
    Decidable (InTree fs cwd root k) :=
  decidable_of_iff ((fs.place? cwd root).any (·.isPrefixOf k) = true) (by
    simp [InTree, Option.any_eq_true])

/-- On the way of `names` from a path on there is a symbolic link, at that path or below it. -/
def PassesLink (fs : FileSystem) (cwd : Location) (root : Path) (names : List String) : Prop :=
  ∃ l zs target, fs.place? cwd root = some l ∧ zs <+: names ∧
    fs.get? (l ++ zs) = some (.link target)

/-- A path below `root` leads into the tree at `root`, unless a link in this tree is on the way. -/
theorem inTree_or_passesLink (root : Path) {names : List String}
    (hl : (fs.find cwd follow p).location? = some l) (anchor : p.anchor = root.anchor)
    (parts : p.parts = root.parts ++ names) (more : names ≠ [])
    (plain : ∀ x ∈ names, IsPlainName x) :
    InTree fs cwd root l ∨ PassesLink fs cwd root names := by
  have walks := walks_find rfl hl
  have start : startOf cwd p = startOf cwd root := by
    unfold startOf Path.isAbsolute
    rw [anchor]
  rw [parts, start] at walks
  rcases walks.through more hl with ⟨k, m, first, rest⟩ | ⟨k, target, first, link⟩
  · have place := place?_of_walks first
    rcases rest.stays plain hl with rfl | ⟨zs, target, before, link⟩
    · exact .inl ⟨k, place, List.prefix_append k names⟩
    · exact .inr ⟨k, zs, target, place, before, link⟩
  · refine .inr ⟨k, [], target, place?_of_walks first, List.nil_prefix, ?_⟩
    rw [List.append_nil, link]

/-! ## Changes -/

/-- The entries of `gs` differ from those of `fs` only at some locations. -/
def ChangesOnly (fs gs : FileSystem) (within : Location → Prop) : Prop :=
  ∀ k, gs.get? k ≠ fs.get? k → within k

namespace ChangesOnly

variable {within : Location → Prop}

theorem refl (fs : FileSystem) (within : Location → Prop) : ChangesOnly fs fs within :=
  fun _ h => absurd rfl h

theorem trans (h : ChangesOnly fs gs within) (h' : ChangesOnly gs hs within) :
    ChangesOnly fs hs within := by
  intro k changed
  by_cases same : gs.get? k = fs.get? k
  · exact h' k (same ▸ changed)
  · exact h k same

theorem get?_eq (h : ChangesOnly fs gs within) (hk : ¬ within k) : gs.get? k = fs.get? k := by
  exact Classical.byContradiction fun changed => hk (h k changed)

end ChangesOnly

theorem changesOnly_put (fs : FileSystem) (hl : l ≠ []) (e : Entry) :
    ChangesOnly fs (fs.put l e) (· = l) := by
  intro k changed
  rw [get?_put fs hl] at changed
  exact Classical.byContradiction fun hk => changed (if_neg hk)

theorem changesOnly_erase (fs : FileSystem) (hl : l ≠ []) : ChangesOnly fs (fs.erase l) (· = l) := by
  intro k changed
  rw [get?_erase fs hl] at changed
  exact Classical.byContradiction fun hk => changed (if_neg hk)

/-- Erasing a tree leaves nothing where it changes anything, and changes nothing outside. -/
theorem get?_eraseTree_of_ne (changed : (fs.eraseTree l).get? k ≠ fs.get? k) :
    l <+: k ∧ (fs.eraseTree l).get? k = none := by
  by_cases hl : l = []
  · subst hl
    have hk : k ≠ [] := by
      rintro rfl
      exact changed rfl
    refine ⟨List.nil_prefix, ?_⟩
    rw [get?_of_ne_nil _ hk]
    exact lookup_filter_of_neg (fun a => !([] : Location).isPrefixOf a) k (by simp) fs.table
  · rw [get?_eraseTree fs hl] at changed ⊢
    by_cases below : l <+: k
    · exact ⟨below, if_pos below⟩
    · exact absurd (if_neg below) changed

theorem ne_nil_of_get? (h : fs.get? l ≠ some .dir) : l ≠ [] := by
  rintro rfl
  exact h rfl

/-! ## Operations -/

theorem removeTree_eq_ok (h : fs.removeTree cwd p = .ok gs) :
    ∃ l, fs.find cwd false p = .entry l .dir ∧ gs = fs.eraseTree l := by
  unfold removeTree at h
  split at h
  · cases h
    exact ⟨_, ‹_›, rfl⟩
  · split at h <;> cases h
  · split at h <;> cases h
  · cases h
  · cases h

/-- Entries are removed from the directory at a path, if one is there, and all others are as
before. -/
def Prunes (cwd : Location) (p : Path) (fs gs : FileSystem) : Prop :=
  ∀ k, gs.get? k ≠ fs.get? k →
    ∃ l, fs.find cwd false p = .entry l .dir ∧ l <+: k ∧ gs.get? k = none

theorem Prunes.refl : Prunes cwd p fs fs := fun _ changed => absurd rfl changed

theorem prunes_of_removeTree (h : fs.removeTree cwd p = .ok gs) : Prunes cwd p fs gs := by
  obtain ⟨l, found, rfl⟩ := removeTree_eq_ok h
  exact fun k changed => ⟨l, found, get?_eraseTree_of_ne changed⟩

theorem prunes_removePart (gone : Location → Bool) :
    Prunes cwd p fs (fs.removePart cwd p gone) := by
  unfold removePart
  split
  · next l found =>
      intro k changed
      rw [get?_eraseSome] at changed ⊢
      cases lost : fs.isLost l gone k with
      | true => exact ⟨l, found, (prefix_of_isLost lost).1, rfl⟩
      | false =>
        rw [lost] at changed
        exact absurd rfl changed
  · exact .refl

/-- A removal removes entries from the tree at its path. -/
theorem Prunes.inTree (h : Prunes cwd p fs gs) (changed : gs.get? k ≠ fs.get? k) :
    InTree fs cwd p k ∧ gs.get? k = none := by
  obtain ⟨l, found, below, gone⟩ := h k changed
  exact ⟨⟨l, place?_of_find found rfl, below⟩, gone⟩

theorem unlink_eq_ok (h : fs.unlink cwd p = .ok gs) :
    ∃ l e, fs.find cwd false p = .entry l e ∧ e ≠ .dir ∧ gs = fs.erase l := by
  unfold unlink at h
  split at h
  · cases h
  · rename_i l e hdir found
    cases h
    exact ⟨l, e, found, hdir, rfl⟩
  · cases h
  · cases h

theorem makeLink_eq_ok {target : String} (h : fs.makeLink cwd p target = .ok gs) :
    ∃ l, fs.find cwd false p = .absent l ∧ gs = fs.put l (.link target) := by
  unfold makeLink at h
  split at h
  · cases h
  · cases h
    exact ⟨_, ‹_›, rfl⟩
  · cases h

theorem writeAt_eq_ok {mode : Nat} {content : List UInt8} (h : fs.writeAt mode content s = .ok gs) :
    ∃ l m, (s = .absent l ∨ ∃ old, s = .entry l (.file m old)) ∧
      gs = fs.put l (.file m content) := by
  unfold writeAt at h
  split at h
  · rename_i l old c
    split at h
    · cases h
      exact ⟨l, old, .inr ⟨c, rfl⟩, rfl⟩
    · cases h
  · cases h
  · cases h
  · cases h
    exact ⟨_, mode, .inl rfl, rfl⟩
  · cases h

theorem chmodAt_eq_ok {mode : Nat} (h : fs.chmodAt mode s = .ok gs) :
    gs = fs ∨ ∃ l m content, s = .entry l (.file m content) ∧ gs = fs.put l (.file mode content) := by
  unfold chmodAt at h
  split at h
  · cases h
    exact .inr ⟨_, _, _, rfl, rfl⟩
  · cases h
    exact .inl rfl
  · cases h
  · cases h

theorem copy_eq_ok {source target : Path} (h : fs.copy cwd source target = .ok gs) :
    ∃ content written, contentAt (fs.find cwd true source) = .ok content ∧
      fs.writeAt newFileMode content (fs.find cwd true target) = .ok written ∧
      written.chmodAt (copiedMode (fs.find cwd true source)) (written.find cwd true target) =
        .ok gs := by
  unfold copy at h
  dsimp only at h
  split at h
  · cases h
  · rename_i content hcontent
    split at h
    · cases h
    · rename_i written hwritten
      split at h
      · cases h
      · rename_i done hdone
        cases h
        exact ⟨content, written, hcontent, hwritten, hdone⟩

/-! ## Paths that lead to one place -/

/-- With or without following a link at its end, a path leads to the place `l?` or to none. -/
def Leads (fs : FileSystem) (cwd : Location) (p : Path) (l? : Option Location) : Prop :=
  ∀ follow k, (fs.find cwd follow p).location? = some k → l? = some k

/-- A path with no link at its end leads to its place. -/
theorem leads_of_unlinked (unlinked : ∀ l target, fs.find cwd false p ≠ .entry l (.link target)) :
    Leads fs cwd p (fs.place? cwd p) := by
  intro follow k hk
  have short := find_eq_walk hk
  rw [short] at hk unlinked
  have walks := walks_walk fs false maxLinks (startOf cwd p) p.parts
  cases follow with
  | false => exact hk
  | true =>
    rw [(walks.of_nofollow unlinked).walk_eq] at hk
    exact hk

/-- A path still leads to its place when something else than a directory or a link has come there,
or nothing. -/
theorem leads_of_touched (hs : fs.find cwd false p = s) (hl : s.location? = some l)
    (hdir : fs.get? l ≠ some .dir) (agree : ∀ k, k ≠ l → gs.get? k = fs.get? k)
    (stops : ∀ e, gs.get? l = some e → e.stops true = true) : Leads gs cwd p (some l) := by
  intro follow k hk
  obtain ⟨t, walks, ends⟩ := (walks_find hs hl).of_touched hl hdir agree stops follow
  rw [find_eq_walk hk, walks.walk_eq] at hk
  rw [ends k hk]

/-- What a path leads to, if it leads to its place and a file is or may be put there. -/
theorem Leads.nofollow {l? : Option Location} (leads : Leads fs cwd p l?)
    (hs : fs.find cwd true p = s) (file : s = .absent l ∨ ∃ m content, s = .entry l (.file m content)) :
    (fs.find cwd false p).location? = some l ∧ fs.get? l ≠ some .dir := by
  have hl : s.location? = some l := by
    rcases file with rfl | ⟨m, content, rfl⟩ <;> rfl
  have hdir : fs.get? l ≠ some .dir := by
    rcases file with rfl | ⟨m, content, rfl⟩
    · rw [get?_of_find_absent hs]
      simp
    · rw [get?_of_find_file hs]
      simp
  refine ⟨?_, hdir⟩
  have place := leads true l (hs ▸ hl)
  have short := find_eq_walk (hs ▸ hl : (fs.find cwd true p).location? = some l)
  have walks := walks_walk fs false maxLinks (startOf cwd p) p.parts
  rw [← short] at walks
  by_cases linked : ∃ k target, fs.find cwd false p = .entry k (.link target)
  · obtain ⟨k, target, found⟩ := linked
    have same : some k = some l := (leads false k (by rw [found]; rfl)).symm.trans place
    rw [found, ← same]
    rfl
  · have same : fs.find cwd true p = fs.find cwd false p := by
      rw [short, (walks.of_nofollow fun k target found => linked ⟨k, target, found⟩).walk_eq]
    rw [← same, hs]
    exact hl

theorem Leads.changesOnly_makeLink {l? : Option Location} {target : String}
    (leads : Leads fs cwd p l?) (h : fs.makeLink cwd p target = .ok gs) :
    ChangesOnly fs gs (l? = some ·) := by
  obtain ⟨l, found, rfl⟩ := makeLink_eq_ok h
  have hl : l ≠ [] := ne_nil_of_get? (by rw [get?_of_find_absent found]; simp)
  intro k changed
  rw [changesOnly_put fs hl _ k changed]
  exact leads false l (by rw [found]; rfl)

/-- Copying to a path that leads to its place writes there only. -/
theorem Leads.changesOnly_copy {l? : Option Location} {source : Path} (leads : Leads fs cwd p l?)
    (h : fs.copy cwd source p = .ok gs) : ChangesOnly fs gs (l? = some ·) := by
  obtain ⟨content, written, -, hwrite, hmode⟩ := copy_eq_ok h
  obtain ⟨l, m, file, rfl⟩ := writeAt_eq_ok hwrite
  have file : fs.find cwd true p = .absent l ∨ ∃ m content, fs.find cwd true p =
      .entry l (.file m content) := by
    rcases file with h | ⟨old, h⟩
    · exact .inl h
    · exact .inr ⟨m, old, h⟩
  obtain ⟨found, hdir⟩ := leads.nofollow rfl file
  have place : l? = some l := leads false l found
  have hl : l ≠ [] := ne_nil_of_get? hdir
  have wrote : ChangesOnly fs (fs.put l (.file m content)) (l? = some ·) := fun k changed => by
    rw [changesOnly_put fs hl _ k changed, place]
  rcases chmodAt_eq_ok hmode with rfl | ⟨k, m', content', found', rfl⟩
  · exact wrote
  · have still : Leads (fs.put l (.file m content)) cwd p (some l) := by
      refine leads_of_touched rfl found hdir (fun k hk => ?_) fun e he => ?_
      · exact (changesOnly_put fs hl _).get?_eq hk
      · rw [get?_put fs hl, if_pos rfl] at he
        cases he
        rfl
    have here : some l = some k := still true k (by rw [found']; rfl)
    cases here
    refine wrote.trans fun k changed => ?_
    rw [changesOnly_put _ hl _ k changed, place]

end BuildPilot.FileSystem
