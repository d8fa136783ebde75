import BuildPilot.Proofs.Effect
import BuildPilot.Proofs.WorkingDirectory

/-!
# Publications

What publishing the database comes to when no links stand on the ways to the project directory and
to the database. If it succeeds, the published place holds a link to the database, or a file with
its mode and content, and reading one is reading the other. If it does not, the place holds what it
held before, or nothing.
-/

namespace BuildPilot

open FileSystem Text

namespace FileSystem

variable {fs gs : FileSystem} {cwd d k l loc : Location} {dir : Path} {name : String}
  {follow : Bool} {n : Nat} {s : Sight}

/-! ## Ways without links -/

/-- No link stands on the way to a location, nor at the location. -/
def Unlinked (fs : FileSystem) (l : Location) : Prop :=
  ∀ d, d <+: l → ∀ target, fs.get? d ≠ some (.link target)

theorem Unlinked.of_prefix (h : Unlinked fs l) (le : d <+: l) : Unlinked fs d :=
  fun e he => h e (he.trans le)

theorem Walks.fits_of_single (walks : Walks fs follow n loc [name] s) (plain : IsPlainName name)
    (hl : s.location? = some l) : Fits name := by
  cases walks with
  | stay dot => exact absurd dot (not_or.mpr ⟨plain.1, plain.2.1⟩)
  | up => exact absurd rfl plain.2.2
  | landed fits => exact fits
  | down fits => exact fits
  | jump fits => exact fits
  | stuck => cases hl

theorem Walks.get?_of_single (walks : Walks fs false n loc [name] s) (plain : IsPlainName name)
    (hs : s = .entry l .dir) : fs.get? (loc ++ [name]) = some .dir := by
  cases walks with
  | stay dot => exact absurd dot (not_or.mpr ⟨plain.1, plain.2.1⟩)
  | up => exact absurd rfl plain.2.2
  | landed fits stops =>
    cases he : fs.get? (loc ++ [name]) with
    | none =>
      rw [he] at hs
      cases hs
    | some e =>
      rw [he] at hs
      cases hs
      rfl
  | down fits dir => exact dir
  | jump fits link through => simp at through
  | stuck => cases hs

/-- A walk to a directory that no link is on the way to goes through directories only. -/
theorem Unlinked.hasWay (h : Unlinked fs d) (plain : ∀ x ∈ d, IsPlainName x)
    (walks : Walks fs false n [] d (.entry k .dir)) : k = d ∧ HasWay fs d := by
  induction d using List.reverseRecOn generalizing k n with
  | nil =>
    cases walks
    exact ⟨rfl, hasWay_root fs⟩
  | append_singleton d x ih =>
    have before : Unlinked fs d := h.of_prefix (List.prefix_append d [x])
    have plain' : ∀ y ∈ d, IsPlainName y := fun y hy => plain y (List.mem_append_left _ hy)
    have last : IsPlainName x := plain x (by simp)
    rcases walks.through (List.cons_ne_nil x []) rfl with
      ⟨k', m, first, rest⟩ | ⟨k', target, first, link⟩
    · obtain ⟨rfl, way⟩ := ih before plain' first
      have there := rest.get?_of_single last rfl
      refine ⟨rest.single last rfl, fun e he => ?_, fun y hy => ?_⟩
      · rcases List.prefix_concat_iff.mp he with rfl | he
        · exact there
        · exact way.dirs e he
      · rcases List.mem_append.mp hy with hy | hy
        · exact way.fits y hy
        · exact List.mem_singleton.mp hy ▸ rest.fits_of_single last rfl
    · rcases first.stays plain' rfl with rfl | ⟨zs, target', le, link'⟩
      · exact absurd link (before _ List.prefix_rfl target)
      · exact absurd link' (before zs le target')

/-- Every entry stands in a directory, and has a name that can be looked up. -/
structure IsTree (fs : FileSystem) : Prop where
  parent : ∀ l x, fs.get? (l ++ [x]) ≠ none → fs.get? l = some .dir
  fits : ∀ l x, fs.get? (l ++ [x]) ≠ none → Fits x

theorem isTree_of_table (h : ∀ row ∈ fs.table,
    fs.get? row.1.dropLast = some .dir ∧ ∀ n ∈ row.1, Fits n) : IsTree fs := by
  have row {l : Location} {x : String} (there : fs.get? (l ++ [x]) ≠ none) :
      ∃ e, (l ++ [x], e) ∈ fs.table := by
    obtain ⟨e, he⟩ := Option.ne_none_iff_exists'.mp there
    exact ⟨e, mem_table_of_get? (by simp) he⟩
  refine ⟨fun l x there => ?_, fun l x there => ?_⟩
  · obtain ⟨e, he⟩ := row there
    simpa using (h _ he).1
  · obtain ⟨e, he⟩ := row there
    exact (h _ he).2 x (by simp)

/-- No name of an entry holds a NUL character. -/
def IsNamed (fs : FileSystem) : Prop := ∀ row ∈ fs.table, ∀ n ∈ row.1, '\x00' ∉ n.toList

instance (fs : FileSystem) : Decidable (IsNamed fs) :=
  inferInstanceAs (Decidable (∀ row ∈ fs.table, ∀ n ∈ row.1, '\x00' ∉ n.toList))

theorem IsNamed.of_get? {e : Entry} (named : IsNamed fs) (there : fs.get? l = some e) :
    ∀ x ∈ l, '\x00' ∉ x.toList := by
  intro x hx
  exact named _ (mem_table_of_get? (List.ne_nil_of_mem hx) there) x hx

theorem IsTree.hasWay (tree : IsTree fs) (dir : fs.get? l = some .dir) : HasWay fs l := by
  induction l using List.reverseRecOn with
  | nil => exact hasWay_root fs
  | append_singleton l x ih =>
    have there : fs.get? (l ++ [x]) ≠ none := by
      rw [dir]
      exact Option.some_ne_none _
    have way := ih (tree.parent l x there)
    refine ⟨fun e he => ?_, fun y hy => ?_⟩
    · rcases List.prefix_concat_iff.mp he with rfl | he
      · exact dir
      · exact way.dirs e he
    · rcases List.mem_append.mp hy with hy | hy
      · exact way.fits y hy
      · exact List.mem_singleton.mp hy ▸ tree.fits l x there

/-- No links are on the way to where a search comes to, if a link would be seen there. -/
theorem IsTree.unlinked (tree : IsTree fs) (settled : IsSettled fs l) (short : IsShort l) :
    Unlinked fs l := by
  intro d le target link
  induction d using List.reverseRecOn with
  | nil =>
    rw [get?_root] at link
    cases link
  | append_singleton d x =>
    have there : fs.get? (d ++ [x]) ≠ none := by
      rw [link]
      exact Option.some_ne_none _
    have landed : walk fs false maxLinks d [x] = .entry (d ++ [x]) (.link target) := by
      rw [(Walks.landed (tree.fits d x there) fun e he => ?_).walk_eq, link]
      · rfl
      · rw [link] at he
        cases he
        rfl
    have way : HasWay fs d := tree.hasWay (tree.parent d x there)
    have found : fs.linkTo? (d ++ [x]) = some target := linkTo?_eq_some.mpr
      ⟨short.of_prefix le, _, (way.walk_append false maxLinks [x]).trans landed⟩
    rw [settled.unlinked _ le (by simp)] at found
    cases found

/-- A name in a directory can be looked up. -/
structure IsOpen (fs : FileSystem) (dir : Path) (name : String) : Prop where
  absolute : dir.isAbsolute = true
  short : (dir.child name).toString.utf8ByteSize < maxPathOctets
  way : HasWay fs dir.parts
  fits : Fits name

theorem isOpen_of_find (absolute : dir.isAbsolute = true)
    (plain : ∀ x ∈ dir.parts, IsPlainName x) (last : IsPlainName name)
    (unlinked : Unlinked fs dir.parts)
    (found : (fs.find cwd follow (dir.child name)).location? = some l) : IsOpen fs dir name := by
  have walks := walks_find rfl found
  have start : startOf cwd (dir.child name) = [] := if_pos absolute
  rw [start] at walks
  have split : (dir.child name).parts = dir.parts ++ [name] := rfl
  rw [split] at walks
  rcases walks.through (List.cons_ne_nil name []) found with
    ⟨k, m, first, rest⟩ | ⟨k, target, first, link⟩
  · exact ⟨absolute, short_of_find found, (unlinked.hasWay plain first).2,
      rest.fits_of_single last found⟩
  · rcases first.stays plain rfl with rfl | ⟨zs, target', le, link'⟩
    · exact absurd link (unlinked _ List.prefix_rfl target)
    · exact absurd link' (unlinked zs le target')

namespace IsOpen

theorem find_eq_walk (h : IsOpen fs dir name) (cwd : Location) (follow : Bool) :
    fs.find cwd follow (dir.child name) = walk fs follow maxLinks dir.parts [name] := by
  have absolute : (dir.child name).isAbsolute = true := h.absolute
  unfold find
  rw [if_neg (Nat.not_le.mpr h.short), if_pos absolute]
  exact h.way.walk_append follow maxLinks [name]

/-- A walk to a name that is no link, or is not followed, comes to what stands there. -/
theorem walk_eq (h : IsOpen fs dir name) (n : Nat)
    (stops : follow = true → ∀ target, fs.get? (dir.child name).parts ≠ some (.link target)) :
    walk fs follow n dir.parts [name] =
      landing (dir.child name).parts (fs.get? (dir.child name).parts) := by
  by_cases isDir : fs.get? (dir.parts ++ [name]) = some .dir
  · rw [(Walks.down h.fits isDir (.arrived n _)).walk_eq]
    exact (congrArg (landing _) isDir).symm
  · refine (Walks.landed h.fits fun e he => ?_).walk_eq
    cases e with
    | dir => exact absurd he isDir
    | file mode content => rfl
    | link target =>
      cases follow with
      | false => rfl
      | true => exact absurd he (stops rfl target)

theorem find_eq (h : IsOpen fs dir name) (cwd : Location) (follow : Bool)
    (stops : follow = true → ∀ target, fs.get? (dir.child name).parts ≠ some (.link target)) :
    fs.find cwd follow (dir.child name) =
      landing (dir.child name).parts (fs.get? (dir.child name).parts) := by
  rw [h.find_eq_walk, h.walk_eq maxLinks stops]

theorem find_nofollow (h : IsOpen fs dir name) (cwd : Location) :
    fs.find cwd false (dir.child name) =
      landing (dir.child name).parts (fs.get? (dir.child name).parts) :=
  h.find_eq cwd false fun follows => by cases follows

theorem congr (h : IsOpen fs dir name) (same : ∀ e, e <+: dir.parts → gs.get? e = fs.get? e) :
    IsOpen gs dir name :=
  ⟨h.absolute, h.short, ⟨fun e he => (same e he).trans (h.way.dirs e he), h.way.fits⟩, h.fits⟩

end IsOpen

theorem location_of_landing {e? : Option Entry} {e : Entry} (h : landing k e? = .entry l e) :
    l = k ∧ e? = some e := by
  cases e? with
  | none => cases h
  | some e' =>
    cases h
    exact ⟨rfl, rfl⟩

theorem location_of_landing_absent {e? : Option Entry} (h : landing k e? = .absent l) :
    l = k ∧ e? = none := by
  cases e? with
  | none =>
    cases h
    exact ⟨rfl, rfl⟩
  | some e => cases h

end FileSystem

namespace Executor

open Act

variable {x : Executor} {fs gs hs : FileSystem} {mode : Nat} {content : List UInt8}

/-- Where a run publishes its database, and where it keeps it: the paths are real, no links are on
the ways, and the database is not published over itself. -/
structure HasClearWays (x : Executor) (fs : FileSystem) : Prop where
  project : x.config.projectDir.IsReal
  build : x.config.buildDir.IsReal
  toProject : Unlinked fs x.config.projectDir.parts
  toDatabase : Unlinked fs x.config.database.parts
  apart : x.config.database.parts ≠ x.config.publishedDatabase.parts

theorem isPlainName_databaseName : IsPlainName databaseName := by decide

/-! ## Freeing the published place -/

/-- Only the entry at the published place may have changed. -/
def Elsewhere (x : Executor) (fs gs : FileSystem) : Prop :=
  ∀ k, k ≠ x.config.publishedDatabase.parts → gs.get? k = fs.get? k

theorem Elsewhere.isOpen {dir : Path} {name : String} (same : x.Elsewhere fs gs)
    (h : IsOpen fs dir name) (off : ¬ x.config.publishedDatabase.parts <+: dir.parts) :
    IsOpen gs dir name :=
  h.congr fun e he => same e fun here => off (here ▸ he)

theorem not_published_above (c : Configuration) :
    ¬ c.publishedDatabase.parts <+: c.projectDir.parts := by
  intro le
  have long : (c.projectDir.parts ++ [databaseName]).length ≤ c.projectDir.parts.length :=
    le.length_le
  rw [List.length_append, List.length_singleton] at long
  omega

/-- The published place, if it can be looked up at all. -/
theorem HasClearWays.isOpen {follow : Bool} {l : Location} (clear : x.HasClearWays fs)
    (same : x.Elsewhere fs gs)
    (found : (gs.find x.machine.cwd follow x.config.publishedDatabase).location? = some l) :
    IsOpen gs x.config.projectDir databaseName := by
  refine isOpen_of_find clear.project.1 clear.project.2 isPlainName_databaseName ?_ found
  intro e he target link
  have off : e ≠ x.config.publishedDatabase.parts :=
    fun here => not_published_above x.config (here ▸ he)
  exact clear.toProject e he target ((same e off).symm.trans link)

theorem publishedDatabase_ne_nil (c : Configuration) : c.publishedDatabase.parts ≠ [] :=
  List.append_ne_nil_of_right_ne_nil _ (List.cons_ne_nil databaseName [])

theorem elsewhere_put (x : Executor) (fs : FileSystem) (e : Entry) :
    x.Elsewhere fs (fs.put x.config.publishedDatabase.parts e) := by
  intro k hk
  rw [get?_put fs (publishedDatabase_ne_nil x.config)]
  exact if_neg hk

theorem get?_put_published (x : Executor) (fs : FileSystem) (e : Entry) :
    (fs.put x.config.publishedDatabase.parts e).get? x.config.publishedDatabase.parts = some e := by
  rw [get?_put fs (publishedDatabase_ne_nil x.config)]
  exact if_pos rfl

/-- The published place was freed: no link is found there, and if the path can be looked up at all,
then no directory was found there before. -/
structure IsFreed (x : Executor) (fs gs : FileSystem) : Prop where
  elsewhere : x.Elsewhere fs gs
  kept : gs.get? x.config.publishedDatabase.parts = fs.get? x.config.publishedDatabase.parts ∨
    gs.get? x.config.publishedDatabase.parts = none
  unlinked : ∀ l target, gs.find x.machine.cwd false x.config.publishedDatabase ≠
    .entry l (.link target)
  lookedUp : hasNul x.config.publishedDatabase = false →
    x.config.publishedDatabase.toString.utf8ByteSize < maxPathOctets ∧
      ∀ l, fs.find x.machine.cwd false x.config.publishedDatabase ≠ .entry l .dir

theorem isFreed_of_unoccupied
    (h : isOccupied fs x.machine.cwd x.config.publishedDatabase = .ok false) :
    x.IsFreed fs fs := by
  refine ⟨fun _ _ => rfl, .inl rfl, fun l target found => ?_, fun clean => ⟨?_, fun l found => ?_⟩⟩
  · unfold isOccupied at h
    rw [found] at h
    cases h
  · by_contra long
    have lost (follow : Bool) : fs.find x.machine.cwd follow x.config.publishedDatabase =
        .failed .nameTooLong := by
      unfold find
      exact if_pos (Nat.le_of_not_lt long)
    unfold isOccupied at h
    rw [lost] at h
    simp only [status, clean, lost] at h
    cases h
  · have follows : fs.find x.machine.cwd true x.config.publishedDatabase = .entry l .dir := by
      have short := FileSystem.find_eq_walk (by rw [found]; rfl) fs true
        (p := x.config.publishedDatabase)
      have walks := walks_find found rfl
      rw [short]
      exact (walks.of_nofollow fun k target h => by cases h).walk_eq
    unfold isOccupied at h
    rw [found] at h
    simp only [status, clean, follows] at h
    cases h

theorem isFreed_of_unlink (clear : x.HasClearWays fs)
    (h : fs.unlink x.machine.cwd x.config.publishedDatabase = .ok gs) : x.IsFreed fs gs := by
  obtain ⟨l, e, found, hdir, rfl⟩ := unlink_eq_ok h
  have opened := clear.isOpen (fun _ _ => rfl) (by rw [found]; rfl)
  obtain ⟨here, -⟩ := location_of_landing ((opened.find_nofollow _).symm.trans found)
  obtain rfl : l = x.config.publishedDatabase.parts := here
  have ne : x.config.publishedDatabase.parts ≠ [] := publishedDatabase_ne_nil x.config
  have same : x.Elsewhere fs (fs.erase x.config.publishedDatabase.parts) := by
    intro k hk
    rw [get?_erase fs ne]
    exact if_neg hk
  have gone : (fs.erase x.config.publishedDatabase.parts).get? x.config.publishedDatabase.parts =
      none := by
    rw [get?_erase fs ne]
    exact if_pos rfl
  refine ⟨same, .inr gone, fun l target found' => ?_, fun _ => ⟨opened.short, fun l found' => ?_⟩⟩
  · have still := same.isOpen opened (not_published_above x.config)
    have lands := (still.find_nofollow x.machine.cwd).symm.trans found'
    obtain ⟨-, there⟩ := location_of_landing lands
    have gone' := gone.symm.trans there
    cases gone'
  · rw [found] at found'
    cases found'
    exact hdir rfl

theorem freeTarget_isFreed (clear : x.HasClearWays fs) : x.freeTarget.OnFiles (· = fs) fun r gs =>
    x.IsFreed fs gs ∨ gs = fs ∧ r ≠ .ok (.ok ()) := by
  unfold freeTarget
  refine (onFiles_look _ _ _).bind (fun occupied => ?_) fun e gs h => .inr ⟨h.1, by simp⟩
  split
  · exact onFiles_pure fun gs h => .inr ⟨h.1, by simp⟩
  · refine onFiles_pure fun gs h => .inl ?_
    obtain ⟨rfl, free⟩ := h
    exact isFreed_of_unoccupied (free _ rfl)
  · refine onFiles_change (fun gs hs h done => ?_) fun gs e h => .inr ⟨h.1, by simp⟩
    obtain ⟨rfl, -⟩ := h
    exact .inl (isFreed_of_unlink clear (mapError_eq_ok done))

/-! ## Placing the database -/

/-- The published place holds a link to the database, or a copy of it. -/
structure IsPlaced (x : Executor) (mode : Nat) (content : List UInt8) (gs : FileSystem) : Prop where
  project : IsOpen gs x.config.projectDir databaseName
  build : IsOpen gs x.config.buildDir databaseName
  database : gs.get? x.config.database.parts = some (.file mode content)
  published : gs.get? x.config.publishedDatabase.parts = some (.link x.config.database.toString) ∨
    gs.get? x.config.publishedDatabase.parts = some (.file mode content)

/-- The database is there, and will be when another entry stands at the published place. -/
structure HoldsDatabase (x : Executor) (mode : Nat) (content : List UInt8)
    (fs : FileSystem) : Prop where
  build : IsOpen fs x.config.buildDir databaseName
  database : fs.get? x.config.database.parts = some (.file mode content)
  apart : x.config.database.parts ≠ x.config.publishedDatabase.parts
  off : ¬ x.config.publishedDatabase.parts <+: x.config.buildDir.parts

theorem HoldsDatabase.elsewhere (built : x.HoldsDatabase mode content fs)
    (same : x.Elsewhere fs gs) : x.HoldsDatabase mode content gs :=
  ⟨same.isOpen built.build built.off, (same _ built.apart).trans built.database, built.apart,
    built.off⟩

theorem HoldsDatabase.find (built : x.HoldsDatabase mode content fs) (follow : Bool) :
    fs.find x.machine.cwd follow x.config.database =
      .entry x.config.database.parts (.file mode content) := by
  have found := built.build.find_eq x.machine.cwd follow
    (fun _ target link => by cases link.symm.trans built.database)
  exact found.trans (congrArg (landing _) built.database)

theorem isPlaced_of_makeLink (built : x.HoldsDatabase mode content gs)
    (clear : x.HasClearWays fs) (freed : x.IsFreed fs gs)
    (h : gs.makeLink x.machine.cwd x.config.publishedDatabase x.config.database.toString = .ok hs) :
    x.Elsewhere gs hs ∧ x.IsPlaced mode content hs := by
  obtain ⟨l, found, rfl⟩ := makeLink_eq_ok h
  have open' := clear.isOpen freed.elsewhere (by rw [found]; rfl)
  obtain ⟨here, -⟩ := location_of_landing_absent ((open'.find_nofollow _).symm.trans found)
  obtain rfl : l = x.config.publishedDatabase.parts := here
  have same := x.elsewhere_put gs (.link x.config.database.toString)
  have built' := built.elsewhere same
  exact ⟨same, same.isOpen open' (not_published_above x.config), built'.build, built'.database,
    .inl (x.get?_put_published gs _)⟩

theorem isPlaced_of_copy (built : x.HoldsDatabase mode content gs)
    (clear : x.HasClearWays fs) (freed : x.IsFreed fs gs)
    (h : gs.copy x.machine.cwd x.config.database x.config.publishedDatabase = .ok hs) :
    x.Elsewhere gs hs ∧ x.IsPlaced mode content hs := by
  obtain ⟨content', written, hcontent, hwrite, hmode⟩ := copy_eq_ok h
  rw [built.find] at hcontent hmode
  obtain rfl : content' = content := by
    unfold contentAt at hcontent
    dsimp only at hcontent
    split at hcontent
    · exact (Except.ok.inj hcontent).symm
    · cases hcontent
  obtain ⟨l, m, there, rfl⟩ := writeAt_eq_ok hwrite
  have hl : (gs.find x.machine.cwd true x.config.publishedDatabase).location? = some l := by
    rcases there with there | ⟨old, there⟩ <;> rw [there] <;> rfl
  have open' := clear.isOpen freed.elsewhere hl
  have noLink : ∀ target, gs.get? x.config.publishedDatabase.parts ≠ some (.link target) := by
    intro target link
    refine freed.unlinked x.config.publishedDatabase.parts target ?_
    exact (open'.find_nofollow _).trans (congrArg (landing _) link)
  have lands := open'.find_eq x.machine.cwd true fun _ => noLink
  obtain rfl : l = x.config.publishedDatabase.parts := by
    rcases there with there | ⟨old, there⟩
    · exact (location_of_landing_absent (lands.symm.trans there)).1
    · exact (location_of_landing (lands.symm.trans there)).1
  -- the mode of the copy is set where the copy was written
  have still := (x.elsewhere_put gs (.file m content')).isOpen open' (not_published_above x.config)
  have found := still.find_eq x.machine.cwd true fun _ target link => by
    cases link.symm.trans (x.get?_put_published gs (.file m content'))
  have found : (gs.put x.config.publishedDatabase.parts (.file m content')).find x.machine.cwd true
      x.config.publishedDatabase = .entry x.config.publishedDatabase.parts (.file m content') :=
    found.trans (congrArg (landing _) (x.get?_put_published gs _))
  rw [found] at hmode
  cases hmode
  have same : x.Elsewhere gs ((gs.put x.config.publishedDatabase.parts (.file m content')).put
      x.config.publishedDatabase.parts (.file mode content')) :=
    fun k hk => (x.elsewhere_put _ _ k hk).trans (x.elsewhere_put gs _ k hk)
  have built' := built.elsewhere same
  exact ⟨same, same.isOpen open' (not_published_above x.config), built'.build, built'.database,
    .inr (x.get?_put_published _ _)⟩

/-- What an attempt to publish the database has come to: only the published place has changed; it
was a success, or the entry there was kept or taken away. -/
structure Attempted (x : Executor) (fs : FileSystem) (success : Prop) (gs : FileSystem) : Prop where
  elsewhere : x.Elsewhere fs gs
  placed : success → ∃ mode content, x.HoldsDatabase mode content fs ∧ x.IsPlaced mode content gs
  kept : ¬ success →
    gs.get? x.config.publishedDatabase.parts = fs.get? x.config.publishedDatabase.parts ∨
      gs.get? x.config.publishedDatabase.parts = none

theorem IsFreed.attempted (freed : x.IsFreed fs gs) {success : Prop} (failed : ¬ success) :
    x.Attempted fs success gs :=
  ⟨freed.elsewhere, fun h => absurd h failed, fun _ => freed.kept⟩

theorem attempted_nothing {success : Prop} (failed : ¬ success) : x.Attempted fs success fs :=
  ⟨fun _ _ => rfl, fun h => absurd h failed, fun _ => .inl rfl⟩

theorem Attempted.of_iff {success success' : Prop} (h : x.Attempted fs success gs)
    (same : success ↔ success') : x.Attempted fs success' gs :=
  propext same ▸ h

theorem placeDatabase_attempted (clear : x.HasClearWays fs)
    (holds : x.HoldsDatabase mode content fs) :
    x.placeDatabase.OnFiles (x.IsFreed fs) fun r gs =>
      x.Attempted fs (r = .ok (.ok ())) gs := by
  have done {gs hs : FileSystem} (freed : x.IsFreed fs gs)
      (h : x.Elsewhere gs hs ∧ x.IsPlaced mode content hs) {success : Prop} (hsuccess : success) :
      x.Attempted fs success hs :=
    ⟨fun k hk => (h.1 k hk).trans (freed.elsewhere k hk), fun _ => ⟨mode, content, holds, h.2⟩,
      fun failed => absurd hsuccess failed⟩
  have copy : (change x.machine.faults .copy fun gs => gs.copy x.machine.cwd x.config.database
      x.config.publishedDatabase).OnFiles (x.IsFreed fs) fun r gs =>
        x.Attempted fs (r = .ok (.ok ())) gs := by
    refine onFiles_change (fun gs hs freed h => ?_) fun gs e freed => freed.attempted (by simp)
    exact done freed (isPlaced_of_copy (holds.elsewhere freed.elsewhere) clear freed h) rfl
  have link : (change x.machine.faults .link fun gs =>
      (gs.makeLink x.machine.cwd x.config.publishedDatabase x.config.database.toString).mapError
        fun cause => FileError.onPath cause x.config.publishedDatabase.toString).OnFiles
      (x.IsFreed fs) fun r gs => (r = .ok (.ok ()) → x.Attempted fs True gs) ∧
        (r ≠ .ok (.ok ()) → x.IsFreed fs gs) := by
    refine onFiles_change (fun gs hs freed h => ⟨fun _ => ?_, fun failed => absurd rfl failed⟩)
      fun gs e freed => ⟨fun h => (by cases h), fun _ => freed⟩
    exact done freed (isPlaced_of_makeLink (holds.elsewhere freed.elsewhere) clear freed
      (mapError_eq_ok h)) trivial
  unfold placeDatabase
  dsimp only
  split
  · exact copy
  · refine link.bind (fun linked => ?_) fun e gs h => (h.2 (by simp)).attempted (by simp)
    split
    · exact onFiles_pure fun gs h => (h.1 rfl).of_iff (by simp)
    · exact copy.restrict fun gs h => h.2 (by simp)

/-! ## The whole publication -/

theorem isFileAt_eq_true {cwd : Location} {p : Path} (h : Document.isFileAt fs cwd p = .ok true) :
    hasNul p = false ∧ ∃ l mode content, fs.find cwd true p = .entry l (.file mode content) := by
  unfold Document.isFileAt at h
  obtain ⟨there, hthere, h⟩ := bind_eq_ok h
  unfold status at hthere
  by_cases nul : hasNul p = true
  · rw [if_pos nul] at hthere
    cases hthere
    cases h
  · rw [if_neg nul] at hthere
    refine ⟨by simpa using nul, ?_⟩
    split at hthere
    · rename_i l e found
      cases hthere
      match e with
      | .file mode content => exact ⟨l, mode, content, found⟩
      | .dir => cases h
      | .link target => cases h
    · cases hthere
      cases h
    · split at hthere
      · cases hthere
        cases h
      · cases hthere

/-- A directory at the published place cannot be freed, so the database is not below it. -/
theorem IsFreed.off (freed : x.IsFreed fs gs) (clear : x.HasClearWays fs)
    (nul : hasNul x.config.database = false)
    (build : IsOpen fs x.config.buildDir databaseName) :
    ¬ x.config.publishedDatabase.parts <+: x.config.buildDir.parts := by
  intro le
  have clean : hasNul x.config.publishedDatabase = false := by
    unfold hasNul at nul ⊢
    rw [List.any_eq_false] at nul ⊢
    exact fun n hn => nul n (List.mem_append_left _ (le.subset hn))
  obtain ⟨short, noDir⟩ := freed.lookedUp clean
  have way : HasWay fs x.config.projectDir.parts :=
    build.way.of_prefix ((List.prefix_append _ [databaseName]).trans le)
  have opened : IsOpen fs x.config.projectDir databaseName :=
    ⟨clear.project.1, short, way, build.fits⟩
  refine noDir x.config.publishedDatabase.parts ?_
  exact (opened.find_nofollow _).trans (congrArg (landing _) (build.way.dirs _ le))

theorem replaceDatabase_attempted (clear : x.HasClearWays fs) :
    x.replaceDatabase.OnFiles (· = fs) fun r gs => x.Attempted fs (r = .ok (.ok true)) gs := by
  unfold replaceDatabase
  refine (onFiles_look _ _ _).bind (fun there => ?_)
    fun e gs h => h.1 ▸ attempted_nothing (by simp)
  split
  · exact onFiles_pure fun gs h => h.1 ▸ attempted_nothing (by simp)
  · exact onFiles_pure fun gs h => h.1 ▸ attempted_nothing (by simp)
  · refine onFiles_of_forall fun gs ⟨same, there⟩ => ?_
    subst gs
    obtain ⟨nul, l, mode, content, found⟩ := isFileAt_eq_true (there _ rfl)
    have build : IsOpen fs x.config.buildDir databaseName :=
      isOpen_of_find clear.build.1 clear.build.2 isPlainName_databaseName
        (clear.toDatabase.of_prefix (List.prefix_append _ _)) (congrArg Sight.location? found)
    have lands := build.find_eq x.machine.cwd true fun _ =>
      clear.toDatabase _ List.prefix_rfl
    obtain ⟨-, database⟩ := location_of_landing (lands.symm.trans found)
    refine (freeTarget_isFreed clear).bind (fun freed => ?_) fun e gs h => ?_
    · split
      · refine onFiles_pure fun gs h => ?_
        rcases h with freed | ⟨rfl, -⟩
        · exact freed.attempted (by simp)
        · exact attempted_nothing (by simp)
      · -- the place is free now, so it was not above the database
        intro t ht
        have freed := ht.resolve_right fun h => h.2 rfl
        have holds : x.HoldsDatabase mode content fs :=
          ⟨build, database, clear.apart, freed.off clear nul build⟩
        have answered : (x.placeDatabase >>= fun r => pure (r.map fun _ => true)).OnFiles
            (x.IsFreed fs) fun r gs => x.Attempted fs (r = .ok (.ok true)) gs := by
          refine (placeDatabase_attempted clear holds).bind (fun r => ?_) fun e gs h => ?_
          · cases r with
            | ok u => exact onFiles_pure fun gs h => h.of_iff (by simp [Except.map])
            | error e => exact onFiles_pure fun gs h => h.of_iff (by simp [Except.map])
          · exact h.of_iff (by simp)
        exact answered t freed
    · rcases h with freed | ⟨rfl, -⟩
      · exact freed.attempted (by simp)
      · exact attempted_nothing (by simp)

/-- Publishing succeeds with what the database holds, or leaves the published place as it is or
free. -/
theorem publish_attempted (clear : x.HasClearWays fs) : x.publish.OnFiles (· = fs) fun r gs =>
    x.Attempted fs (r = .ok (some x.config.publishedDatabase)) gs := by
  unfold publish
  dsimp only
  refine (replaceDatabase_attempted clear).bind (fun r => ?_) fun e gs h => h.of_iff (by simp)
  split
  · exact onFiles_print_bind (onFiles_pure fun gs h => h.of_iff (by simp))
  · exact onFiles_print_bind (onFiles_pure fun gs h => h.of_iff (by simp))
  · exact onFiles_print_bind (onFiles_pure fun gs h => h.of_iff (by simp))

/-- Without a database, there is no attempt to publish one. -/
theorem publish_of_missing
    (missing : Document.isFileAt fs x.machine.cwd x.config.database ≠ .ok true) :
    x.publish.OnFiles (· = fs) fun r gs =>
      gs = fs ∧ r ≠ .ok (some x.config.publishedDatabase) := by
  have replace : x.replaceDatabase.OnFiles (· = fs) fun r gs =>
      gs = fs ∧ r ≠ .ok (.ok true) := by
    unfold replaceDatabase
    refine (onFiles_look _ _ _).bind (fun there => ?_) fun e gs h => ⟨h.1, by simp⟩
    split
    · exact onFiles_pure fun gs h => ⟨h.1, by simp⟩
    · exact onFiles_pure fun gs h => ⟨h.1, by simp⟩
    · intro s ⟨hs, there⟩
      exact absurd (hs ▸ there _ rfl) missing
  unfold publish
  dsimp only
  refine replace.bind (fun r => ?_) fun e gs h => ⟨h.1, by simp⟩
  split
  · exact onFiles_print_bind (onFiles_pure fun gs h => ⟨h.1, by simp⟩)
  · exact onFiles_print_bind (onFiles_pure fun gs h => ⟨h.1, by simp⟩)
  · exact onFiles_print_bind (onFiles_pure fun gs h => absurd rfl h.2)

/-! ## Paths that are found -/

/-- The paths of a publication are short enough to be looked at. -/
structure HasShortPaths (x : Executor) : Prop where
  database : x.config.database.toString.utf8ByteSize < maxPathOctets
  published : x.config.publishedDatabase.toString.utf8ByteSize < maxPathOctets

theorem placeDatabase_short (x : Executor) : x.placeDatabase.OnFiles (fun _ => True) fun r _ =>
    r = .ok (.ok ()) → x.config.publishedDatabase.toString.utf8ByteSize < maxPathOctets := by
  have copy : (change x.machine.faults .copy fun fs => fs.copy x.machine.cwd x.config.database
      x.config.publishedDatabase).OnFiles (fun _ => True) fun r _ => r = .ok (.ok ()) →
        x.config.publishedDatabase.toString.utf8ByteSize < maxPathOctets := by
    refine onFiles_change (fun fs gs _ done _ => ?_) fun fs e _ failed => by cases failed
    obtain ⟨content, written, -, hwrite, -⟩ := copy_eq_ok done
    obtain ⟨l, mode, there | ⟨old, there⟩, -⟩ := writeAt_eq_ok hwrite
    · exact short_of_find (congrArg Sight.location? there)
    · exact short_of_find (congrArg Sight.location? there)
  unfold placeDatabase
  dsimp only
  split
  · exact copy
  · have link : (change x.machine.faults .link fun fs =>
        (fs.makeLink x.machine.cwd x.config.publishedDatabase x.config.database.toString).mapError
          fun cause => FileError.onPath cause x.config.publishedDatabase.toString).OnFiles
        (fun _ => True) fun r _ => r = .ok (.ok ()) →
          x.config.publishedDatabase.toString.utf8ByteSize < maxPathOctets := by
      refine onFiles_change (fun fs gs _ done _ => ?_) fun fs e _ failed => by cases failed
      obtain ⟨l, found, -⟩ := makeLink_eq_ok (mapError_eq_ok done)
      exact short_of_find (congrArg Sight.location? found)
    refine link.bind (fun linked => ?_) fun e gs _ failed => by cases failed
    split
    · exact onFiles_pure fun gs short _ => short rfl
    · exact copy.restrict fun _ _ => trivial

theorem replaceDatabase_short (x : Executor) : x.replaceDatabase.OnFiles (fun _ => True) fun r _ =>
    r = .ok (.ok true) → x.HasShortPaths := by
  unfold replaceDatabase
  refine (onFiles_look _ _ _).bind (fun there => ?_) fun e gs _ failed => by cases failed
  split
  · exact onFiles_pure fun gs _ failed => by cases failed
  · exact onFiles_pure fun gs _ failed => by cases failed
  · refine onFiles_of_forall fun gs ⟨_, seen⟩ => ?_
    obtain ⟨-, l, mode, content, found⟩ := isFileAt_eq_true (seen _ rfl)
    have database := short_of_find (congrArg Sight.location? found)
    refine (onFiles_true x.freeTarget).bind (fun freed => ?_) fun e gs _ failed => by cases failed
    split
    · exact onFiles_pure fun gs _ failed => by cases failed
    · refine x.placeDatabase_short.bind (fun placed => ?_) fun e gs _ failed => by cases failed
      cases placed with
      | ok => exact onFiles_pure fun gs published _ => ⟨database, published rfl⟩
      | error e => exact onFiles_pure fun gs _ failed => by cases failed

theorem publish_short (x : Executor) : x.publish.OnFiles (fun _ => True) fun r _ =>
    r = .ok (some x.config.publishedDatabase) → x.HasShortPaths := by
  unfold publish
  dsimp only
  refine x.replaceDatabase_short.bind (fun r => ?_) fun e gs _ failed => by cases failed
  split
  · exact onFiles_print_bind (onFiles_pure fun gs _ failed => by cases failed)
  · exact onFiles_print_bind (onFiles_pure fun gs _ failed => by cases failed)
  · exact onFiles_print_bind (onFiles_pure fun gs short _ => short rfl)

/-! ## Reading what was published -/

theorem linkComponents_toString {p : Path} (root : p.anchor = .root) (proper : p.IsProper)
    (more : p.parts ≠ []) : linkComponents p.toString = p.parts := by
  have full : ∀ n ∈ p.parts, n.isEmpty = false := fun n hn => by
    simpa [String.isEmpty_iff] using (proper n hn).1
  obtain ⟨before, last, hparts⟩ : ∃ before last, p.parts = before ++ [last] :=
    ⟨_, _, (List.dropLast_append_getLast more).symm⟩
  have hlast : last ≠ "" := (proper last (by simp [hparts])).1
  have ends : ("" :: p.parts).getLast? = some last := by
    rw [hparts, ← List.cons_append]
    exact List.getLast?_concat
  unfold linkComponents
  rw [Path.pieces_toString_root root proper, if_neg more]
  dsimp only
  rw [ends, if_neg (by simpa using hlast), List.append_nil, List.filter_cons_of_neg (by decide)]
  exact List.filter_eq_self.mpr fun n hn => by simp [full n hn]

/-- Reading the published place is reading the database. -/
theorem IsPlaced.read_eq (placed : x.IsPlaced mode content gs)
    (root : x.config.buildDir.anchor = .root) (proper : x.config.buildDir.IsProper)
    (cwd : Location) :
    gs.read cwd x.config.publishedDatabase = gs.read cwd x.config.database := by
  have noLink : ∀ target, gs.get? x.config.database.parts ≠ some (.link target) :=
    fun target link => by cases link.symm.trans placed.database
  have source (n : Nat) : walk gs true n x.config.buildDir.parts [databaseName] =
      .entry x.config.database.parts (.file mode content) :=
    (placed.build.walk_eq n fun _ => noLink).trans (congrArg (landing _) placed.database)
  have hsource : gs.find cwd true x.config.database =
      .entry x.config.database.parts (.file mode content) :=
    (placed.build.find_eq_walk cwd true).trans (source maxLinks)
  unfold FileSystem.read
  rw [hsource]
  rcases placed.published with link | copy
  · have followed : gs.find cwd true x.config.publishedDatabase =
        walk gs true 39 [] x.config.database.parts := by
      have components : linkComponents x.config.database.toString = x.config.database.parts := by
        have more : x.config.database.parts ≠ [] :=
          List.append_ne_nil_of_right_ne_nil _ (List.cons_ne_nil databaseName [])
        refine linkComponents_toString root (fun n hn => ?_) more
        rcases List.mem_append.mp hn with hn | hn
        · exact proper n hn
        · rw [List.mem_singleton.mp hn]
          decide
      have absolute : isAbsoluteText x.config.database.toString = true :=
        Path.isAbsoluteText_toString placed.build.absolute
      refine (placed.project.find_eq_walk cwd true).trans ?_
      rw [walk_of_fits placed.project.fits]
      have here : gs.get? (x.config.projectDir.parts ++ [databaseName]) =
          some (.link x.config.database.toString) := link
      rw [here]
      simp [absolute, components, jumpWith, maxLinks]
    rw [followed]
    have walked := placed.build.way.walk_append true 39 [databaseName]
    exact congrArg contentAt (walked.trans (source 39))
  · have found := placed.project.find_eq cwd true
      fun _ target link => by cases link.symm.trans copy
    have found : gs.find cwd true x.config.publishedDatabase =
        .entry x.config.publishedDatabase.parts (.file mode content) :=
      found.trans (congrArg (landing _) copy)
    rw [found]
    rfl

end Executor

end BuildPilot
