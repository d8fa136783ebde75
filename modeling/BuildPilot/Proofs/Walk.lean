import BuildPilot.FileSystem.Walk
import BuildPilot.Proofs.RealPath

/-!
# Walks

A walk as a relation, with one rule for each kind of step, beside the function that walks. What a
walk comes to depends on the entries that it passes, so a change at the location where it ends does
not lead it elsewhere; and a walk below a directory stays there unless it passes a symbolic link.
-/

namespace BuildPilot

/-- Whether a walk that has no more names stops at an entry, and does not go on into it or behind
it. -/
def Entry.stops (follow : Bool) : Entry → Bool
  | .dir => false
  | .file _ _ => true
  | .link _ => !follow

/-- An entry without the mode and the content of a file. -/
def Entry.kind : Entry → Entry
  | .file _ _ => .file 0 []
  | e => e

theorem Entry.stops_kind (follow : Bool) (e : Entry) : e.kind.stops follow = e.stops follow := by
  cases e <;> rfl

namespace FileSystem

/-! ## The rules of walking -/

/-- A name that a step can be made to: it is plain and not too long. -/
def Fits (name : String) : Prop := IsPlainName name ∧ name.utf8ByteSize ≤ maxNameOctets

instance (name : String) : Decidable (Fits name) :=
  inferInstanceAs (Decidable (_ ∧ _))

/-- What a walk that stops at a location comes to. -/
def landing (l : Location) : Option Entry → Sight
  | none => .absent l
  | some e => .entry l e

/-- Why a walk cannot go on to a name, with `rest` behind it and `n` links left. -/
inductive Stuck (fs : FileSystem) (follow : Bool) (n : Nat) (loc : Location) (name : String)
    (rest : List String) : ErrorCause → Prop
  | long (plain : IsPlainName name) (long : maxNameOctets < name.utf8ByteSize) :
      Stuck fs follow n loc name rest .nameTooLong
  | lost (fits : Fits name) (free : fs.get? (loc ++ [name]) = none) (more : rest ≠ []) :
      Stuck fs follow n loc name rest .noEntry
  | blocked {mode : Nat} {content : List UInt8} (fits : Fits name)
      (file : fs.get? (loc ++ [name]) = some (.file mode content)) (more : rest ≠ []) :
      Stuck fs follow n loc name rest .notDirectory
  | tired {target : String} (fits : Fits name)
      (link : fs.get? (loc ++ [name]) = some (.link target)) (through : rest ≠ [] ∨ follow = true)
      (spent : n = 0) : Stuck fs follow n loc name rest .linkLoop

/-- `Walks fs follow n loc names s`: walking `names` from the directory `loc` comes to `s`, where at
most `n` links are followed. -/
inductive Walks (fs : FileSystem) (follow : Bool) : Nat → Location → List String → Sight → Prop
  | arrived (n : Nat) (loc : Location) : Walks fs follow n loc [] (.entry loc .dir)
  | stay {n : Nat} {loc : Location} {name : String} {rest : List String} {s : Sight}
      (dot : name = "" ∨ name = ".") (on : Walks fs follow n loc rest s) :
      Walks fs follow n loc (name :: rest) s
  | up {n : Nat} {loc : Location} {rest : List String} {s : Sight}
      (on : Walks fs follow n loc.dropLast rest s) : Walks fs follow n loc (".." :: rest) s
  | landed {n : Nat} {loc : Location} {name : String} (fits : Fits name)
      (stops : ∀ e, fs.get? (loc ++ [name]) = some e → e.stops follow = true) :
      Walks fs follow n loc [name] (landing (loc ++ [name]) (fs.get? (loc ++ [name])))
  | down {n : Nat} {loc : Location} {name : String} {rest : List String} {s : Sight}
      (fits : Fits name) (dir : fs.get? (loc ++ [name]) = some .dir)
      (on : Walks fs follow n (loc ++ [name]) rest s) : Walks fs follow n loc (name :: rest) s
  | jump {n : Nat} {loc : Location} {name target : String} {rest : List String} {s : Sight}
      (fits : Fits name) (link : fs.get? (loc ++ [name]) = some (.link target))
      (through : rest ≠ [] ∨ follow = true)
      (on : Walks fs follow n (if isAbsoluteText target then [] else loc)
        (linkComponents target ++ rest) s) : Walks fs follow (n + 1) loc (name :: rest) s
  | stuck {n : Nat} {loc : Location} {name : String} {rest : List String} {cause : ErrorCause}
      (why : Stuck fs follow n loc name rest cause) :
      Walks fs follow n loc (name :: rest) (.failed cause)

variable {fs gs : FileSystem} {follow : Bool} {n : Nat} {loc l : Location} {names : List String}
  {s : Sight}

/-- Where a walk goes on behind a link when `n` links are left. -/
def jumpWith (fs : FileSystem) (follow : Bool) : Nat → Location → List String → Sight
  | 0, _, _ => .failed .linkLoop
  | n + 1, loc, names => walk fs follow n loc names

theorem walk_eq_walkWith (fs : FileSystem) (follow : Bool) (n : Nat) :
    walk fs follow n = walkWith fs follow (jumpWith fs follow n) := by
  cases n <;> rfl

theorem walks_walkWith
    (behind : ∀ m, n = m + 1 → ∀ loc names, Walks fs follow m loc names (walk fs follow m loc names))
    (names : List String) :
    ∀ loc, Walks fs follow n loc names (walkWith fs follow (jumpWith fs follow n) loc names) := by
  induction names with
  | nil => exact fun loc => .arrived n loc
  | cons name rest ih =>
    intro loc
    unfold walkWith
    dsimp only
    split
    · rename_i dot
      exact .stay (by simpa using dot) (ih loc)
    rename_i dot
    split
    · rename_i dots
      rw [eq_of_beq dots]
      exact .up (ih loc.dropLast)
    rename_i dots
    have plain : IsPlainName name := by
      simpa [IsPlainName, and_assoc] using And.intro dot dots
    split
    · rename_i long
      exact .stuck (.long plain long)
    rename_i short
    have fits : Fits name := ⟨plain, Nat.le_of_not_lt short⟩
    have landed {e? : Option Entry} (he : fs.get? (loc ++ [name]) = e?)
        (stops : ∀ e, e? = some e → e.stops follow = true) :
        Walks fs follow n loc [name] (landing (loc ++ [name]) e?) := by
      subst he
      exact .landed fits stops
    split
    · rename_i free
      split
      · rename_i last
        rw [List.isEmpty_iff.mp last]
        exact landed free fun e h => by cases h
      · rename_i more
        exact .stuck (.lost fits free (by simpa using more))
    · rename_i dir
      exact .down fits dir (ih _)
    · rename_i mode content file
      split
      · rename_i last
        rw [List.isEmpty_iff.mp last]
        exact landed file fun e h => by cases h; rfl
      · rename_i more
        exact .stuck (.blocked fits file (by simpa using more))
    · rename_i target link
      split
      · rename_i ends
        obtain ⟨last, nofollow⟩ := by simpa using ends
        rw [last]
        exact landed link fun e h => by cases h; simp [Entry.stops, nofollow]
      · rename_i goes
        have through : rest ≠ [] ∨ follow = true := by
          by_cases last : rest = []
          · exact .inr (by simpa [last] using goes)
          · exact .inl last
        cases n with
        | zero => exact .stuck (.tired fits link through rfl)
        | succ m => exact .jump fits link through (behind m rfl _ _)

/-- The function that walks keeps to the rules. -/
theorem walks_walk (fs : FileSystem) (follow : Bool) (n : Nat) :
    ∀ loc names, Walks fs follow n loc names (walk fs follow n loc names) := by
  induction n with
  | zero =>
    intro loc names
    rw [walk_eq_walkWith]
    exact walks_walkWith (fun m h => by cases h) names loc
  | succ n ih =>
    intro loc names
    rw [walk_eq_walkWith]
    exact walks_walkWith (fun m h => by cases h; exact ih) names loc

/-- A step to a name that fits is decided by what stands there. -/
theorem walk_of_fits {name : String} (fits : Fits name) (rest : List String) :
    walk fs follow n loc (name :: rest) = match fs.get? (loc ++ [name]) with
      | none => if rest.isEmpty then .absent (loc ++ [name]) else .failed .noEntry
      | some .dir => walk fs follow n (loc ++ [name]) rest
      | some (.file mode content) =>
        if rest.isEmpty then .entry (loc ++ [name]) (.file mode content) else .failed .notDirectory
      | some (.link target) =>
        if rest.isEmpty && !follow then .entry (loc ++ [name]) (.link target)
        else jumpWith fs follow n (if isAbsoluteText target then [] else loc)
          (linkComponents target ++ rest) := by
  obtain ⟨⟨empty, dot, dots⟩, short⟩ := fits
  rw [walk_eq_walkWith]
  conv => lhs; unfold walkWith
  refine (if_neg ?_).trans ((if_neg ?_).trans ((if_neg ?_).trans rfl))
  · simp [empty, dot]
  · simp [dots]
  · exact Nat.not_lt.mpr short

theorem Stuck.walk_eq {name : String} {rest : List String} {cause : ErrorCause}
    (h : Stuck fs follow n loc name rest cause) :
    walk fs follow n loc (name :: rest) = .failed cause := by
  cases h with
  | long plain long =>
    obtain ⟨empty, dot, dots⟩ := plain
    rw [walk_eq_walkWith]
    unfold walkWith
    simp [empty, dot, dots, long]
  | lost fits free more =>
    rw [walk_of_fits fits, free]
    simp [more]
  | blocked fits file more =>
    rw [walk_of_fits fits, file]
    simp [more]
  | tired fits link through spent =>
    rw [walk_of_fits fits, link, spent]
    rcases through with more | rfl <;> simp [*, jumpWith]

/-- The rules determine what a walk comes to. -/
theorem Walks.walk_eq (h : Walks fs follow n loc names s) : walk fs follow n loc names = s := by
  induction h with
  | arrived n loc =>
    rw [walk_eq_walkWith]
    rfl
  | stay dot on ih =>
    rw [walk_eq_walkWith] at ih ⊢
    rcases dot with rfl | rfl <;> exact ih
  | up on ih =>
    rw [walk_eq_walkWith] at ih ⊢
    exact ih
  | @landed n loc name fits stops =>
    rw [walk_of_fits fits]
    match he : fs.get? (loc ++ [name]) with
    | none => rfl
    | some .dir => cases stops _ he
    | some (.file mode content) => rfl
    | some (.link target) =>
      have nofollow : follow = false := by simpa [Entry.stops] using stops _ he
      simp [nofollow, landing]
  | down fits dir on ih =>
    rw [walk_of_fits fits, dir]
    exact ih
  | jump fits link through on ih =>
    rw [walk_of_fits fits, link]
    rcases through with more | rfl
    · simpa [more, jumpWith] using ih
    · simpa [jumpWith] using ih
  | stuck why => exact why.walk_eq

@[simp] theorem location?_landing (l : Location) (e? : Option Entry) :
    (landing l e?).location? = some l := by
  cases e? <;> rfl

/-- A walk that comes to a location comes to a directory, or to what stands there. -/
theorem Walks.eq_landing (h : Walks fs follow n loc names s) (hl : s.location? = some l) :
    s = .entry l .dir ∨ s = landing l (fs.get? l) := by
  induction h with
  | arrived n loc =>
    cases hl
    exact .inl rfl
  | stay dot on ih => exact ih hl
  | up on ih => exact ih hl
  | landed fits stops =>
    rw [location?_landing] at hl
    cases hl
    exact .inr rfl
  | down fits dir on ih => exact ih hl
  | jump fits link through on ih => exact ih hl
  | stuck why => cases hl

/-- Following a link at the end makes a difference only if there is one. -/
theorem Walks.of_nofollow (h : Walks fs false n loc names s)
    (unlinked : ∀ l target, s ≠ .entry l (.link target)) : Walks fs true n loc names s := by
  induction h with
  | arrived n loc => exact .arrived n loc
  | stay dot on ih => exact .stay dot (ih unlinked)
  | up on ih => exact .up (ih unlinked)
  | @landed n loc name fits stops =>
    refine .landed fits fun e he => ?_
    cases e with
    | dir => cases stops _ he
    | file mode content => rfl
    | link target =>
      rw [he] at unlinked
      exact absurd rfl (unlinked _ target)
  | down fits dir on ih => exact .down fits dir (ih unlinked)
  | jump fits link through on ih => exact .jump fits link (.inr rfl) (ih unlinked)
  | stuck why =>
    refine .stuck ?_
    cases why with
    | long plain long => exact .long plain long
    | lost fits free more => exact .lost fits free more
    | blocked fits file more => exact .blocked fits file more
    | tired fits link through spent => exact .tired fits link (.inr rfl) spent

/-! ## Walks in changed file systems -/

/-- If only the entry at the end of a walk is changed, and no directory or link is put there, then
the same names still lead to that location or nowhere. -/
theorem Walks.of_touched {gs : FileSystem} (h : Walks fs false n loc names s)
    (hl : s.location? = some l) (hdir : fs.get? l ≠ some .dir)
    (agree : ∀ k, k ≠ l → gs.get? k = fs.get? k)
    (stops : ∀ e, gs.get? l = some e → e.stops true = true) (follow : Bool) :
    ∃ t, Walks gs follow n loc names t ∧ ∀ k, t.location? = some k → k = l := by
  induction h with
  | arrived n loc => exact ⟨_, .arrived n loc, fun k hk => by cases hl; cases hk; rfl⟩
  | stay dot on ih =>
    obtain ⟨t, walks, ends⟩ := ih hl
    exact ⟨t, .stay dot walks, ends⟩
  | up on ih =>
    obtain ⟨t, walks, ends⟩ := ih hl
    exact ⟨t, .up walks, ends⟩
  | @landed n loc name fits =>
    rw [location?_landing] at hl
    cases hl
    refine ⟨_, .landed fits fun e he => ?_, fun k hk => by simpa using hk.symm⟩
    have file := stops e he
    cases e <;> simp_all [Entry.stops]
  | down fits dir on ih =>
    obtain ⟨t, walks, ends⟩ := ih hl
    refine ⟨t, .down fits ?_ walks, ends⟩
    rw [agree _ fun here => hdir (here ▸ dir), dir]
  | @jump n loc name target rest s fits link through on ih =>
    have more : rest ≠ [] := by simpa using through
    by_cases here : loc ++ [name] = l
    · cases he : gs.get? l with
      | none => exact ⟨_, .stuck (.lost fits (here ▸ he) more), fun k hk => by cases hk⟩
      | some e =>
        have file := stops e he
        cases e with
        | dir => cases file
        | file mode content =>
          exact ⟨_, .stuck (.blocked fits (here ▸ he) more), fun k hk => by cases hk⟩
        | link target => cases file
    · obtain ⟨t, walks, ends⟩ := ih hl
      exact ⟨t, .jump fits (by rw [agree _ here, link]) (.inl more) walks, ends⟩
  | stuck why => cases hl

/-- The entries of `gs` are those of `fs`, up to the modes and contents of files. -/
def SameShape (fs gs : FileSystem) : Prop :=
  ∀ k, (gs.get? k).map Entry.kind = (fs.get? k).map Entry.kind

theorem SameShape.get?_eq_none {gs : FileSystem} (same : SameShape fs gs) {k : Location}
    (h : fs.get? k = none) : gs.get? k = none := by
  simpa [h] using same k

theorem SameShape.get?_eq_dir {gs : FileSystem} (same : SameShape fs gs) {k : Location}
    (h : fs.get? k = some .dir) : gs.get? k = some .dir := by
  have kind := same k
  rw [h] at kind
  obtain ⟨e, he, hkind⟩ := Option.map_eq_some_iff.mp kind
  cases e <;> first | exact he | cases hkind

theorem SameShape.get?_eq_link {gs : FileSystem} (same : SameShape fs gs) {k : Location}
    {target : String} (h : fs.get? k = some (.link target)) :
    gs.get? k = some (.link target) := by
  have kind := same k
  rw [h] at kind
  obtain ⟨e, he, hkind⟩ := Option.map_eq_some_iff.mp kind
  cases e with
  | link t =>
    cases hkind
    exact he
  | _ => cases hkind

theorem SameShape.get?_eq_file {gs : FileSystem} (same : SameShape fs gs) {k : Location}
    {mode : Nat} {content : List UInt8} (h : fs.get? k = some (.file mode content)) :
    ∃ mode' content', gs.get? k = some (.file mode' content') := by
  have kind := same k
  rw [h] at kind
  obtain ⟨e, he, hkind⟩ := Option.map_eq_some_iff.mp kind
  cases e with
  | file mode' content' => exact ⟨mode', content', he⟩
  | _ => cases hkind

theorem SameShape.stops {gs : FileSystem} (same : SameShape fs gs) {k : Location}
    (h : ∀ e, fs.get? k = some e → e.stops follow = true) :
    ∀ e, gs.get? k = some e → e.stops follow = true := by
  intro e he
  have kind := same k
  rw [he] at kind
  obtain ⟨e', he', hkind⟩ := Option.map_eq_some_iff.mp kind.symm
  rw [← Entry.stops_kind, ← hkind, Entry.stops_kind]
  exact h e' he'

theorem SameShape.symm {gs : FileSystem} (same : SameShape fs gs) : SameShape gs fs :=
  fun k => (same k).symm

/-- A sight without the mode and the content of a file. -/
def Sight.kind : Sight → Sight
  | .entry l e => .entry l e.kind
  | s => s

theorem kind_landing (l : Location) (e? : Option Entry) :
    (landing l e?).kind = landing l (e?.map Entry.kind) := by
  cases e? <;> rfl

/-- Modes and contents of files do not lead a walk elsewhere. -/
theorem Walks.of_sameShape {gs : FileSystem} (h : Walks fs follow n loc names s)
    (same : SameShape fs gs) : ∃ t, Walks gs follow n loc names t ∧ t.kind = s.kind := by
  induction h with
  | arrived n loc => exact ⟨_, .arrived n loc, rfl⟩
  | stay dot on ih =>
    obtain ⟨t, walks, ends⟩ := ih
    exact ⟨t, .stay dot walks, ends⟩
  | up on ih =>
    obtain ⟨t, walks, ends⟩ := ih
    exact ⟨t, .up walks, ends⟩
  | landed fits stops =>
    exact ⟨_, .landed fits (same.stops stops), by rw [kind_landing, kind_landing, same]⟩
  | down fits dir on ih =>
    obtain ⟨t, walks, ends⟩ := ih
    exact ⟨t, .down fits (same.get?_eq_dir dir) walks, ends⟩
  | jump fits link through on ih =>
    obtain ⟨t, walks, ends⟩ := ih
    exact ⟨t, .jump fits (same.get?_eq_link link) through walks, ends⟩
  | stuck why =>
    refine ⟨_, .stuck ?_, rfl⟩
    cases why with
    | long plain long => exact .long plain long
    | lost fits free more => exact .lost fits (same.get?_eq_none free) more
    | blocked fits file more =>
      obtain ⟨mode, content, file⟩ := same.get?_eq_file file
      exact .blocked fits file more
    | tired fits link through spent => exact .tired fits (same.get?_eq_link link) through spent

/-! ## Walks below a directory -/

/-- A walk of `xs` and then `ys` gets past `xs`: to a directory, from which it goes on, or to a
link. -/
def GetsPast (fs : FileSystem) (follow : Bool) (n : Nat) (loc : Location) (xs ys : List String)
    (s : Sight) : Prop :=
  (∃ k m, Walks fs false n loc xs (.entry k .dir) ∧ Walks fs follow m k ys s) ∨
    ∃ k target, Walks fs false n loc xs (.entry k (.link target)) ∧
      fs.get? k = some (.link target)

theorem Walks.getsPast_nil {ys : List String} (h : Walks fs follow n loc ys s) :
    GetsPast fs follow n loc [] ys s :=
  .inl ⟨loc, n, .arrived n loc, h⟩

/-- If a step leads from one walk of `xs` to another, then it leads past them, too. -/
theorem GetsPast.of_step {n' : Nat} {loc' : Location} {xs xs' ys : List String}
    (h : GetsPast fs follow n loc xs ys s)
    (step : ∀ t, Walks fs false n loc xs t → Walks fs false n' loc' xs' t) :
    GetsPast fs follow n' loc' xs' ys s := by
  rcases h with ⟨k, m, first, rest⟩ | ⟨k, target, first, link⟩
  · exact .inl ⟨k, m, step _ first, rest⟩
  · exact .inr ⟨k, target, step _ first, link⟩

/-- A walk that comes to a location gets past each front piece of its names. -/
theorem Walks.through {xs ys : List String} (h : Walks fs follow n loc (xs ++ ys) s)
    (more : ys ≠ []) (hl : s.location? = some l) : GetsPast fs follow n loc xs ys s := by
  generalize hnames : xs ++ ys = names at h
  induction h generalizing xs with
  | arrived n loc => exact absurd (List.append_eq_nil_iff.mp hnames).2 more
  | @stay n loc name rest s dot on ih =>
    rcases xs with _ | ⟨x, xs⟩
    · obtain rfl : ys = name :: rest := hnames
      exact getsPast_nil (.stay dot on)
    · obtain ⟨rfl, hrest⟩ := List.cons.inj hnames
      exact (ih hl hrest).of_step fun t => .stay dot
  | @up n loc rest s on ih =>
    rcases xs with _ | ⟨x, xs⟩
    · obtain rfl : ys = ".." :: rest := hnames
      exact getsPast_nil (.up on)
    · obtain ⟨rfl, hrest⟩ := List.cons.inj hnames
      exact (ih hl hrest).of_step fun t => .up
  | @landed n loc name fits stops =>
    rcases xs with _ | ⟨x, xs⟩
    · obtain rfl : ys = [name] := hnames
      exact getsPast_nil (.landed fits stops)
    · exact absurd (List.append_eq_nil_iff.mp (List.cons.inj hnames).2).2 more
  | @down n loc name rest s fits dir on ih =>
    rcases xs with _ | ⟨x, xs⟩
    · obtain rfl : ys = name :: rest := hnames
      exact getsPast_nil (.down fits dir on)
    · obtain ⟨rfl, hrest⟩ := List.cons.inj hnames
      exact (ih hl hrest).of_step fun t => .down fits dir
  | @jump n loc name target rest s fits link through on ih =>
    rcases xs with _ | ⟨x, xs⟩
    · obtain rfl : ys = name :: rest := hnames
      exact getsPast_nil (.jump fits link through on)
    · obtain ⟨rfl, rfl⟩ := List.cons.inj hnames
      by_cases last : xs = []
      · -- the link is the last of `xs`: without following it, the walk of `xs` ends there
        subst last
        have first : Walks fs false (n + 1) loc [x] _ :=
          .landed fits fun e he => by rw [link] at he; cases he; rfl
        rw [link] at first
        exact .inr ⟨_, target, first, link⟩
      · exact (ih hl (List.append_assoc _ _ _)).of_step fun t => .jump fits link (.inl last)
  | stuck why => cases hl

/-- A walk of plain names stays below its directory, or passes a link there. -/
theorem Walks.stays (h : Walks fs follow n loc names s) (plain : ∀ x ∈ names, IsPlainName x)
    (hl : s.location? = some l) :
    l = loc ++ names ∨
      ∃ zs target, zs <+: names ∧ fs.get? (loc ++ zs) = some (.link target) := by
  induction h with
  | arrived n loc =>
    cases hl
    exact .inl (List.append_nil _).symm
  | @stay n loc name rest s dot =>
    obtain ⟨empty, single, -⟩ := plain name List.mem_cons_self
    exact absurd dot (not_or.mpr ⟨empty, single⟩)
  | up => exact absurd rfl (plain ".." List.mem_cons_self).2.2
  | landed fits stops =>
    rw [location?_landing] at hl
    cases hl
    exact .inl rfl
  | @down n loc name rest s fits dir on ih =>
    rcases ih (fun x hx => plain x (List.mem_cons_of_mem name hx)) hl with
      rfl | ⟨zs, target, before, link⟩
    · exact .inl (List.append_assoc loc [name] rest)
    · refine .inr ⟨name :: zs, target, List.cons_prefix_cons.mpr ⟨rfl, before⟩, ?_⟩
      rwa [List.append_assoc] at link
  | @jump n loc name target rest s fits link =>
    exact .inr ⟨[name], target, List.cons_prefix_cons.mpr ⟨rfl, List.nil_prefix⟩, link⟩
  | stuck why => cases hl

end FileSystem

end BuildPilot
