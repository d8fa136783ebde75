import BuildPilot.Proofs.Walk
import Mathlib.Data.List.Induction
import Mathlib.Data.List.Perm.Subperm

/-!
# Real locations

Where a text leads, without the memory of a search and without its bound: `chase` follows the
components of a text from location to location, and what a link holds in place of the link.

A search that goes to its end comes to the location that `chase` comes to, whether its trail starts
at the root or at the working directory (`chase_of_resolveText`), as long as it sees the links that
are seen from the root. The other way round, a search from the root goes to its end wherever `chase`
comes to a location (`resolveText_of_chase`): a link that is met while it is being resolved would have
to be chased in fewer rounds than it takes, and as long as none is met, the open links are as many as
the search is deep.

Links are seen where the path to them is short (`IsShort`), and the text of a path grows with its
names.
-/

namespace BuildPilot.FileSystem

open Text

/-! ## Short locations -/

theorem toString_rooted (l : Location) : Path.toString ⟨.root, l⟩ = "/" ++ "/".intercalate l := by
  have full : ("/" ++ "/".intercalate l).isEmpty = false := by
    simp [String.isEmpty_eq_false_iff]
  unfold Path.toString
  exact if_neg (by rw [show Anchor.root.text = "/" from rfl, full]; decide)

theorem utf8ByteSize_intercalate_le (s : String) (l m : List String) :
    (s.intercalate l).utf8ByteSize ≤ (s.intercalate (l ++ m)).utf8ByteSize := by
  induction l with
  | nil => simp
  | cons x l ih =>
    cases l with
    | nil => cases m <;> simp [String.intercalate_cons_cons]; omega
    | cons y l =>
      rw [List.cons_append, List.cons_append, String.intercalate_cons_cons,
        String.intercalate_cons_cons]
      simp only [String.utf8ByteSize_append, List.cons_append] at ih ⊢
      omega

/-- The path from the root to a location is short enough to be looked at. -/
def IsShort (l : Location) : Prop := (Path.toString ⟨.root, l⟩).utf8ByteSize < maxPathOctets

instance (l : Location) : Decidable (IsShort l) :=
  inferInstanceAs (Decidable ((Path.toString ⟨.root, l⟩).utf8ByteSize < maxPathOctets))

theorem IsShort.of_prefix {l m : Location} (short : IsShort m) (le : l <+: m) : IsShort l := by
  obtain ⟨names, rfl⟩ := le
  have fewer := utf8ByteSize_intercalate_le "/" l names
  unfold IsShort at short ⊢
  rw [toString_rooted, String.utf8ByteSize_append] at short ⊢
  omega

/-! ## Chasing a text -/

/-- The text of the link at a location, if one is seen there from the root. -/
def linkTo? (fs : FileSystem) (l : Location) : Option String := linkAt? fs [] ⟨.root, l⟩

theorem link?_eq_some_iff {sight : Sight} {target : String} :
    sight.link? = some target ↔ ∃ k, sight = .entry k (.link target) := by
  unfold Sight.link?
  split
  · simp
  · next other => simpa using fun k same => other k target same

theorem linkTo?_eq {fs : FileSystem} {l : Location} : fs.linkTo? l =
    if IsShort l then (walk fs false maxLinks [] l).link? else none := by
  unfold linkTo? linkAt? find
  split
  · next long => exact (if_neg (Nat.not_lt.mpr long)).symm
  · next short => exact (if_pos (Nat.lt_of_not_le short)).symm

theorem linkTo?_eq_some {fs : FileSystem} {l : Location} {target : String} :
    fs.linkTo? l = some target ↔
      IsShort l ∧ ∃ k, walk fs false maxLinks [] l = .entry k (.link target) := by
  rw [linkTo?_eq, ← link?_eq_some_iff]
  split
  · next short => exact (and_iff_right short).symm
  · next long => simp [long]

/-- Where the components of a text are counted from. -/
def textStart (s : String) (loc : Location) : Location := if isAbsoluteText s then [] else loc

/-- Follows components from a location; `inner` follows the text of a link. -/
def chaseWith (fs : FileSystem) (inner : Location → String → Option Location) :
    Location → List String → Option Location
  | loc, [] => some loc
  | loc, name :: rest =>
    if name.isEmpty || name == "." then chaseWith fs inner loc rest
    else if name == ".." then chaseWith fs inner loc.dropLast rest
    else match fs.linkTo? (loc ++ [name]) with
      | none => chaseWith fs inner (loc ++ [name]) rest
      | some target => (inner loc target).bind fun l => chaseWith fs inner l rest

/-- Follows a text from a location, with links nested less than `rounds` deep. -/
def chase (fs : FileSystem) : (rounds : Nat) → Location → String → Option Location
  | 0, _, _ => none
  | rounds + 1, loc, s => chaseWith fs (chase fs rounds) (textStart s loc) (pieces '/' s)

variable {fs : FileSystem} {c loc out out' : Location} {s name : String}

theorem chaseWith_mono {inner inner' : Location → String → Option Location}
    (more : ∀ loc s l, inner loc s = some l → inner' loc s = some l) (names : List String) :
    ∀ loc, chaseWith fs inner loc names = some out → chaseWith fs inner' loc names = some out := by
  induction names with
  | nil => exact fun loc h => h
  | cons name rest ih =>
    intro loc h
    unfold chaseWith at h ⊢
    split
    · rename_i dot
      rw [if_pos dot] at h
      exact ih loc h
    rename_i dot
    rw [if_neg dot] at h
    split
    · rename_i dots
      rw [if_pos dots] at h
      exact ih _ h
    rename_i dots
    rw [if_neg dots] at h
    cases hlink : fs.linkTo? (loc ++ [name]) with
    | none =>
      rw [hlink] at h
      exact ih _ h
    | some target =>
      rw [hlink] at h
      obtain ⟨l, first, rest⟩ := Option.bind_eq_some_iff.mp h
      exact Option.bind_eq_some_iff.mpr ⟨l, more loc target l first, ih l rest⟩

theorem chase_succ (n : Nat) :
    ∀ loc s out, chase fs n loc s = some out → chase fs (n + 1) loc s = some out := by
  induction n with
  | zero => exact fun loc s out h => by cases h
  | succ n ih => exact fun loc s out h => chaseWith_mono ih _ _ h

/-- More rounds find the same location. -/
theorem chase_mono {n m : Nat} (le : n ≤ m) (h : chase fs n loc s = some out) :
    chase fs m loc s = some out := by
  induction le with
  | refl => exact h
  | step _ ih => exact chase_succ _ loc s out ih

theorem normalize_concat (parts : List String) (plain : IsPlainName name) :
    normalize (parts ++ [name]) = normalize parts ++ [name] := by
  obtain ⟨empty, dot, dots⟩ := plain
  simp [normalize, empty, dot, dots]

theorem normalize_concat_up (parts : List String) :
    normalize (parts ++ [".."]) = (normalize parts).dropLast := by
  simp [normalize]

theorem normalize_append {names : List String} (plain : ∀ n ∈ names, IsPlainName n)
    (parts : List String) : normalize (parts ++ names) = normalize parts ++ names := by
  induction names using List.reverseRecOn with
  | nil => simp
  | append_singleton names name ih =>
    have last : IsPlainName name := plain name (by simp)
    rw [← List.append_assoc, normalize_concat _ last,
      ih fun n hn => plain n (List.mem_append_left _ hn), List.append_assoc]

theorem normalize_of_plain {names : List String} (plain : ∀ n ∈ names, IsPlainName n) :
    normalize names = names :=
  normalize_append plain []

theorem normalize_append_congr {xs ys : List String} (same : normalize xs = normalize ys)
    (zs : List String) : normalize (xs ++ zs) = normalize (ys ++ zs) := by
  unfold normalize at same ⊢
  rw [List.foldl_append, List.foldl_append, same]

/-- Plain names are cancelled from their end by the double dots behind them. -/
theorem normalize_climb {names : List String} (plain : ∀ n ∈ names, IsPlainName n) (k : Nat)
    (rest : List String) : normalize (names ++ (List.replicate (k + 1) ".." ++ rest)) =
      normalize (names.dropLast ++ (List.replicate k ".." ++ rest)) := by
  have up : normalize (names ++ [".."]) = normalize names.dropLast := by
    rw [normalize_concat_up, normalize_of_plain plain,
      normalize_of_plain fun n hn => plain n (List.dropLast_subset names hn)]
  simpa [List.replicate_succ] using normalize_append_congr up (List.replicate k ".." ++ rest)

/-- The location that a trail stands for in a working directory. -/
def Trail.location (c : Location) (t : Trail) : Location := normalize (t.base c ++ t.parts)

/-- A trail climbs first, if it starts at the working directory, and then goes down by plain
names. -/
def Trail.IsClear (t : Trail) : Prop :=
  ∃ (k : Nat) (names : List String), t.parts = List.replicate k ".." ++ names ∧
    (∀ n ∈ names, IsPlainName n) ∧ (t.anchor = .here ∨ t.anchor = .root ∧ k = 0)

theorem isClear_root : Trail.IsClear ⟨.root, []⟩ := ⟨0, [], rfl, by simp, .inr ⟨rfl, rfl⟩⟩

theorem isClear_here : Trail.IsClear ⟨.here, []⟩ := ⟨0, [], rfl, by simp, .inl rfl⟩

theorem location_child (t : Trail) (plain : IsPlainName name) :
    (t.child name).location c = t.location c ++ [name] := by
  change normalize (t.base c ++ (t.parts ++ [name])) = _
  rw [← List.append_assoc, normalize_concat _ plain]
  rfl

theorem Trail.IsClear.child {t : Trail} (clear : t.IsClear) (plain : IsPlainName name) :
    (t.child name).IsClear := by
  obtain ⟨k, names, hparts, hnames, anchored⟩ := clear
  refine ⟨k, names ++ [name], ?_, ?_, anchored⟩
  · change t.parts ++ [name] = _
    rw [hparts, List.append_assoc]
  · intro n hn
    rcases List.mem_append.mp hn with hn | hn
    · exact hnames n hn
    · exact List.mem_singleton.mp hn ▸ plain

theorem Trail.IsClear.up {t : Trail} (clear : t.IsClear) :
    t.up.IsClear ∧ t.up.location c = (t.location c).dropLast := by
  obtain ⟨anchor, parts⟩ := t
  obtain ⟨k, names, hparts, hnames, anchored⟩ := clear
  dsimp only at hparts anchored
  -- climbing beyond the start, which only a trail from the working directory does
  have climb (last : names = []) (here : anchor = .here) :
      Trail.IsClear ⟨anchor, parts ++ [".."]⟩ ∧
        Trail.location c ⟨anchor, parts ++ [".."]⟩ =
          (Trail.location c ⟨anchor, parts⟩).dropLast := by
    refine ⟨⟨k + 1, [], ?_, by simp, .inl here⟩, ?_⟩
    · simp [hparts, last, List.replicate_succ']
    · change normalize (_ ++ (parts ++ [".."])) = _
      rw [← List.append_assoc, normalize_concat_up]
      rfl
  unfold Trail.up
  dsimp only
  induction names using List.reverseRecOn with
  | nil =>
    rw [List.append_nil] at hparts
    cases k with
    | zero =>
      obtain rfl : parts = [] := hparts
      by_cases here : anchor = .here
      · simpa [here, Trail.child] using climb rfl here
      · refine ⟨by simpa [here] using ⟨0, [], by simp, by simp, anchored⟩, ?_⟩
        simp [here, Trail.location, Trail.base, normalize]
    | succ k =>
      have here : anchor = .here := anchored.resolve_right fun h => by cases h.2
      have last : parts.getLast? = some ".." := by simp [hparts, List.replicate_succ']
      rw [last]
      exact climb rfl here
  | append_singleton names name _ =>
    have plain : IsPlainName name := hnames name (by simp)
    have last : parts.getLast? = some name := by
      rw [hparts, ← List.append_assoc]
      exact List.getLast?_concat
    have hdrop : parts.dropLast = List.replicate k ".." ++ names := by
      rw [hparts, ← List.append_assoc, List.dropLast_concat]
    have down : parts = parts.dropLast ++ [name] := by
      rw [hdrop, hparts, List.append_assoc]
    rw [last]
    dsimp only
    rw [if_neg (by simpa using plain.2.2)]
    refine ⟨⟨k, names, hdrop, fun n hn => hnames n (List.mem_append_left _ hn), anchored⟩, ?_⟩
    have before := location_child (c := c) ⟨anchor, parts.dropLast⟩ plain
    change Trail.location c ⟨anchor, parts.dropLast ++ [name]⟩ = _ at before
    rw [down, before, List.dropLast_concat, List.dropLast_concat]

/-! ## Ways of directories -/

/-- The way to a location leads through directories only, and steps can be made to its names. -/
structure HasWay (fs : FileSystem) (c : Location) : Prop where
  dirs : ∀ d, d <+: c → fs.get? d = some .dir
  fits : ∀ n ∈ c, Fits n

theorem HasWay.of_prefix {d : Location} (h : HasWay fs c) (le : d <+: c) : HasWay fs d :=
  ⟨fun e he => h.dirs e (he.trans le), fun n hn => h.fits n (le.subset hn)⟩

theorem hasWay_root (fs : FileSystem) : HasWay fs [] :=
  ⟨fun d hd => by rw [List.prefix_nil.mp hd, get?_root], by simp⟩

theorem HasWay.plain (h : HasWay fs c) : ∀ n ∈ c, IsPlainName n :=
  fun n hn => (h.fits n hn).1

/-- A walk from a directory is a walk from the root. -/
theorem HasWay.walk_append (h : HasWay fs c) (follow : Bool) (n : Nat) :
    ∀ names, walk fs follow n [] (c ++ names) = walk fs follow n c names := by
  induction c using List.reverseRecOn with
  | nil => exact fun names => rfl
  | append_singleton c x ih =>
    intro names
    rw [List.append_assoc, ih (h.of_prefix (List.prefix_append c [x]))]
    have fits : Fits x := h.fits x (by simp)
    exact (Walks.down fits (h.dirs _ List.prefix_rfl) (walks_walk fs follow n _ names)).walk_eq

theorem HasWay.walk_climbing {names : List String} (h : HasWay fs c)
    (plain : ∀ n ∈ names, IsPlainName n) (follow : Bool) (n k : Nat) :
    walk fs follow n c (List.replicate k ".." ++ names) =
      walk fs follow n [] (normalize (c ++ (List.replicate k ".." ++ names))) := by
  induction k generalizing c with
  | zero =>
    have all : ∀ x ∈ c ++ names, IsPlainName x := by
      intro x hx
      exact (List.mem_append.mp hx).elim (h.plain x) (plain x)
    rw [List.replicate_zero, List.nil_append, normalize_of_plain all, h.walk_append]
  | succ k ih =>
    rw [normalize_climb h.plain, ← ih (h.of_prefix (List.dropLast_prefix c))]
    exact (Walks.up (walks_walk fs follow n c.dropLast _)).walk_eq

/-- The trail from the root to the location of a trail from the working directory; other trails are
left as they are. -/
def Trail.fromRoot (c : Location) (t : Trail) : Trail :=
  if t.anchor = .here then ⟨.root, t.location c⟩ else t

/-- The text of the link at a trail, if one is seen there and would be seen from the root: it is the
spelling from the root that must not be too long. -/
def linkFromRoot? (fs : FileSystem) (c : Location) (t : Trail) : Option String :=
  if maxPathOctets ≤ (t.fromRoot c).path.toString.utf8ByteSize then none
  else (walk fs false maxLinks (t.base c) t.parts).link?

theorem Trail.IsClear.path_fromRoot {t : Trail} (clear : t.IsClear) :
    (t.fromRoot c).path = ⟨.root, t.location c⟩ := by
  unfold Trail.fromRoot
  split
  · rfl
  · next elsewhere =>
      obtain ⟨anchor, parts⟩ := t
      obtain ⟨k, names, hparts, hnames, anchored⟩ := clear
      obtain ⟨root, rfl⟩ := anchored.resolve_left elsewhere
      obtain rfl : anchor = .root := root
      obtain rfl : parts = names := hparts
      change (⟨.root, parts⟩ : Path) = ⟨.root, normalize parts⟩
      rw [normalize_of_plain hnames]

theorem linkFromRoot?_of_clear {t : Trail} (h : HasWay fs c) (clear : t.IsClear) :
    linkFromRoot? fs c t = fs.linkTo? (t.location c) := by
  have short : maxPathOctets ≤ (t.fromRoot c).path.toString.utf8ByteSize ↔
      ¬ IsShort (t.location c) := by
    rw [clear.path_fromRoot]
    exact Nat.not_lt.symm
  obtain ⟨k, names, hparts, hnames, anchored⟩ := clear
  have walked : walk fs false maxLinks (t.base c) t.parts =
      walk fs false maxLinks [] (t.location c) := by
    unfold Trail.location Trail.base
    rw [hparts]
    split
    · exact h.walk_climbing hnames false maxLinks k
    · next elsewhere =>
        rw [(anchored.resolve_left elsewhere).2]
        exact (hasWay_root fs).walk_climbing hnames false maxLinks 0
  rw [linkFromRoot?, linkTo?_eq, walked]
  simp only [short, ite_not]

theorem HasWay.linkTo?_eq_none (h : HasWay fs c) : fs.linkTo? c = none := by
  have walked : walk fs false maxLinks [] c = .entry c .dir := by
    have on := h.walk_append false maxLinks []
    rw [List.append_nil] at on
    exact on.trans (Walks.arrived maxLinks c).walk_eq
  cases link : fs.linkTo? c with
  | none => rfl
  | some target =>
    obtain ⟨-, k, found⟩ := linkTo?_eq_some.mp link
    rw [walked] at found
    cases found

/-- What is remembered about links is where their texts lead. -/
def Seen.IsSound (fs : FileSystem) (c : Location) : Seen → Prop :=
  Seen.All fun t known => known.IsClear ∧ ∃ target n, fs.linkTo? (t.location c) = some target ∧
    chase fs n (t.location c).dropLast target = some (known.location c)

/-- A search that goes to its end leaves a sound memory, and its trail leads to a location. -/
def Search.Reaches (fs : FileSystem) (c : Location) (found : Search)
    (chased : Location → Prop) : Prop :=
  found.resolved = true → found.trail.IsClear ∧ Seen.IsSound fs c found.seen ∧
    chased (found.trail.location c)

variable {link? : Trail → Option String}

/-- The links that are seen are those that are seen from the root. -/
def SeesFromRoot (fs : FileSystem) (c : Location) (link? : Trail → Option String) : Prop :=
  ∀ t : Trail, t.IsClear → link? t = fs.linkTo? (t.location c)

theorem HasWay.seesFromRoot (h : HasWay fs c) : SeesFromRoot fs c (fs.linkFromRoot? c) :=
  fun _ clear => linkFromRoot?_of_clear h clear

theorem chaseWith_of_resolveWith {inner : Trail → String → Seen → Search}
    (sees : SeesFromRoot fs c link?)
    (hinner : ∀ t s seen, t.IsClear → Seen.IsSound fs c seen → (inner t s seen).Reaches fs c
      fun l => ∃ n, chase fs n (t.location c) s = some l)
    (names : List String) : ∀ t seen, t.IsClear → Seen.IsSound fs c seen →
      (resolveWith link? inner t names seen).Reaches fs c
        fun l => ∃ n, chaseWith fs (chase fs n) (t.location c) names = some l := by
  induction names with
  | nil => exact fun t seen clear sound _ => ⟨clear, sound, 0, rfl⟩
  | cons name rest ih =>
    intro t seen clear sound
    unfold resolveWith chaseWith
    dsimp only
    split
    · exact ih t seen clear sound
    rename_i dot
    split
    · obtain ⟨clear', up⟩ := clear.up (c := c)
      rw [← up]
      exact ih t.up seen clear' sound
    rename_i dots
    have plain : IsPlainName name := by
      simpa [IsPlainName, and_assoc] using And.intro dot dots
    have next : (t.child name).location c = t.location c ++ [name] := location_child t plain
    rw [sees _ (clear.child plain), next]
    cases hlink : fs.linkTo? (t.location c ++ [name]) with
    | none =>
      dsimp only
      rw [← next]
      exact ih _ seen (clear.child plain) sound
    | some target =>
      dsimp only
      -- the rest of the names, behind a link that leads to `known`
      have behind {known : Trail} {seen' : Seen} (hknown : known.IsClear)
          (sound' : Seen.IsSound fs c seen')
          (found : ∃ n, chase fs n (t.location c) target = some (known.location c)) :
          (resolveWith link? inner known rest seen').Reaches fs c fun l => ∃ n,
            ((chase fs n (t.location c) target).bind fun k =>
              chaseWith fs (chase fs n) k rest) = some l := by
        intro ended
        obtain ⟨clear', sound'', m, hm⟩ := ih known seen' hknown sound' ended
        obtain ⟨n, hn⟩ := found
        refine ⟨clear', sound'', max n m, ?_⟩
        rw [chase_mono (Nat.le_max_left n m) hn]
        exact chaseWith_mono (fun _ _ _ => chase_mono (Nat.le_max_right n m)) rest _ hm
      split
      · rename_i known hknown
        obtain ⟨clear', target', n, htarget, hn⟩ := sound _ known hknown
        rw [next, hlink] at htarget
        cases htarget
        rw [next, List.dropLast_concat] at hn
        exact behind clear' sound ⟨n, hn⟩
      · exact fun ended => by cases ended
      · have found := hinner t target ((t.child name, none) :: seen) clear
          (Seen.All.cons sound fun _ h => by cases h)
        split
        · rename_i ended
          obtain ⟨clear', sound', n, hn⟩ := found ended
          refine behind clear' (Seen.All.cons sound' fun known h => ?_) ⟨n, hn⟩
          cases h
          refine ⟨clear', target, n, by rw [next, hlink], ?_⟩
          rwa [next, List.dropLast_concat]
        · exact fun ended => by cases ended

/-- A search that goes to its end comes to where its text leads. -/
theorem chase_of_resolveText (sees : SeesFromRoot fs c link?) (depth : Nat) :
    ∀ t s seen, t.IsClear → Seen.IsSound fs c seen →
      (resolveText link? depth t s seen).Reaches fs c
        fun l => ∃ n, chase fs n (t.location c) s = some l := by
  induction depth with
  | zero => exact fun t s seen _ _ ended => by cases ended
  | succ depth ih =>
    intro t s seen clear sound ended
    have start : (if isAbsoluteText s then ⟨.root, []⟩ else t : Trail).IsClear ∧
        (if isAbsoluteText s then ⟨.root, []⟩ else t : Trail).location c =
          textStart s (t.location c) := by
      unfold textStart
      split
      · exact ⟨isClear_root, rfl⟩
      · exact ⟨clear, rfl⟩
    obtain ⟨clear', sound', n, hn⟩ :=
      chaseWith_of_resolveWith sees ih (pieces '/' s) _ seen start.1 sound ended
    rw [start.2] at hn
    exact ⟨clear', sound', n + 1, hn⟩

/-! ## A search from the root -/

/-- A location that a search from the root stands at: no link is seen on the way to it. -/
structure IsSettled (fs : FileSystem) (l : Location) : Prop where
  plain : ∀ n ∈ l, IsPlainName n
  unlinked : ∀ d, d <+: l → d ≠ [] → fs.linkTo? d = none

theorem isSettled_root (fs : FileSystem) : IsSettled fs [] :=
  ⟨by simp, fun d le ne => absurd (List.prefix_nil.mp le) ne⟩

theorem IsSettled.of_prefix {d : Location} (h : IsSettled fs loc) (le : d <+: loc) :
    IsSettled fs d :=
  ⟨fun n hn => h.plain n (le.subset hn), fun e he => h.unlinked e (he.trans le)⟩

theorem IsSettled.concat (h : IsSettled fs loc) (plain : IsPlainName name)
    (unlinked : fs.linkTo? (loc ++ [name]) = none) : IsSettled fs (loc ++ [name]) := by
  refine ⟨fun n hn => ?_, fun d le ne => ?_⟩
  · rcases List.mem_append.mp hn with hn | hn
    · exact h.plain n hn
    · exact List.mem_singleton.mp hn ▸ plain
  · rcases List.prefix_concat_iff.mp le with rfl | le
    · exact unlinked
    · exact h.unlinked d le ne

theorem HasWay.isSettled (h : HasWay fs c) : IsSettled fs c :=
  ⟨h.plain, fun _ le _ => (h.of_prefix le).linkTo?_eq_none⟩

/-- What holds of the root, and is kept by the steps to a parent and to an entry that is no link. -/
structure IsKept (fs : FileSystem) (good : Location → Prop) : Prop where
  root : good []
  up : ∀ l, good l → good l.dropLast
  down : ∀ l name, good l → IsPlainName name → '/' ∉ name.toList →
    fs.linkTo? (l ++ [name]) = none → good (l ++ [name])

theorem isKept_isSettled (fs : FileSystem) : IsKept fs (IsSettled fs) where
  root := isSettled_root fs
  up l h := h.of_prefix (List.dropLast_prefix l)
  down _ _ h plain _ unlinked := h.concat plain unlinked

theorem isKept_written (fs : FileSystem) : IsKept fs fun l => ∀ n ∈ l, '/' ∉ n.toList where
  root := by simp
  up l h n hn := h n (List.dropLast_subset l hn)
  down l name h _ written _ n hn := by
    rcases List.mem_append.mp hn with hn | hn
    · exact h n hn
    · exact List.mem_singleton.mp hn ▸ written

theorem IsKept.chaseWith {good : Location → Prop} (kept : IsKept fs good)
    {inner : Location → String → Option Location}
    (hinner : ∀ loc s out, inner loc s = some out → good loc → good out) {names : List String}
    (written : ∀ n ∈ names, '/' ∉ n.toList) :
    ∀ loc, chaseWith fs inner loc names = some out → good loc → good out := by
  induction names with
  | nil =>
    intro loc h hloc
    cases h
    exact hloc
  | cons name rest ih =>
    have ih := ih fun n hn => written n (List.mem_cons_of_mem name hn)
    intro loc h hloc
    unfold FileSystem.chaseWith at h
    by_cases dot : (name.isEmpty || name == ".") = true
    · rw [if_pos dot] at h
      exact ih loc h hloc
    rw [if_neg dot] at h
    by_cases dots : (name == "..") = true
    · rw [if_pos dots] at h
      exact ih _ h (kept.up loc hloc)
    rw [if_neg dots] at h
    have plain : IsPlainName name := by simp_all [IsPlainName]
    cases hlink : fs.linkTo? (loc ++ [name]) with
    | none =>
      rw [hlink] at h
      exact ih _ h (kept.down loc name hloc plain (written name List.mem_cons_self) hlink)
    | some target =>
      rw [hlink] at h
      obtain ⟨l, first, rest⟩ := Option.bind_eq_some_iff.mp h
      exact ih l rest (hinner loc target l first hloc)

/-- It holds wherever a text leads. -/
theorem IsKept.chase {good : Location → Prop} (kept : IsKept fs good) (n : Nat) :
    ∀ loc s out, chase fs n loc s = some out → good loc → good out := by
  induction n with
  | zero => exact fun loc s out h => by cases h
  | succ n ih =>
    intro loc s out h hloc
    refine kept.chaseWith ih (fun piece hpiece => ?_) _ h ?_
    · obtain ⟨chars, hchars, rfl⟩ := List.mem_map.mp hpiece
      simpa using not_mem_of_mem_splitAtEach hchars
    · unfold textStart
      split
      · exact kept.root
      · exact hloc

theorem not_walks_link {l k : Location} {target : String} (h : IsSettled fs l) (short : IsShort l)
    (walks : Walks fs false maxLinks [] l (.entry k (.link target))) : False := by
  by_cases empty : l = []
  · subst empty
    cases walks
  · have linked := linkTo?_eq_some.mpr ⟨short, k, walks.walk_eq⟩
    rw [h.unlinked l List.prefix_rfl empty] at linked
    cases linked

/-- A single name leads to itself, if a link there is not followed. -/
theorem Walks.single {n : Nat} {l : Location} {sight : Sight}
    (walks : Walks fs false n loc [name] sight) (plain : IsPlainName name)
    (hl : sight.location? = some l) : l = loc ++ [name] := by
  cases walks with
  | stay dot => exact absurd dot (not_or.mpr ⟨plain.1, plain.2.1⟩)
  | up => exact absurd rfl plain.2.2
  | landed => simpa using hl.symm
  | down fits dir on =>
    cases on
    cases hl
    rfl
  | jump fits link through => simp at through
  | stuck => cases hl

/-- A walk to a settled directory takes no turns. -/
theorem IsSettled.location_eq {k : Location} (h : IsSettled fs loc) (short : IsShort loc)
    (walks : Walks fs false maxLinks [] loc (.entry k .dir)) : k = loc := by
  induction loc using List.reverseRecOn generalizing k with
  | nil =>
    cases walks
    rfl
  | append_singleton loc x ih =>
    have above := List.prefix_append loc [x]
    have settled := h.of_prefix above
    rcases walks.through (List.cons_ne_nil x []) rfl with
      ⟨k', m, first, rest⟩ | ⟨k', target, first, -⟩
    · obtain rfl := ih settled (short.of_prefix above) first
      exact rest.single (h.plain x (by simp)) rfl
    · exact (not_walks_link settled (short.of_prefix above) first).elim

/-- What a search from the root remembers: where the links lead that are resolved, and which ones
are open. -/
structure Remembers (fs : FileSystem) (opens : List Location) (seen : Seen) : Prop where
  known : ∀ l t, seen.lookup ⟨.root, l⟩ = some (some t) → ∃ target n out,
    fs.linkTo? l = some target ∧ chase fs n l.dropLast target = some out ∧
      t = ⟨.root, out⟩ ∧ IsSettled fs out
  opened : ∀ l, seen.lookup ⟨.root, l⟩ = some none ↔ l ∈ opens

/-- The open links: they are links of the file system, and it takes more than `n` rounds to chase
one. -/
structure AreOpen (fs : FileSystem) (n : Nat) (opens : List Location) : Prop where
  nodup : opens.Nodup
  links : ∀ l ∈ opens, ∃ target, fs.get? l = some (.link target)
  barred : ∀ l ∈ opens, ∀ target, fs.linkTo? l = some target →
    chase fs n l.dropLast target = none

/-- There are no more open links than links. -/
theorem AreOpen.length_le {n : Nat} {opens : List Location} (h : AreOpen fs n opens) :
    opens.length ≤ fs.linkCount := by
  unfold linkCount
  rw [List.countP_eq_length_filter, ← List.length_map (f := Prod.fst)]
  refine (List.subperm_of_subset h.nodup fun l hl => ?_).length_le
  obtain ⟨target, link⟩ := h.links l hl
  exact List.mem_map.mpr ⟨_, List.mem_filter.mpr ⟨mem_table_of_link link, rfl⟩, rfl⟩

theorem AreOpen.cons {n m : Nat} {opens : List Location} {l : Location} {target : String}
    (h : AreOpen fs n opens) (le : m ≤ n) (new : l ∉ opens)
    (entry : fs.get? l = some (.link target)) (link : fs.linkTo? l = some target)
    (missed : chase fs m l.dropLast target = none) : AreOpen fs m (l :: opens) := by
  refine ⟨List.nodup_cons.mpr ⟨new, h.nodup⟩, fun k hk => ?_, fun k hk target' hk' => ?_⟩
  · rcases List.mem_cons.mp hk with rfl | hk
    · exact ⟨target, entry⟩
    · exact h.links k hk
  · rcases List.mem_cons.mp hk with rfl | hk
    · rw [link] at hk'
      cases hk'
      exact missed
    · rw [Option.eq_none_iff_forall_ne_some]
      intro out found
      have barred := h.barred k hk target' hk'
      rw [chase_mono le found] at barred
      cases barred

theorem Remembers.opening {opens : List Location} {seen : Seen} {l : Location}
    (h : Remembers fs opens seen) : Remembers fs (l :: opens) ((⟨.root, l⟩, none) :: seen) := by
  refine ⟨fun k t hk => ?_, fun k => ?_⟩
  · rw [List.lookup_cons] at hk
    split at hk
    · cases hk
    · exact h.known k t hk
  · rw [List.lookup_cons, List.mem_cons, ← h.opened k]
    split
    · rename_i same
      simp [show k = l by simpa using same]
    · rename_i other
      simp [show k ≠ l by simpa using other]

end BuildPilot.FileSystem
