import BuildPilot.Proofs.DefaultsFile
import Mathlib.Data.List.Sort
import Mathlib.Data.String.Basic

/-!
# Searches for patterns

A search finds what its selectors reach, once and in order. For a pattern of one component these are
the entries at any depth whose names match it. Modes and contents of files do not matter.
-/

namespace BuildPilot

theorem exists_bind_eq_ok {ε α β : Type} {x : Except ε α} {f : α → Except ε β} {a : α}
    (hx : x = .ok a) (hf : ∃ b, f a = .ok b) : ∃ b, (x >>= f) = .ok b := by
  rw [hx]
  exact hf

/-- A traversal succeeds if each of its single steps does. -/
theorem exists_mapM_eq_ok {ε α β : Type} {f : α → Except ε β} {l : List α}
    (h : ∀ a ∈ l, ∃ b, f a = .ok b) : ∃ ys, l.mapM f = .ok ys := by
  induction l with
  | nil => exact ⟨[], rfl⟩
  | cons a l ih =>
    obtain ⟨b, hb⟩ := h a List.mem_cons_self
    obtain ⟨bs, hbs⟩ := ih fun a' ha' => h a' (List.mem_cons_of_mem a ha')
    refine ⟨b :: bs, ?_⟩
    rw [List.mapM_cons, hb, hbs]
    rfl

theorem Entry.isDir_kind (e : Entry) : e.kind.isDir = e.isDir := by
  cases e <;> rfl

namespace FileSystem

variable {fs gs : FileSystem} {cwd l : Location} {p q dir : Path} {ss : List Selector}
  {names : List String} {found : List Path} {n pattern : String}

/-! ## The order of a search -/

theorem pathOrder_iff : pathOrder p q = true ↔ p.parts ≤ q.parts := by
  rw [pathOrder, Bool.not_eq_true', ← Bool.not_eq_true, List.lex_eq_true_iff_lt, not_lt]

/-- The paths stand in the order of their components, and no two have the same ones. -/
def Ordered (found : List Path) : Prop := found.Pairwise fun p q => p.parts < q.parts

/-- Ordered lists with the same members are equal. -/
theorem Ordered.eq_of_mem_iff {found' : List Path} (h : Ordered found) (h' : Ordered found')
    (same : ∀ q, q ∈ found ↔ q ∈ found') : found = found' := by
  have : Std.Irrefl fun p q : Path => p.parts < q.parts := ⟨fun p => lt_irrefl p.parts⟩
  have : Std.Antisymm fun p q : Path => p.parts < q.parts :=
    ⟨fun p q le le' => absurd le (lt_asymm le')⟩
  exact List.Pairwise.eq_of_mem_iff h h' same

theorem ordered_mergeSort (dir : Path) (anchors : ∀ q ∈ found, q.anchor = dir.anchor)
    (once : found.Nodup) : Ordered (found.mergeSort pathOrder) := by
  have trans (p q r : Path) (h : pathOrder p q = true) (h' : pathOrder q r = true) :
      pathOrder p r = true :=
    pathOrder_iff.mpr ((pathOrder_iff.mp h).trans (pathOrder_iff.mp h'))
  have total (p q : Path) : (pathOrder p q || pathOrder q p) = true := by
    rw [Bool.or_eq_true]
    exact (le_total p.parts q.parts).imp pathOrder_iff.mpr pathOrder_iff.mpr
  have sorted := List.pairwise_mergeSort trans total found
  have once' : (found.mergeSort pathOrder).Nodup := (List.mergeSort_perm _ _).nodup_iff.mpr once
  refine (sorted.and once').imp_of_mem fun {p q} hp hq ⟨le, ne⟩ => ?_
  refine lt_of_le_of_ne (pathOrder_iff.mp le) fun parts => ne ?_
  have anchor : p.anchor = q.anchor :=
    (anchors p (List.mem_mergeSort.mp hp)).trans (anchors q (List.mem_mergeSort.mp hq)).symm
  cases p
  cases q
  cases parts
  cases anchor
  rfl

theorem nodup_select_anyDepth (h : fs.select cwd (.anyDepth :: ss) p = .ok found) :
    found.Nodup := by
  rw [select] at h
  obtain ⟨there, -, h⟩ := bind_eq_ok h
  cases there with
  | none =>
    cases h
    exact List.nodup_nil
  | some l =>
    obtain ⟨parts, -, h⟩ := bind_eq_ok h
    cases h
    exact nodup_eraseDups _

/-- A search at any depth finds what its selectors reach, in order. -/
theorem search_found (h : fs.search cwd (.anyDepth :: ss) dir = .ok found) :
    Ordered found ∧ ∀ q, q ∈ found ↔ Reaches fs cwd (.anyDepth :: ss) dir q := by
  unfold search at h
  obtain ⟨there, look, h⟩ := bind_eq_ok h
  cases there with
  | none =>
    cases h
    refine ⟨List.Pairwise.nil, fun q => ⟨fun mem => (by cases mem), fun reaches => ?_⟩⟩
    cases reaches with
    | anyDepth dir => cases look.symm.trans dir
  | some l =>
    obtain ⟨selected, ok, h⟩ := bind_eq_ok h
    cases h
    refine ⟨ordered_mergeSort dir (fun q hq => ?_) (nodup_select_anyDepth ok), fun q => ?_⟩
    · obtain ⟨names, -, rfl⟩ := ((mem_select_iff ok).mp hq).selected
      rfl
    · rw [List.mem_mergeSort, mem_select_iff ok]

theorem exists_of_selectorsOf (h : selectorsOf pattern = .ok ss) :
    ∃ rest, ss = .anyDepth :: rest := by
  unfold selectorsOf at h
  dsimp only at h
  split at h
  · cases h
  · obtain ⟨parts, -, h⟩ := bind_eq_ok h
    cases h
    exact ⟨_, rfl⟩

/-! ## Patterns for names -/

/-- A walk to a directory goes on from there, however many links are left. -/
theorem Walks.append {s t : Sight} {m : Nat} {loc : Location} {xs ys : List String}
    (h : Walks fs true m loc xs s) (hs : s = .entry l .dir) (on : ∀ m, Walks fs true m l ys t) :
    Walks fs true m loc (xs ++ ys) t := by
  induction h with
  | arrived m loc =>
    cases hs
    exact on m
  | stay dot _ ih => exact .stay dot (ih hs)
  | up _ ih => exact .up (ih hs)
  | @landed m loc name _ stops =>
    cases there : fs.get? (loc ++ [name]) with
    | none =>
      rw [there] at hs
      cases hs
    | some e =>
      rw [there] at hs
      cases hs
      cases stops _ there
  | down fits' dir _ ih => exact .down fits' dir (ih hs)
  | jump fits' link _ _ ih =>
    have on := ih hs
    rw [List.append_assoc] at on
    exact .jump fits' link (.inr rfl) on
  | stuck => cases hs

theorem LeadsDown.walks (way : fs.LeadsDown l names) (fits : ∀ x ∈ names, Fits x) (m : Nat) :
    Walks fs true m l names (.entry (l ++ names) .dir) := by
  induction names generalizing l with
  | nil =>
    rw [List.append_nil]
    exact .arrived m l
  | cons x names ih =>
    have first := way [x] (List.prefix_append [x] names) (by simp)
    have rest : fs.LeadsDown (l ++ [x]) names := by
      intro zs le ne
      rw [List.append_assoc]
      exact way (x :: zs) (List.cons_prefix_cons.mpr ⟨rfl, le⟩) (List.cons_ne_nil x zs)
    have on := ih rest fun y hy => fits y (List.mem_cons_of_mem x hy)
    rw [List.append_assoc] at on
    exact .down (fits x List.mem_cons_self) first on

theorem LeadsDown.fits (tree : IsTree fs) (way : fs.LeadsDown l names) : ∀ x ∈ names, Fits x := by
  intro x hx
  have there := way names List.prefix_rfl (List.ne_nil_of_mem hx)
  exact (tree.hasWay there).fits x (List.mem_append_right l hx)

/-- A walk to a free name sees no entry. -/
theorem exists_walks_free (plain : IsPlainName n) (free : fs.get? (l ++ [n]) = none) :
    ∃ t, (∀ m, Walks fs true m l [n] t) ∧ ∀ k e, t ≠ .entry k e := by
  by_cases long : maxNameOctets < n.utf8ByteSize
  · exact ⟨.failed .nameTooLong, fun m => .stuck (.long plain long), nofun⟩
  · refine ⟨.absent (l ++ [n]), fun m => ?_, nofun⟩
    have landed : Walks fs true m l [n] (landing (l ++ [n]) (fs.get? (l ++ [n]))) :=
      .landed ⟨plain, Nat.le_of_not_lt long⟩ fun e there => by cases free.symm.trans there
    rw [free] at landed
    exact landed

theorem status_eq_some {e : Entry} :
    fs.status cwd p = .ok (some (l, e)) ↔ hasNul p = false ∧ fs.find cwd true p = .entry l e := by
  unfold status
  constructor
  · intro look
    split at look
    · cases look
    · next clean =>
        refine ⟨Bool.eq_false_iff.mpr clean, ?_⟩
        split at look
        · next found =>
            cases look
            exact found
        · cases look
        · split at look <;> cases look
  · rintro ⟨clean, found⟩
    rw [clean, found]
    rfl

theorem directoryAt_eq_some :
    fs.directoryAt cwd p = .ok (some l) ↔
      hasNul p = false ∧ fs.find cwd true p = .entry l .dir := by
  rw [← status_eq_some]
  unfold directoryAt
  constructor
  · intro h
    obtain ⟨seen, look, h⟩ := bind_eq_ok h
    match seen with
    | none => cases h
    | some (k, .dir) =>
      cases h
      exact look
    | some (k, .file mode content) => cases h
    | some (k, .link target) => cases h
  · intro look
    rw [look]
    rfl

theorem isRegular_iff_status : IsRegular fs cwd p ↔
    ∃ l mode content, fs.status cwd p = .ok (some (l, .file mode content)) := by
  simp only [status_eq_some]
  exact ⟨fun ⟨clean, l, m, c, found⟩ => ⟨l, m, c, clean, found⟩,
    fun ⟨l, m, c, clean, found⟩ => ⟨clean, l, m, c, found⟩⟩

/-- Down from a directory, a look that does not fail sees the directory that is there. -/
theorem directoryAt_append (tree : IsTree fs) (named : IsNamed fs)
    (look : fs.directoryAt cwd p = .ok (some l)) (way : fs.LeadsDown l names)
    {seen : Option Location} (look' : fs.directoryAt cwd (p.append names) = .ok seen) :
    seen = some (l ++ names) := by
  by_cases none : names = []
  · subst none
    rw [Path.append_nil] at look'
    cases look.symm.trans look'
    rw [List.append_nil]
  have there := way names List.prefix_rfl none
  obtain ⟨clean, found⟩ := directoryAt_eq_some.mp look
  have clean' : hasNul (p.append names) = false := by
    have free := named.of_get? there
    rw [hasNul, List.any_eq_false] at clean ⊢
    intro x hx
    rcases List.mem_append.mp hx with hx | hx
    · exact clean x hx
    · simpa using free x (List.mem_append_right l hx)
  by_cases long : maxPathOctets ≤ (p.append names).toString.utf8ByteSize
  · -- a look at a path that is too long fails
    have failed : fs.find cwd true (p.append names) = .failed .nameTooLong := if_pos long
    unfold directoryAt status at look'
    rw [clean', failed] at look'
    cases look'
  · have start : startOf cwd (p.append names) = startOf cwd p := rfl
    have walks : Walks fs true maxLinks (startOf cwd p) (p.parts ++ names)
        (.entry (l ++ names) .dir) :=
      (walks_find found rfl).append rfl (way.walks (way.fits tree))
    have found' : fs.find cwd true (p.append names) = .entry (l ++ names) .dir :=
      (if_neg long).trans walks.walk_eq
    exact (Except.ok.inj ((directoryAt_eq_some.mpr ⟨clean', found'⟩).symm.trans look')).symm

/-- What is seen at a name, on a way down from a directory, is there. -/
theorem get?_ne_none_of_status (tree : IsTree fs) (look : fs.directoryAt cwd p = .ok (some l))
    (way : fs.LeadsDown l names) (plain : IsPlainName n) {k : Location} {e : Entry}
    (there : fs.status cwd (p.append (names ++ [n])) = .ok (some (k, e))) :
    fs.get? (l ++ names ++ [n]) ≠ none := by
  intro free
  obtain ⟨t, last, unseen⟩ := exists_walks_free plain free
  have start : startOf cwd (p.append (names ++ [n])) = startOf cwd p := rfl
  have found := walks_find (directoryAt_eq_some.mp look).2 rfl
  have on (m : Nat) : Walks fs true m l (names ++ [n]) t :=
    (way.walks (way.fits tree) m).append rfl last
  have found' := walks_find (status_eq_some.mp there).2 rfl
  rw [start] at found'
  exact unseen k e ((found.append rfl on).walk_eq.symm.trans found'.walk_eq)

/-- A path leads to an entry whose name matches, in a directory that the way down leads to. -/
def HasMatch (fs : FileSystem) (cwd : Location) (dir : Path) (pattern : String) (q : Path) : Prop :=
  ∃ l names n, fs.directoryAt cwd dir = .ok (some l) ∧ fs.LeadsDown l names ∧
    fs.get? (l ++ names ++ [n]) ≠ none ∧ nameMatches pattern n = true ∧
    q = dir.append (names ++ [n])

/-- A search for a pattern of names finds the entries at any depth whose names match. -/
theorem mem_search_wild_iff (tree : IsTree fs) (named : IsNamed fs)
    (h : fs.search cwd [.anyDepth, .wild pattern] dir = .ok found) :
    q ∈ found ↔ HasMatch fs cwd dir pattern q := by
  rw [(search_found h).2 q]
  constructor
  · intro reaches
    cases reaches with
    | anyDepth look way rest =>
      cases rest with
      | wild look' there hit _ rest =>
        cases rest
        cases directoryAt_append tree named look way look'
        exact ⟨_, _, _, look, way, there, hit, Path.append_append dir _ [_]⟩
  · rintro ⟨l, names, n, look, way, there, hit, rfl⟩
    obtain ⟨seen, look', h⟩ := bind_eq_ok h
    cases look.symm.trans look'
    obtain ⟨selected, ok, -⟩ := bind_eq_ok h
    obtain ⟨part, h, -⟩ := select_anyDepth_subset ok look way
    rw [select_wild_eq] at h
    obtain ⟨seen, look', -⟩ := bind_eq_ok h
    cases directoryAt_append tree named look way look'
    rw [← Path.append_append]
    exact .anyDepth look way (.wild look' there hit (.inl rfl) (.done _))

theorem readGlob_of_not_wild {s : List Char} {bound : Nat}
    (h : (s.any fun c => c == '*' || c == '?' || c == '[') = false) (le : s.length ≤ bound) :
    readGlob bound s = s.map .char := by
  induction s generalizing bound with
  | nil => cases bound <;> rfl
  | cons c s ih =>
    rw [List.any_cons, Bool.or_eq_false_iff] at h
    obtain ⟨bound, rfl⟩ : ∃ b, bound = b + 1 := ⟨bound - 1, by rw [List.length_cons] at le; omega⟩
    have rest := ih h.2 (Nat.le_of_succ_le_succ le)
    rw [readGlob, rest]
    · rfl
    · rintro rfl
      simp at h
    · rintro rfl
      simp at h
    · rintro rfl
      simp at h

theorem globMatches_map_char {s t : List Char} : globMatches (s.map .char) t = true ↔ t = s := by
  induction s generalizing t with
  | nil => simp [globMatches]
  | cons c s ih =>
    cases t with
    | nil => simp [globMatches]
    | cons d t => simp [globMatches, ih]

/-- A pattern that is not wild stands for itself. -/
theorem nameMatches_of_not_isWild (h : isWild pattern = false) :
    nameMatches pattern n = true ↔ n = pattern := by
  unfold nameMatches
  rw [readGlob_of_not_wild h String.length_toList.le, globMatches_map_char, String.toList_inj]

/-- A search for a fixed name finds the entries at any depth with this name, but for links that lead
nowhere. -/
theorem mem_search_name_iff (tree : IsTree fs) (plain : IsPlainName pattern)
    (fixed : isWild pattern = false)
    (h : fs.search cwd [.anyDepth, .name pattern] dir = .ok found) :
    q ∈ found ↔ HasMatch fs cwd dir pattern q ∧ ∃ k e, fs.status cwd q = .ok (some (k, e)) := by
  rw [(search_found h).2 q]
  constructor
  · intro reaches
    cases reaches with
    | @anyDepth names _ _ _ l look way rest =>
      cases rest with
      | name there _ rest =>
        cases rest
        have split : (dir.append names).child pattern = dir.append (names ++ [pattern]) :=
          Path.append_append dir _ [_]
        rw [split] at there ⊢
        exact ⟨⟨l, names, pattern, look, way, get?_ne_none_of_status tree look way plain there,
          (nameMatches_of_not_isWild fixed).mpr rfl, rfl⟩, _, _, there⟩
  · rintro ⟨⟨l, names, n, look, way, -, hit, rfl⟩, k, e, there⟩
    obtain rfl := (nameMatches_of_not_isWild fixed).mp hit
    rw [← Path.append_append] at there ⊢
    exact .anyDepth look way (.name there (.inl rfl) (.done _))

/-- A pattern of a single component is two stars, a pattern for names or a fixed name. -/
theorem selectorsOf_component (h : IsComponent pattern) (hss : selectorsOf pattern = .ok ss) :
    pattern = "**" ∨ ss = [.anyDepth, .wild pattern] ∨
      (isWild pattern = false ∧ ss = [.anyDepth, .name pattern]) := by
  have open' : pattern.toList.getLast? ≠ some '/' := by
    intro last
    have inside := Path.isProper_ofString pattern pattern (by rw [h.1]; exact List.mem_cons_self)
    exact inside.2 (List.mem_of_getLast? last)
  unfold selectorsOf at hss
  dsimp only at hss
  rw [h.1, if_neg open'] at hss
  obtain ⟨parts, each, hss⟩ := bind_eq_ok hss
  rw [List.mapM_cons] at each
  obtain ⟨selector, one, each⟩ := bind_eq_ok each
  cases each
  cases hss
  unfold Selector.ofPart at one
  split at one
  · next stars => exact .inl (eq_of_beq stars)
  · split at one
    · next dots => exact absurd (eq_of_beq dots) h.2.2.2
    · split at one
      · cases one
      · split at one <;> cases one
        · exact .inr (.inl rfl)
        · next fixed => exact .inr (.inr ⟨Bool.eq_false_iff.mpr fixed, rfl⟩)

/-! ## Modes and contents do not matter -/

namespace SameShape

variable (same : SameShape fs gs)
include same

theorem kind_find (cwd : Location) (p : Path) :
    (gs.find cwd true p).kind = (fs.find cwd true p).kind := by
  unfold find
  split
  · rfl
  · obtain ⟨t, walks, kind⟩ := (walks_walk fs true maxLinks _ _).of_sameShape same
    rw [walks.walk_eq, kind]

/-- A look that follows links sees the same place and the same kind of entry. -/
theorem status_cases (cwd : Location) (p : Path) :
    (∃ e, fs.status cwd p = .error e ∧ gs.status cwd p = .error e) ∨
    (fs.status cwd p = .ok none ∧ gs.status cwd p = .ok none) ∨
    ∃ l e e', fs.status cwd p = .ok (some (l, e)) ∧ gs.status cwd p = .ok (some (l, e')) ∧
      e'.kind = e.kind := by
  have kinds := same.kind_find cwd p
  unfold status
  split
  · exact .inr (.inl ⟨rfl, rfl⟩)
  · match fs.find cwd true p, gs.find cwd true p, kinds with
    | .entry l e, .entry l' e', kinds =>
      injection kinds with place kind
      subst place
      exact .inr (.inr ⟨l', e, e', rfl, rfl, kind⟩)
    | .absent l, .absent l', _ => exact .inr (.inl ⟨rfl, rfl⟩)
    | .failed cause, .failed cause', kinds =>
      injection kinds with cause
      subst cause
      by_cases absent : cause'.meansAbsent = true
      · exact .inr (.inl ⟨if_pos absent, if_pos absent⟩)
      · exact .inl ⟨_, if_neg absent, if_neg absent⟩

theorem exists_status {seen : Option (Location × Entry)} (look : fs.status cwd p = .ok seen) :
    ∃ seen', gs.status cwd p = .ok seen' := by
  rcases same.status_cases cwd p with ⟨e', hf, hg⟩ | ⟨hf, hg⟩ | ⟨l, e', e'', hf, hg, -⟩
  · cases look.symm.trans hf
  · exact ⟨_, hg⟩
  · exact ⟨_, hg⟩

theorem directoryAt_eq (cwd : Location) (p : Path) :
    gs.directoryAt cwd p = fs.directoryAt cwd p := by
  unfold directoryAt
  rcases same.status_cases cwd p with ⟨e, hf, hg⟩ | ⟨hf, hg⟩ | ⟨l, e, e', hf, hg, kind⟩
  · rw [hf, hg]
  · rw [hf, hg]
  · rw [hf, hg]
    cases e <;> cases e' <;> first | rfl | cases kind

theorem isRegular (h : IsRegular fs cwd p) : IsRegular gs cwd p := by
  obtain ⟨clean, l, mode, content, found⟩ := h
  obtain ⟨mode', content', found'⟩ := same.find_eq_file found
  exact ⟨clean, l, mode', content', found'⟩

theorem isRegular_iff : IsRegular gs cwd p ↔ IsRegular fs cwd p :=
  ⟨same.symm.isRegular, same.isRegular⟩

theorem get?_ne_none (there : fs.get? l ≠ none) : gs.get? l ≠ none :=
  fun free => there (same.symm.get?_eq_none free)

theorem leadsDown (way : fs.LeadsDown l names) : gs.LeadsDown l names :=
  fun zs le ne => same.get?_eq_dir (way zs le ne)

theorem leadsOn (leads : fs.LeadsOn cwd ss p) : gs.LeadsOn cwd ss p := by
  rcases leads with none | ⟨k, dir⟩
  · exact .inl none
  · exact .inr ⟨k, (same.directoryAt_eq cwd p).trans dir⟩

theorem reaches (h : Reaches fs cwd ss p q) : Reaches gs cwd ss p q := by
  induction h with
  | done p => exact .done p
  | here ss p => exact .here ss p
  | parent _ ih => exact .parent ih
  | @name n ss p q l e there leads _ ih =>
    rcases same.status_cases cwd (p.child n) with ⟨e, hf, -⟩ | ⟨hf, -⟩ | ⟨l, e, e', hf, hg, kind⟩
    · cases there.symm.trans hf
    · cases there.symm.trans hf
    · cases there.symm.trans hf
      refine .name hg (leads.imp_right fun dir => ?_) ih
      rw [← Entry.isDir_kind, kind, Entry.isDir_kind]
      exact dir
  | wild dir there hit leads _ ih =>
    exact .wild ((same.directoryAt_eq _ _).trans dir) (same.get?_ne_none there) hit
      (same.leadsOn leads) ih
  | anyDepth dir way _ ih =>
    exact .anyDepth ((same.directoryAt_eq _ _).trans dir) (same.leadsDown way) ih

theorem exists_selectFrom (h : fs.selectFrom cwd ss p n = .ok found)
    (goes : ∀ {found}, fs.select cwd ss (p.child n) = .ok found →
      ∃ found', gs.select cwd ss (p.child n) = .ok found') :
    ∃ found', gs.selectFrom cwd ss p n = .ok found' := by
  unfold selectFrom at h ⊢
  cases ss with
  | nil => exact goes h
  | cons selector ss =>
    obtain ⟨dir, look, h⟩ := bind_eq_ok h
    simp only [same.directoryAt_eq, look]
    rcases of_guarded h with ⟨leads, h⟩ | ⟨leads, -⟩
    · obtain ⟨found', h'⟩ := goes h
      exact ⟨found', (if_pos leads).trans h'⟩
    · exact ⟨[], if_neg (Bool.eq_false_iff.mp leads)⟩

/-- A selection that succeeds still succeeds. -/
theorem exists_select (h : fs.select cwd ss p = .ok found) :
    ∃ found', gs.select cwd ss p = .ok found' := by
  induction ss generalizing p found with
  | nil => exact ⟨_, rfl⟩
  | cons selector ss ih =>
    cases selector with
    | here => exact ⟨_, rfl⟩
    | parent => exact ih (show fs.select cwd ss (p.child "..") = .ok found from h)
    | name n =>
      rw [select] at h ⊢
      rcases same.status_cases cwd (p.child n) with
        ⟨e, hf, hg⟩ | ⟨hf, hg⟩ | ⟨l, e, e', hf, hg, kind⟩
      · rw [hf] at h
        cases h
      · rw [hg]
        exact ⟨[], rfl⟩
      · rw [hf] at h
        have guard : (ss.isEmpty || e'.isDir) = (ss.isEmpty || e.isDir) := by
          rw [← Entry.isDir_kind e', kind, Entry.isDir_kind]
        rw [hg]
        rcases of_guarded h with ⟨leads, h⟩ | ⟨leads, -⟩
        · obtain ⟨found', h'⟩ := ih h
          exact ⟨found', (if_pos (guard.trans leads)).trans h'⟩
        · exact ⟨[], if_neg (Bool.eq_false_iff.mp (guard.trans leads))⟩
    | wild pattern =>
      rw [select_wild_eq] at h ⊢
      obtain ⟨there, look, h⟩ := bind_eq_ok h
      refine exists_bind_eq_ok ((same.directoryAt_eq cwd p).trans look) ?_
      cases there with
      | none => exact ⟨[], rfl⟩
      | some l =>
        obtain ⟨parts, each, -⟩ := bind_eq_ok h
        have goes : ∃ parts', ((gs.namesIn l).filter (nameMatches pattern)).mapM
            (gs.selectFrom cwd ss p) = .ok parts' := by
          refine exists_mapM_eq_ok fun n hn => ?_
          obtain ⟨hn, hit⟩ := List.mem_filter.mp hn
          have there := same.symm.get?_ne_none (mem_namesIn.mp hn)
          obtain ⟨part, -, h⟩ :=
            exists_of_mem_of_mapM each (List.mem_filter.mpr ⟨mem_namesIn.mpr there, hit⟩)
          exact same.exists_selectFrom h ih
        obtain ⟨parts', each'⟩ := goes
        exact exists_bind_eq_ok each' ⟨_, rfl⟩
    | anyDepth =>
      rw [select] at h ⊢
      obtain ⟨there, look, h⟩ := bind_eq_ok h
      refine exists_bind_eq_ok ((same.directoryAt_eq cwd p).trans look) ?_
      cases there with
      | none => exact ⟨[], rfl⟩
      | some l =>
        obtain ⟨parts, each, -⟩ := bind_eq_ok h
        have goes : ∃ parts', (p :: (gs.directoriesBelow l).map fun d =>
            (⟨p.anchor, p.parts ++ d.drop l.length⟩ : Path)).mapM (gs.select cwd ss) =
              .ok parts' := by
          refine exists_mapM_eq_ok fun start hstart => ?_
          obtain ⟨names, way, rfl⟩ := mem_starts.mp hstart
          obtain ⟨part, -, h⟩ := exists_of_mem_of_mapM each
            (mem_starts.mpr ⟨names, same.symm.leadsDown way, rfl⟩)
          exact ih h
        obtain ⟨parts', each'⟩ := goes
        exact exists_bind_eq_ok each' ⟨_, rfl⟩

/-- A search that succeeds finds the same. -/
theorem search_eq (h : fs.search cwd (.anyDepth :: ss) dir = .ok found) :
    gs.search cwd (.anyDepth :: ss) dir = .ok found := by
  have again : ∃ found', gs.search cwd (.anyDepth :: ss) dir = .ok found' := by
    unfold search at h ⊢
    obtain ⟨there, look, h⟩ := bind_eq_ok h
    refine exists_bind_eq_ok ((same.directoryAt_eq cwd dir).trans look) ?_
    cases there with
    | none => exact ⟨[], rfl⟩
    | some l =>
      obtain ⟨selected, ok, -⟩ := bind_eq_ok h
      obtain ⟨selected', ok'⟩ := same.exists_select ok
      exact exists_bind_eq_ok ok' ⟨_, rfl⟩
  obtain ⟨found', h'⟩ := again
  obtain ⟨order, mem⟩ := search_found h
  obtain ⟨order', mem'⟩ := search_found h'
  rw [h', order.eq_of_mem_iff order' fun q => ?_]
  rw [mem, mem']
  exact ⟨same.reaches, same.symm.reaches⟩

end SameShape

end FileSystem

end BuildPilot
