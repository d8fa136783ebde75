import BuildPilot.FileSystem.Search
import BuildPilot.Proofs.Layout
import BuildPilot.Proofs.Walk
import Mathlib.Data.List.Basic

/-!
# What a search finds

A selection finds the paths that its selectors reach, and no others. The way down to any depth goes
through directories only and through no links; a component of the pattern behind it may name a
linked directory. So every path that a search finds is the path of the directory with more names
behind it, and these names are chosen by the selectors: fixed ones, or names of entries.
-/

namespace BuildPilot

/-- A traversal that succeeds gives answers of its single steps only. -/
theorem mem_of_mapM {ε α β : Type} {f : α → Except ε β} {l : List α} {ys : List β} {y : β}
    (h : l.mapM f = .ok ys) (hy : y ∈ ys) : ∃ a ∈ l, f a = .ok y := by
  induction l generalizing ys with
  | nil =>
    cases h
    cases hy
  | cons a l ih =>
    rw [List.mapM_cons] at h
    obtain ⟨b, hb, h⟩ := bind_eq_ok h
    obtain ⟨bs, hbs, h⟩ := bind_eq_ok h
    cases h
    rcases List.mem_cons.mp hy with rfl | hy
    · exact ⟨a, List.mem_cons_self, hb⟩
    · obtain ⟨a', ha', hy⟩ := ih hbs hy
      exact ⟨a', List.mem_cons_of_mem a ha', hy⟩

/-- A traversal that succeeds has an answer for each element. -/
theorem exists_of_mem_of_mapM {ε α β : Type} {f : α → Except ε β} {l : List α} {ys : List β} {a : α}
    (h : l.mapM f = .ok ys) (ha : a ∈ l) : ∃ y ∈ ys, f a = .ok y := by
  induction l generalizing ys with
  | nil => cases ha
  | cons b l ih =>
    rw [List.mapM_cons] at h
    obtain ⟨c, hc, h⟩ := bind_eq_ok h
    obtain ⟨cs, hcs, h⟩ := bind_eq_ok h
    cases h
    rcases List.mem_cons.mp ha with rfl | ha
    · exact ⟨c, List.mem_cons_self, hc⟩
    · obtain ⟨y, hy, ok⟩ := ih hcs ha
      exact ⟨y, List.mem_cons_of_mem c hy, ok⟩

namespace Path

/-- The path with more components behind it. -/
def append (p : Path) (names : List String) : Path := ⟨p.anchor, p.parts ++ names⟩

@[simp] theorem append_nil (p : Path) : p.append [] = p := by
  simp [append]

@[simp] theorem append_append (p : Path) (xs ys : List String) :
    (p.append xs).append ys = p.append (xs ++ ys) := by
  simp [append]

end Path

namespace FileSystem

variable {fs gs : FileSystem} {cwd l : Location} {p q dir : Path} {ss : List Selector}
  {names : List String} {found : List Path} {n pattern : String}

/-! ## Names of entries -/

/-- An entry has this name, or is below one that has it. -/
def HasName (fs : FileSystem) (n : String) : Prop := ∃ l, fs.get? l ≠ none ∧ n ∈ l

/-- The names of entries are neither empty nor made of dots alone. -/
def IsProper (fs : FileSystem) : Prop := ∀ n, fs.HasName n → IsPlainName n

theorem isProper_of_table (h : ∀ row ∈ fs.table, ∀ n ∈ row.1, IsPlainName n) : fs.IsProper := by
  rintro n ⟨l, there, hn⟩
  rw [get?_of_ne_nil fs (List.ne_nil_of_mem hn)] at there
  obtain ⟨row, hrow, same⟩ := List.lookup_isSome_iff.mp (Option.isSome_iff_ne_none.mpr there)
  exact h row hrow n (eq_of_beq same ▸ hn)

theorem SameShape.hasName (same : SameShape fs gs) (h : gs.HasName n) : fs.HasName n := by
  obtain ⟨l, there, hn⟩ := h
  exact ⟨l, fun free => there (same.get?_eq_none free), hn⟩

/-! ## Entries of a directory -/

theorem mem_table_iff (hl : l ≠ []) : l ∈ fs.table.map Prod.fst ↔ fs.get? l ≠ none := by
  rw [get?_of_ne_nil fs hl, ← Option.isSome_iff_ne_none, List.lookup_isSome_iff, List.mem_map]
  refine exists_congr fun row => and_congr_right fun _ => ?_
  rw [beq_iff_eq, eq_comm]

theorem mem_namesIn : n ∈ fs.namesIn l ↔ fs.get? (l ++ [n]) ≠ none := by
  rw [← mem_table_iff (by simp), namesIn, List.mem_filterMap]
  constructor
  · rintro ⟨k, hk, last⟩
    split at last
    · next h =>
        obtain ⟨-, rfl⟩ := h
        rwa [List.dropLast_append_getLast? n last]
    · cases last
  · intro mem
    exact ⟨_, mem, by simp⟩

/-- The names lead from a directory down through directories, and through no links. -/
def LeadsDown (fs : FileSystem) (l : Location) (names : List String) : Prop :=
  ∀ zs, zs <+: names → zs ≠ [] → fs.get? (l ++ zs) = some .dir

theorem leadsDown_nil (fs : FileSystem) (l : Location) : fs.LeadsDown l [] :=
  fun _ le ne => absurd (List.prefix_nil.mp le) ne

theorem connected_append : fs.connected l (l ++ names) = true ↔ fs.LeadsDown l names := by
  unfold connected LeadsDown
  rw [List.all_eq_true]
  constructor
  · intro h zs le ne
    have le' : l ++ zs <+: l ++ names := (List.prefix_append_right_inj l).mpr le
    have inside : (l ++ zs).length ∈ List.range ((l ++ names).length + 1) :=
      List.mem_range.mpr (Nat.lt_succ_of_le le'.length_le)
    have there := h _ inside
    rw [← List.prefix_iff_eq_take.mp le', Bool.or_eq_true, decide_eq_true_iff, beq_iff_eq] at there
    refine there.resolve_left fun short => ne (List.length_eq_zero_iff.mp ?_)
    rw [List.length_append] at short
    omega
  · intro h k hk
    rw [Bool.or_eq_true, decide_eq_true_iff, beq_iff_eq, or_iff_not_imp_left]
    intro past
    rw [List.take_append, List.take_of_length_le (by omega)]
    refine h _ (List.take_prefix _ _) fun none => ?_
    have bound := List.mem_range.mp hk
    rw [List.length_append] at bound
    have short := congrArg List.length none
    rw [List.length_take, List.length_nil] at short
    omega

theorem mem_directoriesBelow {d : Location} :
    d ∈ fs.directoriesBelow l ↔ ∃ names, names ≠ [] ∧ fs.LeadsDown l names ∧ d = l ++ names := by
  unfold directoriesBelow below
  rw [List.mem_filter, List.mem_filter, Bool.and_eq_true, List.isPrefixOf_iff_prefix, bne_iff_ne]
  constructor
  · rintro ⟨⟨-, ⟨names, rfl⟩, ne⟩, way⟩
    exact ⟨names, fun none => ne (by rw [none, List.append_nil]), connected_append.mp way, rfl⟩
  · rintro ⟨names, ne, way, rfl⟩
    have there := way names List.prefix_rfl ne
    have ne' : l ++ names ≠ [] := fun none => ne (List.append_eq_nil_iff.mp none).2
    refine ⟨⟨(mem_table_iff ne').mpr ?_, List.prefix_append l names, ?_⟩, connected_append.mpr way⟩
    · rw [there]
      exact Option.some_ne_none _
    · exact fun same => ne (List.append_right_eq_self.mp same)

/-- The paths from which a search at any depth goes on. -/
theorem mem_starts {start : Path} :
    start ∈ p :: (fs.directoriesBelow l).map
        (fun d => (⟨p.anchor, p.parts ++ d.drop l.length⟩ : Path)) ↔
      ∃ names, fs.LeadsDown l names ∧ start = p.append names := by
  rw [List.mem_cons, List.mem_map]
  constructor
  · rintro (rfl | ⟨d, hd, rfl⟩)
    · exact ⟨[], leadsDown_nil fs l, (Path.append_nil _).symm⟩
    · obtain ⟨names, -, way, rfl⟩ := mem_directoriesBelow.mp hd
      exact ⟨names, way, by rw [List.drop_left]; rfl⟩
  · rintro ⟨names, way, rfl⟩
    by_cases none : names = []
    · exact .inl (by rw [none, Path.append_nil])
    · exact .inr ⟨_, mem_directoriesBelow.mpr ⟨names, none, way, rfl⟩, by rw [List.drop_left]; rfl⟩

/-! ## Paths that selectors reach -/

/-- Where selectors that stand behind a pattern for names may go on. -/
def LeadsOn (fs : FileSystem) (cwd : Location) (ss : List Selector) (p : Path) : Prop :=
  ss = [] ∨ ∃ k, fs.directoryAt cwd p = .ok (some k)

/-- `Reaches fs cwd ss p q`: seen from the working directory, the selectors lead from one path to
the other. Whether a component leads on is told by a look that follows links; the way down to any depth
goes through directories only. -/
inductive Reaches (fs : FileSystem) (cwd : Location) : List Selector → Path → Path → Prop
  | done (p : Path) : Reaches fs cwd [] p p
  | here (ss : List Selector) (p : Path) : Reaches fs cwd (.here :: ss) p p
  | parent {ss : List Selector} {p q : Path} (rest : Reaches fs cwd ss (p.child "..") q) :
      Reaches fs cwd (.parent :: ss) p q
  | name {n : String} {ss : List Selector} {p q : Path} {l : Location} {e : Entry}
      (there : fs.status cwd (p.child n) = .ok (some (l, e))) (leads : ss = [] ∨ e.isDir = true)
      (rest : Reaches fs cwd ss (p.child n) q) : Reaches fs cwd (.name n :: ss) p q
  | wild {pattern n : String} {ss : List Selector} {p q : Path} {l : Location}
      (dir : fs.directoryAt cwd p = .ok (some l)) (there : fs.get? (l ++ [n]) ≠ none)
      (hit : nameMatches pattern n = true)
      (leads : fs.LeadsOn cwd ss (p.child n))
      (rest : Reaches fs cwd ss (p.child n) q) : Reaches fs cwd (.wild pattern :: ss) p q
  | anyDepth {names : List String} {ss : List Selector} {p q : Path} {l : Location}
      (dir : fs.directoryAt cwd p = .ok (some l)) (down : fs.LeadsDown l names)
      (rest : Reaches fs cwd ss (p.append names) q) : Reaches fs cwd (.anyDepth :: ss) p q

/-- A search that depends on a condition goes on if it holds, and else it finds nothing. -/
theorem of_guarded {there : Bool} {rest : Except FileError (List Path)}
    (h : (if there then rest else pure []) = .ok found) :
    (there = true ∧ rest = .ok found) ∨ (there = false ∧ found = []) := by
  cases there with
  | true => exact .inl ⟨rfl, h⟩
  | false =>
    cases h
    exact .inr ⟨rfl, rfl⟩

theorem select_name_cases (h : fs.select cwd (.name n :: ss) p = .ok found) :
    (∃ l e, fs.status cwd (p.child n) = .ok (some (l, e)) ∧ (ss = [] ∨ e.isDir = true) ∧
      fs.select cwd ss (p.child n) = .ok found) ∨
    (found = [] ∧ ∀ l e, fs.status cwd (p.child n) = .ok (some (l, e)) →
      ¬ (ss = [] ∨ e.isDir = true)) := by
  rw [select] at h
  obtain ⟨there, look, h⟩ := bind_eq_ok h
  cases there with
  | none =>
    cases h
    exact .inr ⟨rfl, fun l e look' => by cases look.symm.trans look'⟩
  | some seen =>
    obtain ⟨l, e⟩ := seen
    rcases of_guarded h with ⟨leads, h⟩ | ⟨leads, rfl⟩
    · exact .inl ⟨l, e, look, by simpa using leads, h⟩
    · refine .inr ⟨rfl, fun l' e' look' => ?_⟩
      cases look.symm.trans look'
      simpa using leads

/-- Going on from an entry of a directory, which has to be a directory if there is more to come. -/
def selectFrom (fs : FileSystem) (cwd : Location) (ss : List Selector) (p : Path) (n : String) :
    Except FileError (List Path) := do
  let there ← if ss.isEmpty then pure true
    else pure (← fs.directoryAt cwd (p.child n)).isSome
  if there then select fs cwd ss (p.child n) else return []

theorem selectFrom_cases (h : fs.selectFrom cwd ss p n = .ok found) :
    (fs.LeadsOn cwd ss (p.child n) ∧ fs.select cwd ss (p.child n) = .ok found) ∨
      (found = [] ∧ ¬ fs.LeadsOn cwd ss (p.child n)) := by
  unfold selectFrom at h
  cases ss with
  | nil =>
    refine .inl ⟨.inl rfl, ?_⟩
    exact h
  | cons selector ss =>
    obtain ⟨dir, look, h⟩ := bind_eq_ok h
    rcases of_guarded h with ⟨leads, h⟩ | ⟨leads, rfl⟩
    · obtain ⟨k, rfl⟩ := Option.isSome_iff_exists.mp leads
      exact .inl ⟨.inr ⟨k, look⟩, h⟩
    · refine .inr ⟨rfl, ?_⟩
      rintro (none | ⟨k, look'⟩)
      · cases none
      · cases look.symm.trans look'
        cases leads

theorem select_wild_eq : fs.select cwd (.wild pattern :: ss) p = (do
    match ← fs.directoryAt cwd p with
    | none => return []
    | some l =>
      return (← ((fs.namesIn l).filter (nameMatches pattern)).mapM
        (fs.selectFrom cwd ss p)).flatten) := rfl

/-- What is found behind a pattern for names is found from an entry that matches it. -/
theorem exists_of_mem_select_wild (h : fs.select cwd (.wild pattern :: ss) p = .ok found)
    (hq : q ∈ found) : ∃ l n part, fs.directoryAt cwd p = .ok (some l) ∧
      fs.get? (l ++ [n]) ≠ none ∧ nameMatches pattern n = true ∧ fs.LeadsOn cwd ss (p.child n) ∧
      fs.select cwd ss (p.child n) = .ok part ∧ q ∈ part := by
  rw [select_wild_eq] at h
  obtain ⟨there, look, h⟩ := bind_eq_ok h
  cases there with
  | none =>
    cases h
    cases hq
  | some l =>
    obtain ⟨parts, each, h⟩ := bind_eq_ok h
    cases h
    obtain ⟨part, hpart, hq⟩ := List.mem_flatten.mp hq
    obtain ⟨n, hn, h⟩ := mem_of_mapM each hpart
    obtain ⟨hn, hit⟩ := List.mem_filter.mp hn
    rcases selectFrom_cases h with ⟨leads, h⟩ | ⟨rfl, -⟩
    · exact ⟨l, n, part, look, mem_namesIn.mp hn, hit, leads, h, hq⟩
    · cases hq

/-- From each entry that matches a pattern for names, what is found is found behind the pattern. -/
theorem select_wild_subset (h : fs.select cwd (.wild pattern :: ss) p = .ok found)
    (look : fs.directoryAt cwd p = .ok (some l)) (there : fs.get? (l ++ [n]) ≠ none)
    (hit : nameMatches pattern n = true) (leads : fs.LeadsOn cwd ss (p.child n)) :
    ∃ part, fs.select cwd ss (p.child n) = .ok part ∧ ∀ q ∈ part, q ∈ found := by
  rw [select_wild_eq] at h
  obtain ⟨there', look', h⟩ := bind_eq_ok h
  cases look.symm.trans look'
  obtain ⟨parts, each, h⟩ := bind_eq_ok h
  cases h
  obtain ⟨part, hpart, h⟩ :=
    exists_of_mem_of_mapM each (List.mem_filter.mpr ⟨mem_namesIn.mpr there, hit⟩)
  rcases selectFrom_cases h with ⟨-, h⟩ | ⟨-, stays⟩
  · exact ⟨part, h, fun q hq => List.mem_flatten.mpr ⟨part, hpart, hq⟩⟩
  · exact absurd leads stays

/-- What is found at any depth is found from a directory that the way down leads to. -/
theorem exists_of_mem_select_anyDepth (h : fs.select cwd (.anyDepth :: ss) p = .ok found)
    (hq : q ∈ found) : ∃ l names part, fs.directoryAt cwd p = .ok (some l) ∧
      fs.LeadsDown l names ∧ fs.select cwd ss (p.append names) = .ok part ∧ q ∈ part := by
  rw [select] at h
  obtain ⟨there, look, h⟩ := bind_eq_ok h
  cases there with
  | none =>
    cases h
    cases hq
  | some l =>
    obtain ⟨parts, each, h⟩ := bind_eq_ok h
    cases h
    obtain ⟨part, hpart, hq⟩ := List.mem_flatten.mp (List.mem_eraseDups.mp hq)
    obtain ⟨start, hstart, h⟩ := mem_of_mapM each hpart
    obtain ⟨names, way, rfl⟩ := mem_starts.mp hstart
    exact ⟨l, names, part, look, way, h, hq⟩

/-- From each directory that the way down leads to, what is found is found at any depth. -/
theorem select_anyDepth_subset (h : fs.select cwd (.anyDepth :: ss) p = .ok found)
    (look : fs.directoryAt cwd p = .ok (some l)) (way : fs.LeadsDown l names) :
    ∃ part, fs.select cwd ss (p.append names) = .ok part ∧ ∀ q ∈ part, q ∈ found := by
  rw [select] at h
  obtain ⟨there, look', h⟩ := bind_eq_ok h
  cases look.symm.trans look'
  obtain ⟨parts, each, h⟩ := bind_eq_ok h
  cases h
  obtain ⟨part, hpart, h⟩ := exists_of_mem_of_mapM each (mem_starts.mpr ⟨names, way, rfl⟩)
  exact ⟨part, h, fun q hq =>
    List.mem_eraseDups.mpr (List.mem_flatten.mpr ⟨part, hpart, hq⟩)⟩

/-- A selection that succeeds finds what the selectors reach, and nothing else. -/
theorem mem_select_iff (h : fs.select cwd ss p = .ok found) :
    q ∈ found ↔ Reaches fs cwd ss p q := by
  induction ss generalizing p found q with
  | nil =>
    cases h
    rw [List.mem_singleton]
    exact ⟨fun same => same ▸ .done _, fun reaches => by cases reaches; rfl⟩
  | cons selector ss ih =>
    cases selector with
    | here =>
      cases h
      rw [List.mem_singleton]
      exact ⟨fun same => same ▸ .here ss _, fun reaches => by cases reaches; rfl⟩
    | parent =>
      rw [ih (show fs.select cwd ss (p.child "..") = .ok found from h)]
      exact ⟨.parent, fun reaches => by cases reaches; assumption⟩
    | name n =>
      rcases select_name_cases h with ⟨l, e, there, leads, h⟩ | ⟨rfl, stays⟩
      · rw [ih h]
        exact ⟨.name there leads, fun reaches => by cases reaches; assumption⟩
      · refine ⟨fun mem => (by cases mem), fun reaches => ?_⟩
        cases reaches with
        | name there leads => exact absurd leads (stays _ _ there)
    | wild pattern =>
      constructor
      · intro hq
        obtain ⟨l, n, part, dir, there, hit, leads, h, hq⟩ := exists_of_mem_select_wild h hq
        exact .wild dir there hit leads ((ih h).mp hq)
      · intro reaches
        cases reaches with
        | wild dir there hit leads rest =>
          obtain ⟨part, h, subset⟩ := select_wild_subset h dir there hit leads
          exact subset q ((ih h).mpr rest)
    | anyDepth =>
      constructor
      · intro hq
        obtain ⟨l, names, part, dir, way, h, hq⟩ := exists_of_mem_select_anyDepth h hq
        exact .anyDepth dir way ((ih h).mp hq)
      · intro reaches
        cases reaches with
        | anyDepth dir way rest =>
          obtain ⟨part, h, subset⟩ := select_anyDepth_subset h dir way
          exact subset q ((ih h).mpr rest)

/-! ## Selected names -/

/-- `Selected fs ss names`: the selectors may lead along these names in the file system. -/
inductive Selected (fs : FileSystem) : List Selector → List String → Prop
  | done : Selected fs [] []
  | here (ss : List Selector) : Selected fs (.here :: ss) []
  | parent {ss : List Selector} {names : List String} (rest : Selected fs ss names) :
      Selected fs (.parent :: ss) (".." :: names)
  | name {ss : List Selector} {names : List String} (n : String) (rest : Selected fs ss names) :
      Selected fs (.name n :: ss) (n :: names)
  | wild {pattern n : String} {ss : List Selector} {names : List String} (has : fs.HasName n)
      (hit : nameMatches pattern n = true) (rest : Selected fs ss names) :
      Selected fs (.wild pattern :: ss) (n :: names)
  | anyDepth {dirs : List String} {ss : List Selector} {names : List String}
      (has : ∀ n ∈ dirs, fs.HasName n) (rest : Selected fs ss names) :
      Selected fs (.anyDepth :: ss) (dirs ++ names)

theorem Selected.of_sameShape (h : Selected gs ss names) (same : SameShape fs gs) :
    Selected fs ss names := by
  induction h with
  | done => exact .done
  | here ss => exact .here ss
  | parent _ ih => exact .parent ih
  | name n _ ih => exact .name n ih
  | wild has hit _ ih => exact .wild (same.hasName has) hit ih
  | anyDepth has _ ih => exact .anyDepth (fun n hn => same.hasName (has n hn)) ih

theorem LeadsDown.hasName (way : fs.LeadsDown l names) : ∀ n ∈ names, fs.HasName n := by
  intro n hn
  have there := way names List.prefix_rfl (List.ne_nil_of_mem hn)
  exact ⟨l ++ names, by rw [there]; exact Option.some_ne_none _, List.mem_append_right l hn⟩

/-- Selectors that lead from one path to another may lead along the names between them. -/
theorem Reaches.selected (h : Reaches fs cwd ss p q) :
    ∃ names, Selected fs ss names ∧ q = p.append names := by
  induction h with
  | done p => exact ⟨[], .done, (Path.append_nil p).symm⟩
  | here ss p => exact ⟨[], .here ss, (Path.append_nil p).symm⟩
  | @parent ss p q _ ih =>
    obtain ⟨names, selected, rfl⟩ := ih
    exact ⟨_, .parent selected, Path.append_append p [".."] names⟩
  | @name n ss p q l e _ _ _ ih =>
    obtain ⟨names, selected, rfl⟩ := ih
    exact ⟨_, .name n selected, Path.append_append p [n] names⟩
  | @wild pattern n ss p q l _ there hit _ _ ih =>
    obtain ⟨names, selected, rfl⟩ := ih
    exact ⟨_, .wild ⟨_, there, List.mem_append_right l List.mem_cons_self⟩ hit selected,
      Path.append_append p [n] names⟩
  | @anyDepth dirs ss p q l _ way _ ih =>
    obtain ⟨names, selected, rfl⟩ := ih
    exact ⟨_, .anyDepth way.hasName selected, Path.append_append p dirs names⟩

theorem selected_of_mem_search (h : fs.search cwd ss dir = .ok found) (hq : q ∈ found) :
    ∃ names, Selected fs ss names ∧ q = dir.append names := by
  unfold search at h
  obtain ⟨there, -, h⟩ := bind_eq_ok h
  split at h
  · cases h
    cases hq
  · obtain ⟨each, heach, h⟩ := bind_eq_ok h
    cases h
    exact ((mem_select_iff heach).mp (List.mem_mergeSort.mp hq)).selected

/-! ## Patterns for names -/

/-- A pattern for names at any depth leads along names of entries, the last of which matches it. -/
theorem selected_wild {pattern : String} (h : Selected fs [.anyDepth, .wild pattern] names) :
    (∀ n ∈ names, fs.HasName n) ∧ ∃ n, names.getLast? = some n ∧ nameMatches pattern n = true := by
  generalize hss : [Selector.anyDepth, Selector.wild pattern] = ss at h
  cases h with
  | @anyDepth dirs ss names below rest =>
    cases hss
    cases rest with
    | @wild pattern n ss names has hit rest =>
      cases rest
      refine ⟨fun m hm => ?_, n, by simp, hit⟩
      rcases List.mem_append.mp hm with hm | hm
      · exact below m hm
      · rw [List.mem_singleton] at hm
        exact hm ▸ has
  | _ => cases hss

/-- The patterns of the toolchains to choose from are patterns for names, searched for at any
depth. -/
theorem selectorsOf_builtin {t : Toolchain} (ht : t ∈ Registry.builtin.toolchains)
    {pattern : String} (hp : pattern ∈ t.executablePatterns) :
    selectorsOf pattern = .ok [.anyDepth, .wild pattern] := by
  simp only [Registry.toolchains_builtin, List.mem_cons, List.not_mem_nil, or_false] at ht
  rcases ht with rfl | rfl | rfl | rfl | rfl
  · cases hp
  · cases hp
  · cases hp
  · cases hp
  · simp only [Registry.msvcWsl, List.mem_cons, List.not_mem_nil, or_false] at hp
    rcases hp with rfl | rfl <;> rfl

end FileSystem

end BuildPilot
