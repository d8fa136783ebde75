import BuildPilot.Proofs.Place

/-!
# What a walk looks at

A walk looks at the entry at each name that it comes to, and at no other. So a path leads to the
same entry in all file systems that agree on what the walk of the path looks at; and as long as no
link is on the way, that is what stands at the path and above it.
-/

namespace BuildPilot.FileSystem

/-- `LooksAt fs n loc names k`: walking `names` from the directory `loc`, with at most `n` links that
are all followed, looks at what stands at `k`. -/
inductive LooksAt (fs : FileSystem) : Nat → Location → List String → Location → Prop
  | here {n : Nat} {loc : Location} {name : String} {rest : List String} (fits : Fits name) :
      LooksAt fs n loc (name :: rest) (loc ++ [name])
  | stay {n : Nat} {loc k : Location} {name : String} {rest : List String}
      (dot : name = "" ∨ name = ".") (on : LooksAt fs n loc rest k) :
      LooksAt fs n loc (name :: rest) k
  | up {n : Nat} {loc k : Location} {rest : List String} (on : LooksAt fs n loc.dropLast rest k) :
      LooksAt fs n loc (".." :: rest) k
  | down {n : Nat} {loc k : Location} {name : String} {rest : List String} (fits : Fits name)
      (dir : fs.get? (loc ++ [name]) = some .dir) (on : LooksAt fs n (loc ++ [name]) rest k) :
      LooksAt fs n loc (name :: rest) k
  | jump {n : Nat} {loc k : Location} {name target : String} {rest : List String}
      (fits : Fits name) (link : fs.get? (loc ++ [name]) = some (.link target))
      (on : LooksAt fs n (if isAbsoluteText target then [] else loc)
        (linkComponents target ++ rest) k) : LooksAt fs (n + 1) loc (name :: rest) k

variable {fs gs : FileSystem} {n : Nat} {cwd loc k : Location} {names : List String} {p : Path}
  {s : Sight}

theorem Stuck.of_agree {name : String} {rest : List String} {cause : ErrorCause}
    (h : Stuck fs true n loc name rest cause)
    (same : Fits name → gs.get? (loc ++ [name]) = fs.get? (loc ++ [name])) :
    Stuck gs true n loc name rest cause := by
  cases h with
  | long plain long => exact .long plain long
  | lost fits free more => exact .lost fits ((same fits).trans free) more
  | blocked fits file more => exact .blocked fits ((same fits).trans file) more
  | tired fits link through spent => exact .tired fits ((same fits).trans link) through spent

/-- A walk keeps its way as long as what it looks at stays the same. -/
theorem Walks.of_agree (h : Walks fs true n loc names s)
    (agree : ∀ k, LooksAt fs n loc names k → gs.get? k = fs.get? k) :
    Walks gs true n loc names s := by
  induction h with
  | arrived n loc => exact .arrived n loc
  | stay dot on ih => exact .stay dot (ih fun k hk => agree k (.stay dot hk))
  | up on ih => exact .up (ih fun k hk => agree k (.up hk))
  | @landed n loc name fits stops =>
    have same := agree _ (.here fits)
    rw [← same] at stops ⊢
    exact .landed fits stops
  | down fits dir on ih =>
    have same := agree _ (.here fits)
    exact .down fits (same.trans dir) (ih fun k hk => agree k (.down fits dir hk))
  | jump fits link through on ih =>
    have same := agree _ (.here fits)
    exact .jump fits (same.trans link) through (ih fun k hk => agree k (.jump fits link hk))
  | stuck why => exact .stuck (why.of_agree fun fits => agree _ (.here fits))

/-- Where no link is on the way, a walk of plain names looks at the way itself. -/
theorem LooksAt.exists_prefix (h : LooksAt fs n loc names k)
    (plain : ∀ x ∈ names, IsPlainName x)
    (unlinked : ∀ zs, zs <+: names → ∀ target, fs.get? (loc ++ zs) ≠ some (.link target)) :
    ∃ zs, zs <+: names ∧ k = loc ++ zs := by
  induction h with
  | @here n loc name rest fits =>
    exact ⟨[name], List.cons_prefix_cons.mpr ⟨rfl, List.nil_prefix⟩, rfl⟩
  | @stay n loc k name rest dot =>
    obtain ⟨empty, single, -⟩ := plain name List.mem_cons_self
    exact absurd dot (not_or.mpr ⟨empty, single⟩)
  | up => exact absurd rfl (plain ".." List.mem_cons_self).2.2
  | @down n loc k name rest fits dir on ih =>
    have below : ∀ zs, zs <+: rest → ∀ target,
        fs.get? (loc ++ [name] ++ zs) ≠ some (.link target) := by
      intro zs le target
      rw [List.append_assoc]
      exact unlinked (name :: zs) (List.cons_prefix_cons.mpr ⟨rfl, le⟩) target
    obtain ⟨zs, le, rfl⟩ := ih (fun x hx => plain x (List.mem_cons_of_mem name hx)) below
    exact ⟨name :: zs, List.cons_prefix_cons.mpr ⟨rfl, le⟩, List.append_assoc loc [name] zs⟩
  | @jump n loc k name target rest fits link =>
    have le : [name] <+: name :: rest := List.cons_prefix_cons.mpr ⟨rfl, List.nil_prefix⟩
    exact absurd link (unlinked [name] le target)

/-! ## Ways of paths -/

/-- The way to what a path leads to, links followed, comes by the location `k`. -/
def ComesBy (fs : FileSystem) (cwd : Location) (p : Path) (k : Location) : Prop :=
  LooksAt fs maxLinks (startOf cwd p) p.parts k

theorem find_of_agree (agree : ∀ k, fs.ComesBy cwd p k → gs.get? k = fs.get? k) :
    gs.find cwd true p = fs.find cwd true p := by
  unfold find
  split
  · rfl
  · exact ((walks_walk fs true maxLinks _ _).of_agree agree).walk_eq

end BuildPilot.FileSystem
