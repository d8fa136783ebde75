/-!
# Cutting texts at a character

`splitAtEach` cuts a text at every occurrence of a character, and `cutAtFirst` at the first one.
-/

namespace BuildPilot.Text

/-- The pieces of a list between the occurrences of `sep`; there is always at least one. -/
def splitAtEach (sep : Char) : List Char → List (List Char)
  | [] => [[]]
  | c :: s =>
    if c = sep then [] :: splitAtEach sep s
    else match splitAtEach sep s with
      | [] => [[c]]
      | p :: ps => (c :: p) :: ps

/-- The parts before and behind the first occurrence of `sep`, if it occurs. -/
def cutAtFirst (sep : Char) : List Char → Option (List Char × List Char)
  | [] => none
  | c :: s =>
    if c = sep then some ([], s)
    else (cutAtFirst sep s).map fun (l, r) => (c :: l, r)

/-- The pieces of a text between the occurrences of `sep`. -/
def pieces (sep : Char) (s : String) : List String :=
  (splitAtEach sep s.toList).map String.ofList

theorem splitAtEach_ne_nil (sep : Char) (s : List Char) : splitAtEach sep s ≠ [] := by
  cases s with
  | nil => simp [splitAtEach]
  | cons c s =>
    simp only [splitAtEach]
    split
    · simp
    · split <;> simp

/-- Joining the pieces again gives the text. -/
theorem intercalate_splitAtEach (sep : Char) (s : List Char) :
    List.intercalate [sep] (splitAtEach sep s) = s := by
  induction s with
  | nil => simp [splitAtEach]
  | cons c s ih =>
    simp only [splitAtEach]
    split
    · next h =>
      subst h
      obtain ⟨p, ps, hp⟩ := List.exists_cons_of_ne_nil (splitAtEach_ne_nil c s)
      rw [hp] at ih ⊢
      simpa [List.intercalate] using ih
    · split
      · next h => exact absurd h (splitAtEach_ne_nil sep s)
      · next p ps hp =>
        rw [hp] at ih
        cases ps with
        | nil => simpa [List.intercalate] using ih
        | cons q qs => simpa [List.intercalate] using ih

theorem not_mem_of_mem_splitAtEach {sep : Char} {s p : List Char} (h : p ∈ splitAtEach sep s) :
    sep ∉ p := by
  induction s generalizing p with
  | nil =>
    rw [splitAtEach, List.mem_singleton] at h
    subst h
    exact List.not_mem_nil
  | cons c s ih =>
    rw [splitAtEach] at h
    by_cases hc : c = sep
    · rw [if_pos hc] at h
      rcases List.mem_cons.mp h with rfl | h
      · exact List.not_mem_nil
      · exact ih h
    · rw [if_neg hc] at h
      cases hs : splitAtEach sep s with
      | nil =>
        rw [hs, List.mem_singleton] at h
        subst h
        simpa using Ne.symm hc
      | cons q qs =>
        rw [hs] at h ih
        rcases List.mem_cons.mp h with rfl | h
        · have := ih (List.mem_cons_self (a := q))
          simp [Ne.symm hc, this]
        · exact ih (List.mem_cons_of_mem q h)

theorem splitAtEach_append {sep : Char} {x : List Char} (free : sep ∉ x) (rest : List Char) :
    splitAtEach sep (x ++ sep :: rest) = x :: splitAtEach sep rest := by
  induction x with
  | nil => simp [splitAtEach]
  | cons c x ih =>
    have hc : c ≠ sep := fun h => free (h ▸ List.mem_cons_self)
    rw [List.cons_append, splitAtEach, if_neg hc, ih fun h => free (List.mem_cons_of_mem c h)]

theorem splitAtEach_of_not_mem {sep : Char} {x : List Char} (free : sep ∉ x) :
    splitAtEach sep x = [x] := by
  induction x with
  | nil => rfl
  | cons c x ih =>
    have hc : c ≠ sep := fun h => free (h ▸ List.mem_cons_self)
    rw [splitAtEach, if_neg hc, ih fun h => free (List.mem_cons_of_mem c h)]

/-- Cutting a text that was joined gives its pieces again. -/
theorem splitAtEach_intercalate {sep : Char} {xs : List (List Char)} (ne : xs ≠ [])
    (free : ∀ x ∈ xs, sep ∉ x) : splitAtEach sep (List.intercalate [sep] xs) = xs := by
  induction xs with
  | nil => exact absurd rfl ne
  | cons x xs ih =>
    have first : sep ∉ x := free x List.mem_cons_self
    cases xs with
    | nil => simpa [List.intercalate] using splitAtEach_of_not_mem first
    | cons y ys =>
      have rest := ih (List.cons_ne_nil y ys) fun z hz => free z (List.mem_cons_of_mem x hz)
      have joined : List.intercalate [sep] (x :: y :: ys) =
          x ++ sep :: List.intercalate [sep] (y :: ys) := by
        simp [List.intercalate]
      rw [joined, splitAtEach_append first, rest]

end BuildPilot.Text
