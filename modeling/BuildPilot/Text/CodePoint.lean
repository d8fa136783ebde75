/-!
# Sets of code points

A set of characters is kept as a list of closed ranges of code points, ascending and apart.
-/

namespace BuildPilot.Text

/-- A set of code points, as closed ranges that ascend and leave gaps. -/
abbrev Ranges := List (Nat × Nat)

/-- Whether a code point lies in one of the ranges. -/
def Ranges.contains (rs : Ranges) (n : Nat) : Bool :=
  rs.any fun r => r.1 ≤ n && n ≤ r.2

/-- The ranges ascend and no two of them touch. -/
def Ranges.WellFormed : Ranges → Bool
  | [] => true
  | [r] => r.1 ≤ r.2
  | r :: s :: rs => r.1 ≤ r.2 && r.2 + 1 < s.1 && Ranges.WellFormed (s :: rs)

theorem Ranges.contains_iff (rs : Ranges) (n : Nat) :
    rs.contains n = true ↔ ∃ r ∈ rs, r.1 ≤ n ∧ n ≤ r.2 := by
  simp [Ranges.contains]

end BuildPilot.Text
