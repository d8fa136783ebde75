/-!
# Shortest decimals

The fewest decimal digits that read back to a given binary floating-point number. A finite number
is `m * 2 ^ q`; the reals that round to it form an interval around it. The digits are searched
grid by grid, from one digit upwards, with exact arithmetic on natural numbers: the first grid
with a point in the interval wins, of two points the nearer one, and of two equally near ones the
even one.
-/

namespace BuildPilot.Numeric

/-- A finite non-negative number `m * 2 ^ q`. The gap to the next number below may be half as wide
as the gap above. -/
structure Binary where
  m : Nat
  q : Int
  narrowBelow : Bool
deriving DecidableEq, Repr

/-- The magnitude of a finite number given by its bits. -/
def Binary.ofBits (b : UInt64) : Binary :=
  let e := ((b >>> 52) &&& 0x7FF).toNat
  let f := (b &&& 0xFFFFFFFFFFFFF).toNat
  if e == 0 then ⟨f, -1074, false⟩ else ⟨Nat.pow 2 52 + f, (e : Int) - 1075, f == 0 && e > 1⟩

/-- The decimal number `digits * 10 ^ exp`. -/
structure Decimal where
  digits : Nat
  exp : Int
deriving DecidableEq, Repr

/-- Compares `a * 10 ^ i` with `n * 2 ^ j`. -/
def compareScaled (a : Nat) (i : Int) (n : Nat) (j : Int) : Ordering :=
  compare (a * Nat.pow 10 i.toNat * Nat.pow 2 (-j).toNat)
    (n * Nat.pow 2 j.toNat * Nat.pow 10 (-i).toNat)

/-- Whether a decimal lies among the reals that round to the number. The ends of the interval
belong to it exactly when `m` is even. -/
def Binary.readsBack (x : Binary) (d : Decimal) : Bool :=
  let below := compareScaled d.digits d.exp (if x.narrowBelow then 4 * x.m - 1 else 4 * x.m - 2)
    (x.q - 2)
  let above := compareScaled d.digits d.exp (4 * x.m + 2) (x.q - 2)
  let closed := x.m % 2 == 0
  (below == .gt || closed && below == .eq) && (above == .lt || closed && above == .eq)

/-- The least `k` between `k` and `k + steps` with `x < 10 ^ k`. -/
def scaleFrom (x : Binary) (k : Int) : (steps : Nat) → Int
  | 0 => k
  | steps + 1 => if compareScaled 1 k x.m x.q == .gt then k else scaleFrom x (k + 1) steps

/-- The least `k` with `x < 10 ^ k`. -/
def Binary.scale (x : Binary) : Int :=
  let bits : Int := (x.m.log2 : Int) + x.q
  scaleFrom x ((bits * 30103).fdiv 100000 - 1) 4

/-- The whole number of steps of `10 ^ g` that fit into the number. -/
def Binary.steps (x : Binary) (g : Int) : Nat :=
  (x.m * Nat.pow 2 x.q.toNat * Nat.pow 10 (-g).toNat)
    / (Nat.pow 2 (-x.q).toNat * Nat.pow 10 g.toNat)

/-- The point of the grid `10 ^ g` that reads back to the number, if there is one. -/
def Binary.onGrid? (x : Binary) (g : Int) : Option Decimal :=
  let n := x.steps g
  let low : Decimal := ⟨n, g⟩
  let high : Decimal := ⟨n + 1, g⟩
  match x.readsBack low, x.readsBack high with
  | true, true =>
    match compareScaled (2 * n + 1) g (2 * x.m) x.q with
    | .gt => some low
    | .lt => some high
    | .eq => some (if n % 2 == 0 then low else high)
  | true, false => some low
  | false, true => some high
  | false, false => none

/-- The exact decimal value of a number. -/
def Binary.exact (x : Binary) : Decimal :=
  if 0 ≤ x.q then ⟨x.m * Nat.pow 2 x.q.toNat, 0⟩
  else ⟨x.m * Nat.pow 5 (-x.q).toNat, x.q⟩

/-- A decimal without trailing zeros among its digits; `bound` limits how many are dropped. -/
def Decimal.strip (d : Decimal) : (bound : Nat) → Decimal
  | 0 => d
  | bound + 1 =>
    if d.digits ≠ 0 ∧ d.digits % 10 = 0 then Decimal.strip ⟨d.digits / 10, d.exp + 1⟩ bound else d

/-- The shortest decimal that reads back to a positive number. -/
def Binary.shortest (x : Binary) : Decimal :=
  let k := x.scale
  let found := (List.range 17).findSome? fun n => x.onGrid? (k - (n + 1 : Nat))
  (found.getD x.exact).strip 800

end BuildPilot.Numeric
