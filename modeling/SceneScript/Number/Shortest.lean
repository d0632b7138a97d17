import SceneScript.Number.Binary64

/-!
# Shortest decimal of a binary64 datum

A positive finite datum stands for the interval of reals that round to it: half-way to each
neighbouring datum, the ends included exactly when the significand is even (ties go to the even
significand). The shortest decimal is the decimal with the fewest significant digits in that
interval; of two such decimals with that many digits the one nearer to the datum wins, and an
exact tie between them is settled by the caller's rule.

All comparisons are exact, in half-units (`2^-1075`). For `n` digits only the datum's two
neighbours on the grid of `n`-digit decimals are tried: if any point of a grid lies in the
interval, one of those two does, so the first `n` with a hit is the least.
-/

namespace SceneScript

/-- A decimal `digits * 10^exp`. The shortest decimals produced here have no trailing zero in
`digits`, except for zero itself. -/
structure Decimal where
  digits : Nat
  exp : Int
  deriving DecidableEq, Repr

inductive DecimalTie where
  | even
  | up
  deriving DecidableEq, Repr

namespace Decimal

def normalizeAux : Nat → Nat → Int → Decimal
  | 0, d, e => ⟨d, e⟩
  | fuel + 1, d, e =>
      if d ≠ 0 ∧ d % 10 = 0 then normalizeAux fuel (d / 10) (e + 1) else ⟨d, e⟩

def normalize (x : Decimal) : Decimal :=
  normalizeAux (x.digits.log2 + 1) x.digits x.exp

def compareHalfUnits (c : Nat) (s : Int) (b : Nat) : Ordering :=
  if 0 ≤ s then compare (c * pow10 s.toNat * pow2 1075) b
  else compare (c * pow2 1075) (b * pow10 (-s).toNat)

/-- `⌊log₁₀ (u * 2^-1074)⌋` for a positive number of units `u`, found by exact comparison with
powers of ten around an estimate from the bit length. -/
def floorLog10Units (u : Nat) : Int :=
  let est : Int := ((u.log2 : Int) - 1074) * 1233 / 4096
  let atLeast (k : Int) : Bool := compareHalfUnits 1 k (2 * u) != .gt
  let candidates := [est + 2, est + 1, est, est - 1, est - 2]
  match candidates.find? atLeast with
  | some k => k
  | none => est - 3

/-- The interval of a positive datum with significand `m` at step `q`, in half-units, and
whether its ends belong to it. -/
structure RoundingInterval where
  low : Nat
  high : Nat
  inclusive : Bool

def roundingInterval (exp : Fin 2047) (frac : Fin (pow2 52)) : RoundingInterval :=
  let m := Binary64.significandOf exp frac
  let step := pow2 (Binary64.stepOf exp)
  let u := Binary64.unitsOf exp frac
  let lowGap := if frac.val = 0 ∧ 1 < exp.val then step / 2 else step
  { low := 2 * u - lowGap, high := 2 * u + step, inclusive := m % 2 = 0 }

def RoundingInterval.holds (iv : RoundingInterval) (c : Nat) (s : Int) : Bool :=
  let aboveLow := match compareHalfUnits c s iv.low with
    | .gt => true
    | .eq => iv.inclusive
    | .lt => false
  let belowHigh := match compareHalfUnits c s iv.high with
    | .lt => true
    | .eq => iv.inclusive
    | .gt => false
  aboveLow && belowHigh

/-- The `n`-digit candidate for a datum of `u` units whose leading digit has exponent `top`:
the nearer of its two grid neighbours that lie in the interval, if any does. -/
def candidate (tie : DecimalTie) (iv : RoundingInterval) (u : Nat) (top : Int) (n : Nat) :
    Option Decimal :=
  let s : Int := top - n + 1
  -- the grid neighbour below: ⌊u * 2^-1074 / 10^s⌋
  let below : Nat :=
    if 0 ≤ s then u / (pow10 s.toNat * pow2 1074) else u * pow10 (-s).toNat / pow2 1074
  let above := below + 1
  let inBelow := iv.holds below s
  let inAbove := iv.holds above s
  if inBelow && inAbove then
    -- compare the datum with the midpoint (below + 1/2) * 10^s, in half-units
    match compareHalfUnits (2 * below + 1) s (4 * u) with
    | .gt => some ⟨below, s⟩
    | .lt => some ⟨above, s⟩
    | .eq =>
        match tie with
        | .even => some (if below % 2 = 0 then ⟨below, s⟩ else ⟨above, s⟩)
        | .up => some ⟨above, s⟩
  else if inBelow then some ⟨below, s⟩
  else if inAbove then some ⟨above, s⟩
  else none

/-- The shortest decimal of a positive magnitude given by its exponent field and fraction;
seventeen digits always suffice for a binary64 datum. -/
def shortestOfFields (tie : DecimalTie) (exp : Fin 2047) (frac : Fin (pow2 52)) : Decimal :=
  let u := Binary64.unitsOf exp frac
  if u = 0 then ⟨0, 0⟩
  else
    let iv := roundingInterval exp frac
    let top := floorLog10Units u
    let found := (List.range 17).findSome? fun i => candidate tie iv u top (i + 1)
    match found with
    | some d => d.normalize
    | none => ⟨0, 0⟩

end Decimal

end SceneScript
