/-!
# Binary64 numbers

A `Binary64` is an IEEE 754 double given by its fields: sign, biased exponent and fraction.
Every finite datum is an integer multiple of the least subnormal `2^-1074`, and `units`
gives that multiple. Each operation here computes its exact result as a ratio of natural
numbers in that unit and rounds it once with `ofRatio` (to nearest, a tie to the even
significand, past the largest finite datum to infinity), which is the standard's default
rounding; the special cases (NaN, infinities, signed zeros) follow the standard too.

Nothing here runs on the hardware's floating point, so every operation is a function of the
logic that proofs can open.
-/

namespace SceneScript

/-- `2^k`, computed by `Nat.pow` itself, so that it names one function whichever instance
would resolve `^`. -/
def pow2 (k : Nat) : Nat := Nat.pow 2 k

def pow10 (k : Nat) : Nat := Nat.pow 10 k

theorem pow2_pos (k : Nat) : 0 < pow2 k :=
  Nat.pow_pos Nat.zero_lt_two

/-- An IEEE 754 binary64 datum. All NaNs are one value: nothing in this library reads a payload. -/
inductive Binary64 where
  /-- A finite datum: sign, biased exponent field (`0` for subnormals) and fraction field. -/
  | finite (neg : Bool) (exp : Fin 2047) (frac : Fin (pow2 52))
  | infinite (neg : Bool)
  | nan
  deriving DecidableEq, Repr

namespace Binary64

def unitShift : Nat := 1074

def hidden : Nat := pow2 52

def significandOf (exp : Fin 2047) (frac : Fin (pow2 52)) : Nat :=
  if exp.val = 0 then frac.val else hidden + frac.val

def stepOf (exp : Fin 2047) : Nat :=
  exp.val - 1

def unitsOf (exp : Fin 2047) (frac : Fin (pow2 52)) : Nat :=
  significandOf exp frac * pow2 (stepOf exp)

def signedZero (neg : Bool) : Binary64 := finite neg 0 ⟨0, pow2_pos 52⟩

def zero : Binary64 := signedZero false

def negZero : Binary64 := signedZero true

/-- Writes `m * 2^q` units, for `m < 2^53` with `q = 0` whenever `m < 2^52`, as a datum;
a step past the largest exponent field gives infinity. -/
def encode (neg : Bool) (m q : Nat) : Binary64 :=
  if h : m < hidden then
    finite neg 0 ⟨m, h⟩
  else if h : q + 1 < 2047 then
    finite neg ⟨q + 1, h⟩ ⟨(m - hidden) % pow2 52, Nat.mod_lt _ (pow2_pos 52)⟩
  else
    infinite neg

def roundHalfEven (n d : Nat) : Nat :=
  let q := n / d
  let r := n % d
  if 2 * r < d then q
  else if d < 2 * r then q + 1
  else if q % 2 = 0 then q
  else q + 1

def floorLog2Ratio (n d : Nat) : Int :=
  let k : Int := (n.log2 : Int) - (d.log2 : Int)
  let reached : Bool :=
    if 0 ≤ k then decide (d * pow2 k.toNat ≤ n) else decide (d ≤ n * pow2 (-k).toNat)
  if reached then k else k - 1

/-- The datum of sign `neg` nearest to `n / d` units: the single rounding of this library.
The step `q` is the least that leaves at most 53 significant bits; a significand that rounds
up to `2^53` moves to the next step. -/
def ofRatio (neg : Bool) (n d : Nat) : Binary64 :=
  if n = 0 ∨ d = 0 then signedZero neg
  else
    let q := (floorLog2Ratio n d - 52).toNat
    let m := roundHalfEven n (d * pow2 q)
    if m = pow2 53 then encode neg hidden (q + 1) else encode neg m q

def ofNat (n : Nat) : Binary64 :=
  ofRatio false (n * pow2 unitShift) 1

def ofInt (i : Int) : Binary64 :=
  ofRatio (decide (i < 0)) (i.natAbs * pow2 unitShift) 1

def decimalLength (n : Nat) : Nat :=
  (Nat.toDigits 10 n).length

/-- The nearest datum to `digits * 10^exp10` with sign `neg`. Values of at least `10^310`
become infinity and values below `10^-326` a zero before any exact arithmetic, since both
lie far outside the finite range. -/
def ofDecimal (neg : Bool) (digits : Nat) (exp10 : Int) : Binary64 :=
  if digits = 0 then signedZero neg
  else
    let top : Int := exp10 + decimalLength digits
    if 310 < top then infinite neg
    else if top < -325 then signedZero neg
    else if 0 ≤ exp10 then ofRatio neg (digits * pow10 exp10.toNat * pow2 unitShift) 1
    else ofRatio neg (digits * pow2 unitShift) (pow10 (-exp10).toNat)

def signedUnits (neg : Bool) (u : Nat) : Int :=
  if neg then -(u : Int) else u

def isFinite : Binary64 → Bool
  | finite .. => true
  | _ => false

def isNaN : Binary64 → Bool
  | nan => true
  | _ => false

def isZero : Binary64 → Bool
  | finite _ exp frac => unitsOf exp frac = 0
  | _ => false

def neg : Binary64 → Binary64
  | finite s exp frac => finite (!s) exp frac
  | infinite s => infinite (!s)
  | nan => nan

/-- Product, rounded once. Zero times infinity is NaN; signs multiply. -/
def mul : Binary64 → Binary64 → Binary64
  | nan, _ => nan
  | _, nan => nan
  | infinite s, infinite t => infinite (s != t)
  | infinite s, finite t e f => if unitsOf e f = 0 then nan else infinite (s != t)
  | finite s e f, infinite t => if unitsOf e f = 0 then nan else infinite (s != t)
  | finite s e f, finite t e' f' =>
      ofRatio (s != t) (unitsOf e f * unitsOf e' f') (pow2 unitShift)

/-- Quotient, rounded once. A non-zero finite over zero is infinite, zero over zero and
infinity over infinity are NaN. -/
def div : Binary64 → Binary64 → Binary64
  | nan, _ => nan
  | _, nan => nan
  | infinite _, infinite _ => nan
  | infinite s, finite t _ _ => infinite (s != t)
  | finite s _ _, infinite t => signedZero (s != t)
  | finite s e f, finite t e' f' =>
      if unitsOf e' f' = 0 then
        (if unitsOf e f = 0 then nan else infinite (s != t))
      else ofRatio (s != t) (unitsOf e f * pow2 unitShift) (unitsOf e' f')

/-- Sum, rounded once. Opposite infinities give NaN; an exact zero sum is positive unless
both terms are negative. -/
def add : Binary64 → Binary64 → Binary64
  | nan, _ => nan
  | _, nan => nan
  | infinite s, infinite t => if s = t then infinite s else nan
  | infinite s, finite .. => infinite s
  | finite .., infinite t => infinite t
  | finite s e f, finite t e' f' =>
      let x := signedUnits s (unitsOf e f) + signedUnits t (unitsOf e' f')
      if x = 0 then signedZero (s && t) else ofRatio (decide (x < 0)) x.natAbs 1

instance : Mul Binary64 := ⟨mul⟩
instance : Div Binary64 := ⟨div⟩
instance : Add Binary64 := ⟨add⟩
instance : Neg Binary64 := ⟨neg⟩

def lt : Binary64 → Binary64 → Bool
  | nan, _ => false
  | _, nan => false
  | infinite s, infinite t => s && !t
  | infinite s, finite .. => s
  | finite .., infinite t => !t
  | finite s e f, finite t e' f' =>
      decide (signedUnits s (unitsOf e f) < signedUnits t (unitsOf e' f'))

def eq : Binary64 → Binary64 → Bool
  | nan, _ => false
  | _, nan => false
  | infinite s, infinite t => s == t
  | finite s e f, finite t e' f' =>
      decide (signedUnits s (unitsOf e f) = signedUnits t (unitsOf e' f'))
  | _, _ => false

def le (a b : Binary64) : Bool :=
  a.lt b || a.eq b

/-- Moves the datum into `[lo, hi]`: below `lo` gives `lo`, above `hi` gives `hi`, anything
else (NaN included) stays. -/
def clamp (x lo hi : Binary64) : Binary64 :=
  if x.lt lo then lo else if hi.lt x then hi else x

def max (a b : Binary64) : Binary64 :=
  if a.isNaN then b else if b.isNaN then a else if a.lt b then b else a

def isIntegral : Binary64 → Bool
  | finite _ e f => unitsOf e f % pow2 unitShift = 0
  | _ => false

def truncNat : Binary64 → Nat
  | finite false e f => unitsOf e f / pow2 unitShift
  | _ => 0

def one : Binary64 := ofNat 1

end Binary64

end SceneScript
