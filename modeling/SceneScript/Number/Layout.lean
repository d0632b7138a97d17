import SceneScript.Number.Shortest

/-!
# Writing binary64 data as text

A `NumberLayout` holds the decisions a number format makes once its shortest decimal is
known: which magnitudes are written positionally, whether an integral value keeps a `.0`,
how the exponent is marked, how ties are broken and what non-finite data become. The two
records used by this library are `NumberLayout.json`, for numbers in JSON text, and
`NumberLayout.script`, for numbers written into generated scripts.
-/

namespace SceneScript

structure NumberLayout where
  plainFrom : Option Int
  plainUpTo : Option Int
  pointZero : Bool
  plusExponent : Bool
  tie : DecimalTie
  nanText : String
  posInfText : String
  negInfText : String

namespace NumberLayout

/-- Numbers in JSON text: positional for magnitudes in `[1e-5, 1e16)`, integral values
keep `.0`, exponents carry their sign (`1e+16`, `1.5e-7`), ties go to the even digit, and a
non-finite datum is `null`. -/
def json : NumberLayout :=
  { plainFrom := some (-5), plainUpTo := some 15, pointZero := true, plusExponent := true,
    tie := .even, nanText := "null", posInfText := "null", negInfText := "null" }

/-- Numbers in generated scripts: always positional, integral values without a fraction,
ties to the larger decimal. -/
def script : NumberLayout :=
  { plainFrom := none, plainUpTo := none, pointZero := false, plusExponent := false,
    tie := .up, nanText := "NaN", posInfText := "inf", negInfText := "-inf" }

def zeros (n : Nat) : String :=
  String.ofList (List.replicate n '0')

def isPlain (layout : NumberLayout) (top : Int) : Bool :=
  (match layout.plainFrom with
    | some lo => decide (lo ≤ top)
    | none => true) &&
  (match layout.plainUpTo with
    | some hi => decide (top ≤ hi)
    | none => true)

def plainText (layout : NumberLayout) (ds : List Char) (s : Int) : String :=
  let n : Int := ds.length
  let point := n + s
  if point ≤ 0 then
    "0." ++ zeros (-point).toNat ++ String.ofList ds
  else if point < n then
    String.ofList (ds.take point.toNat) ++ "." ++ String.ofList (ds.drop point.toNat)
  else
    String.ofList ds ++ zeros s.toNat ++ (if layout.pointZero then ".0" else "")

def scientificText (layout : NumberLayout) (ds : List Char) (top : Int) : String :=
  let mantissa :=
    match ds with
    | [] => "0"
    | [d] => String.singleton d
    | d :: rest => String.singleton d ++ "." ++ String.ofList rest
  let sign := if top < 0 then "-" else if layout.plusExponent then "+" else ""
  mantissa ++ "e" ++ sign ++ toString top.natAbs

def decimalText (layout : NumberLayout) (d : Decimal) : String :=
  if d.digits = 0 then
    "0" ++ (if layout.pointZero then ".0" else "")
  else
    let ds := Nat.toDigits 10 d.digits
    let top : Int := d.exp + ds.length - 1
    if layout.isPlain top then layout.plainText ds d.exp else layout.scientificText ds top

def render (layout : NumberLayout) : Binary64 → String
  | .nan => layout.nanText
  | .infinite false => layout.posInfText
  | .infinite true => layout.negInfText
  | .finite neg exp frac =>
      (if neg then "-" else "") ++ layout.decimalText (Decimal.shortestOfFields layout.tie exp frac)

end NumberLayout

end SceneScript
