import SceneScript.Number.Binary64

/-!
# Reading decimal text

`Binary64.ofText?` reads the decimal notation of a number and rounds it correctly: an optional
sign, digits with at most one point (digits on at least one side of it), and an optional
exponent `e` or `E` with an optional sign and at least one digit. The words `inf`, `infinity`
and `nan`, in any case and after an optional sign, name the non-finite data. Nothing else is
accepted: no blanks, no digit separators, only ASCII digits. A value beyond the finite range
reads as an infinity, one too small as a zero of its sign.
-/

namespace SceneScript

namespace Binary64

def digitsValue (ds : List Char) : Nat :=
  ds.foldl (fun acc c => acc * 10 + (c.toNat - 48)) 0

def readExponent? (cs : List Char) : Option Int :=
  let (negative, ds) := match cs with
    | '-' :: r => (true, r)
    | '+' :: r => (false, r)
    | r => (false, r)
  if ds.isEmpty || !ds.all Char.isDigit then none
  else
    let e := digitsValue ds
    some (if negative then -(e : Int) else e)

def readUnsignedDecimal? (neg : Bool) (cs : List Char) : Option Binary64 :=
  let (whole, rest) := cs.span Char.isDigit
  let (fraction, rest) := match rest with
    | '.' :: r => r.span Char.isDigit
    | r => ([], r)
  if whole.isEmpty && fraction.isEmpty then none
  else
    let exp? : Option Int := match rest with
      | [] => some 0
      | c :: r => if c = 'e' ∨ c = 'E' then readExponent? r else none
    exp?.map fun e => ofDecimal neg (digitsValue (whole ++ fraction)) (e - fraction.length)

def lowerWord (cs : List Char) : List Char :=
  cs.map fun c => if 'A' ≤ c ∧ c ≤ 'Z' then Char.ofNat (c.toNat + 32) else c

/-- Reads a decimal number or the name of a non-finite datum. -/
def ofText? (s : String) : Option Binary64 :=
  let (neg, cs) := match s.toList with
    | '-' :: r => (true, r)
    | '+' :: r => (false, r)
    | r => (false, r)
  if cs.isEmpty then none
  else
    match readUnsignedDecimal? neg cs with
    | some x => some x
    | none =>
        let w := lowerWord cs
        if w = "inf".toList ∨ w = "infinity".toList then some (infinite neg)
        else if w = "nan".toList then some nan
        else none

end Binary64

end SceneScript
