import SceneScript.Json.Value

/-!
# Reading JSON text

The reader accepts standard JSON: blanks (space, tab, line feed, carriage return) between
tokens, the three literals, strings whose escapes are the standard ones (a `\u` escape of a
high surrogate must be followed by one of a low surrogate; a lone surrogate and a raw control
character are refused), numbers, arrays and objects. Containers nest at most 127 deep; the
128th level is refused. Only blanks may follow the value.

Numbers follow a fast, approximate rule rather than correct rounding. The digits are
accumulated into a 64-bit significand as long as it fits; further digits of the integer part
only raise the decimal exponent, further digits of the fraction are dropped. An integer that
fits stays an integer (a negative one down to `-2^63`; `-0` is the float negative zero). Any
other number is the significand rounded to binary64, then multiplied or divided once by the
binary64 nearest to the power of ten; a product that overflows is refused, and exponents
below `-308` divide by `1e308` first.

Objects keep their members in document order, duplicates included; `Json.parse` returns that
raw tree and `Json.parseCanonical` its canonical form.
-/

namespace SceneScript

namespace Json

def isSpace (c : Char) : Bool :=
  c = ' ' || c = '\t' || c = '\n' || c = '\r'

def skipSpace (cs : List Char) : List Char :=
  cs.dropWhile isSpace

def hexValue? (c : Char) : Option Nat :=
  if '0' ≤ c ∧ c ≤ '9' then some (c.toNat - 48)
  else if 'a' ≤ c ∧ c ≤ 'f' then some (c.toNat - 87)
  else if 'A' ≤ c ∧ c ≤ 'F' then some (c.toNat - 55)
  else none

def hex4? (a b c d : Char) : Option Nat := do
  let a ← hexValue? a
  let b ← hexValue? b
  let c ← hexValue? c
  let d ← hexValue? d
  pure (((a * 16 + b) * 16 + c) * 16 + d)

def isHighSurrogate (n : Nat) : Bool := 0xD800 ≤ n && n < 0xDC00

def isLowSurrogate (n : Nat) : Bool := 0xDC00 ≤ n && n < 0xE000

def simpleEscape? (c : Char) : Option Char :=
  if c = '"' then some '"'
  else if c = '\\' then some '\\'
  else if c = '/' then some '/'
  else if c = 'b' then some (Char.ofNat 8)
  else if c = 'f' then some (Char.ofNat 12)
  else if c = 'n' then some '\n'
  else if c = 'r' then some '\r'
  else if c = 't' then some '\t'
  else none

/-- Reads a string's characters after its opening quote, up to and without the closing
quote; `acc` holds the characters read so far, last first. -/
def readStringBody : List Char → List Char → Option (String × List Char)
  | [], _ => none
  | '"' :: rest, acc => some (String.ofList acc.reverse, rest)
  | '\\' :: 'u' :: a :: b :: c :: d :: rest, acc =>
      match hex4? a b c d with
      | none => none
      | some n =>
          if isHighSurrogate n then
            match rest with
            | '\\' :: 'u' :: e :: f :: g :: h :: rest' =>
                match hex4? e f g h with
                | some m =>
                    if isLowSurrogate m then
                      readStringBody rest'
                        (Char.ofNat (0x10000 + (n - 0xD800) * 0x400 + (m - 0xDC00)) :: acc)
                    else none
                | none => none
            | _ => none
          else if isLowSurrogate n then none
          else readStringBody rest (Char.ofNat n :: acc)
  | '\\' :: e :: rest, acc =>
      match simpleEscape? e with
      | some c => readStringBody rest (c :: acc)
      | none => none
  | c :: rest, acc =>
      if c.toNat < 0x20 then none else readStringBody rest (c :: acc)

def wordMax : Nat := pow2 64 - 1

def exponentMax : Nat := pow2 31 - 1

def digitValue (c : Char) : Nat := c.toNat - 48

/-- Integer digits: the significand grows while it stays a word; once a digit would overflow
it, that digit and all later ones only count into `extra`. -/
def accumulateInteger : Nat × Bool × Nat → List Char → Nat × Bool × Nat
  | st, [] => st
  | (sig, full, extra), c :: rest =>
      if full then accumulateInteger (sig, true, extra + 1) rest
      else if sig * 10 + digitValue c ≤ wordMax then
        accumulateInteger (sig * 10 + digitValue c, false, extra) rest
      else accumulateInteger (sig, true, extra + 1) rest

/-- Fraction digits: each digit that keeps the significand a word is taken and lowers the
exponent; from the first that does not, the remaining digits are dropped. -/
def accumulateFraction : Nat × Int → List Char → Nat × Int
  | st, [] => st
  | (sig, exp), c :: rest =>
      if sig * 10 + digitValue c ≤ wordMax then
        accumulateFraction (sig * 10 + digitValue c, exp - 1) rest
      else (sig, exp)

def accumulateExponent : Nat → List Char → Option Nat
  | e, [] => some e
  | e, c :: rest =>
      if e * 10 + digitValue c ≤ exponentMax then accumulateExponent (e * 10 + digitValue c) rest
      else none

def powerOfTen (k : Nat) : Binary64 :=
  Binary64.ofDecimal false 1 k

/-- Scales a datum by `10^exp` as the approximate rule does; `none` when a product overflows.
Below `-308` the datum is first divided by `1e308`; a significand below `2^64` reaches zero
after two such divisions, so three rounds suffice. -/
def scaleByTen : Nat → Binary64 → Int → Option Binary64
  | fuel, f, exp =>
      if exp.natAbs ≤ 308 then
        if 0 ≤ exp then
          let g := f * powerOfTen exp.toNat
          if g.isFinite then some g else none
        else some (f / powerOfTen exp.natAbs)
      else if f.isZero then some f
      else if 0 ≤ exp then none
      else match fuel with
        | 0 => some f
        | fuel + 1 => scaleByTen fuel (f / powerOfTen 308) (exp + 308)

def approximate (positive : Bool) (sig : Nat) (exp : Int) : Option Binary64 :=
  (scaleByTen 3 (Binary64.ofNat sig) exp).map fun f => if positive then f else -f

def saturate (e : Int) : Int :=
  max (-(pow2 31 : Int)) (min ((pow2 31 : Int) - 1) e)

def readExponent (positive : Bool) (sig : Nat) (start : Int) (cs : List Char) :
    Option (JsonNumber × List Char) :=
  let (expPositive, cs) := match cs with
    | '+' :: r => (true, r)
    | '-' :: r => (false, r)
    | r => (true, r)
  match cs.span Char.isDigit with
  | ([], _) => none
  | (ds, rest) =>
      match accumulateExponent 0 ds with
      | none =>
          if sig ≠ 0 ∧ expPositive then none
          else some (.float (if positive then Binary64.zero else Binary64.negZero), rest)
      | some e =>
          let final := saturate (if expPositive then start + e else start - e)
          (approximate positive sig final).map fun f => (.float f, rest)

def readNumberTail (positive : Bool) (sig : Nat) (full : Bool) (extra : Nat) (cs : List Char) :
    Option (JsonNumber × List Char) :=
  match cs with
  | '.' :: r =>
      match r.span Char.isDigit with
      | ([], _) => none
      | (ds, rest) =>
          let (sig, exp) := accumulateFraction (sig, extra) ds
          match rest with
          | 'e' :: r' => readExponent positive sig exp r'
          | 'E' :: r' => readExponent positive sig exp r'
          | _ => (approximate positive sig exp).map fun f => (.float f, rest)
  | 'e' :: r => readExponent positive sig extra r
  | 'E' :: r => readExponent positive sig extra r
  | rest =>
      if full then (approximate positive sig extra).map fun f => (.float f, rest)
      else if positive then some (.int sig, rest)
      else if sig = 0 then some (.float Binary64.negZero, rest)
      else if sig ≤ pow2 63 then some (.int (-(sig : Int)), rest)
      else some (.float (-(Binary64.ofNat sig)), rest)

def readNumber (cs : List Char) : Option (JsonNumber × List Char) :=
  let (positive, cs) := match cs with
    | '-' :: r => (false, r)
    | r => (true, r)
  match cs with
  | '0' :: rest =>
      match rest with
      | c :: _ => if c.isDigit then none else readNumberTail positive 0 false 0 rest
      | [] => readNumberTail positive 0 false 0 rest
  | c :: _ =>
      if c.isDigit then
        let (ds, rest) := cs.span Char.isDigit
        let (sig, full, extra) := accumulateInteger (0, false, 0) ds
        readNumberTail positive sig full extra rest
      else none
  | [] => none

/-- The deepest nesting of containers plus one: the 128th level is refused. -/
def nestingRoom : Nat := 128

mutual
/-- Reads one value after optional blanks, its numbers by `number`. `room` is the nesting still
allowed plus one; `fuel` bounds the calls. -/
def readValue (number : List Char → Option (JsonNumber × List Char)) :
    Nat → Nat → List Char → Option (Json × List Char)
  | 0, _, _ => none
  | fuel + 1, room, cs =>
      match skipSpace cs with
      | 'n' :: 'u' :: 'l' :: 'l' :: rest => some (null, rest)
      | 't' :: 'r' :: 'u' :: 'e' :: rest => some (bool true, rest)
      | 'f' :: 'a' :: 'l' :: 's' :: 'e' :: rest => some (bool false, rest)
      | '"' :: rest => (readStringBody rest []).map fun r => (str r.1, r.2)
      | '[' :: rest =>
          if room ≤ 1 then none
          else match skipSpace rest with
            | ']' :: r => some (arr [], r)
            | _ => readItems number fuel (room - 1) rest []
      | '\x7b' :: rest =>
          if room ≤ 1 then none
          else match skipSpace rest with
            | '\x7d' :: r => some (obj [], r)
            | _ => readMembers number fuel (room - 1) rest []
      | cs' => (number cs').map fun r => (num r.1, r.2)

def readItems (number : List Char → Option (JsonNumber × List Char)) :
    Nat → Nat → List Char → List Json → Option (Json × List Char)
  | 0, _, _, _ => none
  | fuel + 1, room, cs, acc =>
      match readValue number fuel room cs with
      | none => none
      | some (v, rest) =>
          match skipSpace rest with
          | ',' :: r => readItems number fuel room r (v :: acc)
          | ']' :: r => some (arr (v :: acc).reverse, r)
          | _ => none

def readMembers (number : List Char → Option (JsonNumber × List Char)) :
    Nat → Nat → List Char → List (String × Json) → Option (Json × List Char)
  | 0, _, _, _ => none
  | fuel + 1, room, cs, acc =>
      match skipSpace cs with
      | '"' :: r =>
          match readStringBody r [] with
          | none => none
          | some (k, r1) =>
              match skipSpace r1 with
              | ':' :: r2 =>
                  match readValue number fuel room r2 with
                  | none => none
                  | some (v, r3) =>
                      match skipSpace r3 with
                      | ',' :: r4 => readMembers number fuel room r4 ((k, v) :: acc)
                      | '\x7d' :: r4 => some (obj ((k, v) :: acc).reverse, r4)
                      | _ => none
              | _ => none
      | _ => none
end

/-- Reads a whole JSON text: one value and nothing after it but blanks. Objects keep their
members in document order. -/
def parse (s : String) : Option Json :=
  let cs := s.toList
  match readValue readNumber (2 * cs.length + 2) nestingRoom cs with
  | some (v, rest) => if (skipSpace rest).isEmpty then some v else none
  | none => none

def parseCanonical (s : String) : Option Json :=
  (parse s).map canonical

end Json

end SceneScript
