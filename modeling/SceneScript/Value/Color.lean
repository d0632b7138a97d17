import SceneScript.Json.Loose
import SceneScript.Run.Fault
import SceneScript.Script.Literal
import SceneScript.Text.Digit

/-!
# Colours

An `Rgb` colour has three linear channels meant to lie in `[0, 1]`. A colour is read from a
node's data by `Color.resolve`: the first colour source among the `color` paths of the data,
then `Color.normalize`, which tries in order

* a text (trimmed) `#rgb` or `#rrggbb` in hexadecimal digits of either case, each digit of the
  short form doubled;
* `#rrggbbaa`, the alpha pair ignored, or, in any ASCII case, `rgb(r, g, b)` or
  `rgba(r, g, b, a)` with decimal channels (blanks are Unicode blanks, digits any decimal
  digits, but a channel must read as an ASCII number), each channel clamped to `[0, 255]`;
* an object `{r, g, b}` of loose numbers, read on the byte scale when a channel exceeds one,
  then clamped to `[0, 1]`;

and gives white when none applies.

Reading a colour runs three operations that can panic: every clamp, the byte arithmetic that
doubles a digit of the short form, and the cuts that split the long forms into pairs of digits
by byte offsets.
-/

namespace SceneScript

structure Rgb where
  r : Binary64
  g : Binary64
  b : Binary64
  deriving DecidableEq, Repr

namespace Rgb

def white : Rgb := ⟨Binary64.one, Binary64.one, Binary64.one⟩

def byteChannel (n : Nat) : Binary64 :=
  Binary64.ofNat n / Binary64.ofNat 255

def ofBytes (r g b : Nat) : Rgb :=
  ⟨byteChannel r, byteChannel g, byteChannel b⟩

def clampUnit (x : Binary64) : Except Fault Binary64 :=
  x.clampAssert Binary64.zero Binary64.one

def clamped (c : Rgb) : Except Fault Rgb := do
  let r ← clampUnit c.r
  let g ← clampUnit c.g
  let b ← clampUnit c.b
  pure ⟨r, g, b⟩

def scaled (c : Rgb) (factor : Binary64) : Except Fault Rgb :=
  clamped ⟨c.r * factor, c.g * factor, c.b * factor⟩

def toList (c : Rgb) : List Binary64 := [c.r, c.g, c.b]

def scriptText (c : Rgb) : String :=
  "new pc.Color(" ++ Script.number c.r ++ ", " ++ Script.number c.g ++ ", " ++
    Script.number c.b ++ ")"

end Rgb

namespace Color

/-- Where a bag of data keeps its colour, in order of preference: explicit `color`, then the
property bag's `color`, then its `material.color`; `properties` and `props` both name the bag
and either may sit under `inputs`. -/
def sourcePaths : List (List String) :=
  [["color"], ["inputs", "color"], ["properties", "color"], ["props", "color"],
   ["inputs", "properties", "color"], ["inputs", "props", "color"],
   ["properties", "material", "color"], ["props", "material", "color"],
   ["inputs", "properties", "material", "color"], ["inputs", "props", "material", "color"]]

def source? (bag : Json) : Option Json :=
  bag.firstDefined sourcePaths

def hexDigit? (c : Char) : Option Nat :=
  if '0' ≤ c ∧ c ≤ '9' then some (c.toNat - 48)
  else if 'a' ≤ c ∧ c ≤ 'f' then some (c.toNat - 87)
  else if 'A' ≤ c ∧ c ≤ 'F' then some (c.toNat - 55)
  else none

def isHexDigit (c : Char) : Bool :=
  (hexDigit? c).isSome

def shortOrFullDigits? : List Char → Option (List Char)
  | '#' :: ds => if (ds.length = 3 ∨ ds.length = 6) ∧ ds.all isHexDigit then some ds else none
  | _ => none

def alphaDigits? : List Char → Option (List Char)
  | '#' :: ds => if ds.length = 8 ∧ ds.all isHexDigit then some ds else none
  | _ => none

/-- A byte written in base sixteen: an optional `+`, then one or more hexadecimal digits of a
value below 256. -/
def byteOfHex? (cs : List Char) : Option Nat :=
  let ds := match cs with
    | '+' :: rest => rest
    | _ => cs
  match ds with
  | [] => none
  | _ => (ds.foldlM (fun acc c => (hexDigit? c).map (acc * 16 + ·)) 0).filter (· < 256)

/-- The colour of six hexadecimal digits, two to a channel, each pair cut out of the digits by
its byte offsets; `none` when a pair does not read as a byte. -/
def ofHexPairs (digits : List Char) : Except Fault (Option Rgb) := do
  let some r := byteOfHex? (← Text.sliceBytes digits 0 2) | pure none
  let some g := byteOfHex? (← Text.sliceBytes digits 2 4) | pure none
  let some b := byteOfHex? (← Text.sliceBytes digits 4 6) | pure none
  pure (some (Rgb.ofBytes r g b))

def shortChannel (c : Char) : Except Fault (Option Nat) :=
  match hexDigit? c with
  | none => pure none
  | some v => do
      let high ← Fault.byte (v * 16)
      let byte ← Fault.byte (high + v)
      pure (some byte)

/-- `#rgb`, each digit doubled, or `#rrggbb`. The captured digits are ASCII, so three bytes of
them are three digits. -/
def ofShortOrFullHex (cs : List Char) : Except Fault (Option Rgb) :=
  match shortOrFullDigits? cs with
  | none => pure none
  | some digits =>
      if Text.byteLength digits = 3 then
        match digits with
        | [r, g, b] => do
            let some r ← shortChannel r | pure none
            let some g ← shortChannel g | pure none
            let some b ← shortChannel b | pure none
            pure (some (Rgb.ofBytes r g b))
        | _ => pure none
      else ofHexPairs digits

def ofAlphaHex (cs : List Char) : Except Fault (Option Rgb) :=
  match alphaDigits? cs with
  | none => pure none
  | some digits => do ofHexPairs (← Text.sliceBytes digits 0 6)

def skipBlanks (cs : List Char) : List Char :=
  cs.dropWhile Text.isBlank

def spanDigits (cs : List Char) : List Char × List Char :=
  cs.span Text.isDecimalDigit

/-- Matches an optional `.` followed by one or more digits: the fraction and the rest, or
`none` when a point has no digit after it. -/
def matchFraction (cs : List Char) : Option (List Char × List Char) :=
  match cs with
  | '.' :: rest =>
      match spanDigits rest with
      | ([], _) => none
      | (ds, r) => some ('.' :: ds, r)
  | _ => some ([], cs)

def matchChannel (cs : List Char) : Option (List Char × List Char) :=
  let (sign, cs) := match cs with
    | '-' :: r => (['-'], r)
    | r => ([], r)
  match spanDigits cs with
  | ([], _) => none
  | (ds, r) => (matchFraction r).map fun (f, r') => (sign ++ ds ++ f, r')

def matchAlpha (cs : List Char) : Option (List Char) :=
  match skipBlanks cs with
  | ',' :: rest =>
      let r := skipBlanks rest
      let r := match r with
        | '-' :: r' => r'
        | r' => r'
      let r := (spanDigits r).2
      (matchFraction r).map fun (_, r') => skipBlanks r'
  | other => some other

def matchChannelThen (sep : Char) (cs : List Char) : Option (List Char × List Char) :=
  match matchChannel (skipBlanks cs) with
  | none => none
  | some (ch, rest) =>
      match skipBlanks rest with
      | c :: r => if c = sep then some (ch, r) else none
      | [] => none

def matchFunctional (cs : List Char) : Option (List Char × List Char × List Char) := do
  let body ← match cs with
    | 'r' :: 'g' :: 'b' :: 'a' :: '(' :: r => some r
    | 'r' :: 'g' :: 'b' :: '(' :: r => some r
    | _ => none
  let (r, rest) ← matchChannelThen ',' body
  let (g, rest) ← matchChannelThen ',' rest
  let (b, rest) ← match matchChannel (skipBlanks rest) with
    | some (b, rest) => some (b, rest)
    | none => none
  let rest ← matchAlpha rest
  match rest with
  | [')'] => some (r, g, b)
  | _ => none

/-- A channel of `rgb(...)`: the numeral read as a number, clamped to `[0, 255]` and scaled;
`none` when the numeral does not read as a number. -/
def functionalChannel (numeral : List Char) : Except Fault (Option Binary64) :=
  match Binary64.ofText? (String.ofList numeral) with
  | none => pure none
  | some v => do
      let v ← v.clampAssert Binary64.zero (Binary64.ofNat 255)
      pure (some (v / Binary64.ofNat 255))

def ofFunctional (cs : List Char) : Except Fault (Option Rgb) :=
  match matchFunctional (cs.map Text.asciiLowerChar) with
  | none => pure none
  | some (r, g, b) => do
      let some r ← functionalChannel r | pure none
      let some g ← functionalChannel g | pure none
      let some b ← functionalChannel b | pure none
      pure (some ⟨r, g, b⟩)

/-- The channels of an object `{r, g, b}` of loose numbers, on the byte scale when a channel
exceeds one. -/
def objectChannels? (v : Json) : Option Rgb := do
  let _ ← v.fields?
  let r ← (v.get? "r").bind Json.toNumber?
  let g ← (v.get? "g").bind Json.toNumber?
  let b ← (v.get? "b").bind Json.toNumber?
  let one := Binary64.one
  if one.lt r || one.lt g || one.lt b then
    pure ⟨r / Binary64.ofNat 255, g / Binary64.ofNat 255, b / Binary64.ofNat 255⟩
  else pure ⟨r, g, b⟩

def ofObject (v : Json) : Except Fault (Option Rgb) :=
  match objectChannels? v with
  | none => pure none
  | some c => some <$> c.clamped

def normalize : Option Json → Except Fault Rgb
  | none => pure Rgb.white
  | some (.str s) => do
      let cs := Text.trimChars s.toList
      match ← ofShortOrFullHex cs with
      | some c => pure c
      | none =>
          match ← ofAlphaHex cs with
          | some c => pure c
          | none => pure ((← ofFunctional cs).getD Rgb.white)
  | some v => do pure ((← ofObject v).getD Rgb.white)

def resolve (bag : Json) : Except Fault Rgb :=
  normalize (source? bag)

end Color

end SceneScript
