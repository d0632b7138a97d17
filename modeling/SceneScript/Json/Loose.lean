import SceneScript.Json.Writer
import SceneScript.Number.Reading
import SceneScript.Text.Case

/-!
# Loose reading of node data

Node data is written by hand and by tools, so a field meant as a number may arrive as a number,
a numeric string or a boolean, and one field may sit under several paths. This module reads
such fields leniently.

* `toNumber?`: a number, a string that reads as a decimal once trimmed, or a boolean (`1`,
  `0`); only finite results count.
* `toFlag?`: a boolean, a number (true unless zero), or one of the words `true yes on 1` and
  `false no off 0` in any ASCII case, once trimmed.
* `toText?`: a string that is not blank (kept as written), a number in JSON notation, or a
  boolean's word.
* `lookup` follows object keys and treats `null` as absent; `firstDefined` tries paths in order.
-/

namespace SceneScript

namespace Json

/-- A finite number from a number, a numeric string or a boolean. -/
def toNumber? : Json → Option Binary64
  | num n => let x := n.toBinary64; if x.isFinite then some x else none
  | str s =>
      let t := Text.trim s
      if t.isEmpty then none
      else match Binary64.ofText? t with
        | some x => if x.isFinite then some x else none
        | none => none
  | bool b => some (if b then Binary64.one else Binary64.zero)
  | _ => none

def trueWords : List String := ["true", "yes", "on", "1"]

def falseWords : List String := ["false", "no", "off", "0"]

/-- A truth value from a boolean, a number or a yes/no word. -/
def toFlag? : Json → Option Bool
  | bool b => some b
  | num n => some !(n.toBinary64.eq Binary64.zero)
  | str s =>
      let w := Text.asciiLower (Text.trim s)
      if trueWords.contains w then some true
      else if falseWords.contains w then some false
      else none
  | _ => none

/-- A text from a non-blank string, a number or a boolean. -/
def toText? : Json → Option String
  | str s => if (Text.trim s).isEmpty then none else some s
  | num n => some (numberText n)
  | bool b => some (if b then "true" else "false")
  | _ => none

/-- Follows the keys of `path` through nested objects; a missing key, a non-object on the way
or a final `null` gives nothing. -/
def lookup (v : Json) : List String → Option Json
  | [] => v.nonNull?
  | k :: rest =>
      match v.get? k with
      | some w => lookup w rest
      | none => none

/-- The value at the first path that leads to a non-null value. -/
def firstDefined (v : Json) (paths : List (List String)) : Option Json :=
  paths.findSome? (lookup v)

end Json

end SceneScript
