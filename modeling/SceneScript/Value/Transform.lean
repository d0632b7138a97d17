import SceneScript.Json.Loose
import SceneScript.Json.Reader
import SceneScript.Script.Literal

/-!
# Triples and transforms

A `Vec3` is a triple of numbers and a `Transform` holds a position, an Euler rotation in
degrees and a scale. Both are read leniently from node data:

* `Vec3.ofJson` reads an array `[x, y, z]` or an object `{x, y, z}`; each axis that reads as a
  number (`Json.toNumber?`) replaces the default's axis, every other axis keeps the default.
* `Transform.ofJson` reads an object whose position sits under `pos` or `position`, rotation
  under `rot` or `rotation` and scale under `scale` (the first key whose value is not `null`),
  with defaults zero, zero and one. A string is first read as JSON text. Anything that is not
  an object in the end gives the default transform.
-/

namespace SceneScript

structure Vec3 where
  x : Binary64
  y : Binary64
  z : Binary64
  deriving DecidableEq, Repr

namespace Vec3

def zero : Vec3 := ⟨Binary64.zero, Binary64.zero, Binary64.zero⟩

def one : Vec3 := ⟨Binary64.one, Binary64.one, Binary64.one⟩

def toList (v : Vec3) : List Binary64 := [v.x, v.y, v.z]

def scriptText (v : Vec3) : String :=
  Script.number v.x ++ ", " ++ Script.number v.y ++ ", " ++ Script.number v.z

def axisOr (v? : Option Json) (fallback : Binary64) : Binary64 :=
  match v? >>= Json.toNumber? with
  | some x => x
  | none => fallback

/-- A triple from an array or an `{x, y, z}` object, axis by axis over `dflt`. -/
def ofJson (raw : Option Json) (dflt : Vec3) : Vec3 :=
  match raw with
  | some (.arr items) =>
      ⟨axisOr items[0]? dflt.x, axisOr items[1]? dflt.y, axisOr items[2]? dflt.z⟩
  | some (.obj fields) =>
      let v := Json.obj fields
      ⟨axisOr (v.get? "x") dflt.x, axisOr (v.get? "y") dflt.y, axisOr (v.get? "z") dflt.z⟩
  | _ => dflt

def toJson (v : Vec3) : Json :=
  Json.obj [("x", .float v.x), ("y", .float v.y), ("z", .float v.z)]

end Vec3

/-- Position, Euler rotation in degrees, and scale. -/
structure Transform where
  position : Vec3
  rotation : Vec3
  scale : Vec3
  deriving DecidableEq, Repr

namespace Transform

def default : Transform := ⟨Vec3.zero, Vec3.zero, Vec3.one⟩

def placedAt (p : Vec3) : Transform := { default with position := p }

def member? (source : Json) (keys : List String) : Option Json :=
  keys.findSome? fun k => (source.get? k).bind Json.nonNull?

def ofObject (source : Json) : Transform :=
  { position := Vec3.ofJson (member? source ["pos", "position"]) Vec3.zero
    rotation := Vec3.ofJson (member? source ["rot", "rotation"]) Vec3.zero
    scale := Vec3.ofJson (member? source ["scale"]) Vec3.one }

/-- The value a transform is read from: a string is read as JSON text (unreadable text counts
as nothing). -/
def source? : Option Json → Option Json
  | some (.str s) => Json.parseCanonical s
  | other => other

/-- A transform from loose data; the default unless the source is an object. -/
def ofJson (raw : Option Json) : Transform :=
  match source? raw with
  | some (.obj fields) => ofObject (.obj fields)
  | _ => default

def toJson (t : Transform) : Json :=
  Json.obj [("position", t.position.toJson), ("rotation", t.rotation.toJson),
    ("scale", t.scale.toJson)]

end Transform

end SceneScript
