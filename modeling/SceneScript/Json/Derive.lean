import SceneScript.Json.Value

/-!
# Structs read the way serde's derived readers read them

A struct with named fields is read from a JSON value by the reader serde derives for it. The
reader knows the names of the fields in declaration order. From an object it takes each field
from the member of that name and ignores every other member; from an array it takes the fields
by position, and refuses an array with more items than the struct has fields. Every other value
is refused. A field that is not found takes its default (the structs here all carry
`#[serde(default)]`); a field that is found is read by its own reader.

A `Shape` says this much of a struct: its field names and how it is built from the value found
for each name. `Shape.decode` is the one derived reader, shared by every struct.

The lenient field readers of the flow format sit on top: `lenientObject` reads a struct from an
object only, `lenientItems` keeps the items of a list that read, `lenientList` reads an array
that way and anything else as nothing, and `oneOrMany` also reads a lone object as a list of it.
-/

namespace SceneScript

namespace Derive

inductive DecodeError where
  | invalidType
  | invalidLength (length : Nat)
  deriving DecidableEq, Repr

def DecodeError.text : DecodeError → String
  | .invalidType => "invalid type, expected a map or a sequence"
  | .invalidLength n => "invalid length " ++ toString n ++ ", expected fewer elements in array"

def itemOf (names : List String) (items : List Json) (k : String) : Option Json :=
  (names.idxOf? k).bind (items[·]?)

/-- Where the derived reader finds the fields named `names`: by name in an object, by position
in an array no longer than the struct. -/
def fieldValues (names : List String) : Json → Except DecodeError (String → Option Json)
  | .obj fields => .ok (Json.obj fields).get?
  | .arr items =>
      if items.length ≤ names.length then .ok (itemOf names items)
      else .error (.invalidLength items.length)
  | _ => .error .invalidType

/-- A field as the derived reader fills it: read by its reader when found, else its default. -/
def field {α : Type} (read : Json → α) (dflt : α) : Option Json → α
  | some v => read v
  | none => dflt

structure Shape (α : Type) where
  names : List String
  build : (String → Option Json) → α

def Shape.decode {α : Type} (s : Shape α) (v : Json) : Except DecodeError α :=
  (fieldValues s.names v).map s.build

def lenientObject {α : Type} (decode : Json → Except DecodeError α) : Json → Option α
  | .obj fields => (decode (.obj fields)).toOption
  | _ => none

def lenientItems {α : Type} (decode : Json → Except DecodeError α) (items : List Json) : List α :=
  items.filterMap fun item => (decode item).toOption

def lenientList {α : Type} (decode : Json → Except DecodeError α) : Json → List α
  | .arr items => lenientItems decode items
  | _ => []

def oneOrMany {α : Type} (decode : Json → Except DecodeError α) : Json → List α
  | .arr items => lenientItems decode items
  | .obj fields => lenientItems decode [.obj fields]
  | _ => []

end Derive

end SceneScript
