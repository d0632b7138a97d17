import SceneScript.Json.Derive
import SceneScript.Json.Loose

/-!
# Nodes

A `Node` is one box of a flow graph: an optional id and a bag of data. A node is read by the
struct reader serde derives for `{id, data}` (`Node.shape`), both fields defaulting. An id is a
string or a number (in its JSON text); anything else counts as no id. A node whose id is blank
has no usable id (`Node.id?`) and receives a generated one when a build assigns ids.

Most fields of a node's data exist directly under `data` or under `data.inputs`; readers try
an ordered list of candidate paths (`Node.resolve`).
-/

namespace SceneScript

/-- A flow graph node: its id as written (if it is a string or a number) and its data. -/
structure Node where
  rawId : Option String
  data : Json
  deriving Repr

namespace Node

/-- An id from a loose value: a string, or a number's JSON text. -/
def looseId : Json → Option String
  | .str s => some s
  | .num n => some (Json.numberText n)
  | _ => none

def shape : Derive.Shape Node :=
  ⟨["id", "data"], fun get => ⟨Derive.field looseId none (get "id"),
    Derive.field (fun v => v) .null (get "data")⟩⟩

def ofJson? (v : Json) : Option Node :=
  (shape.decode v).toOption

def toJson (n : Node) : Json :=
  match n.rawId with
  | some i => .obj [("data", n.data), ("id", .str i)]
  | none => .obj [("data", n.data)]

def id? (n : Node) : Option String :=
  n.rawId.filter fun i => !(Text.trim i).isEmpty

def resolve (n : Node) (paths : List (List String)) : Option Json :=
  n.data.firstDefined paths

def field? (n : Node) (name : String) : Option Json :=
  match (n.data.get? name).bind Json.nonNull? with
  | some v => some v
  | none => ((n.data.get? "inputs").bind (·.get? name)).bind Json.nonNull?

def text? (n : Node) (paths : List (List String)) : Option String :=
  (n.resolve paths).bind Json.toText?

def number? (n : Node) (paths : List (List String)) : Option Binary64 :=
  (n.resolve paths).bind Json.toNumber?

def flag? (n : Node) (paths : List (List String)) : Option Bool :=
  (n.resolve paths).bind Json.toFlag?

/-- The four places a parameter may sit: directly, under `inputs`, under `properties`, or
under `inputs.properties`. -/
def paramPaths (name : String) : List (List String) :=
  [[name], ["inputs", name], ["properties", name], ["inputs", "properties", name]]

def directPaths (name : String) : List (List String) :=
  [[name], ["inputs", name]]

def componentTypeName (n : Node) : String :=
  match n.text? (directPaths "componentType") with
  | some t =>
      let l := Text.toLower (Text.trim t)
      if l.isEmpty then "custom" else l
  | none => "custom"

/-- The property bag of a component node: the first defined `properties` if it is an object,
else an empty object. -/
def properties (n : Node) : Json :=
  match n.resolve (directPaths "properties") with
  | some (.obj fields) => .obj fields
  | _ => .obj []

end Node

structure AttachedComponent where
  id? : Option String
  componentType : String
  properties : Json
  node : Node
  deriving Repr

namespace AttachedComponent

def ofNode (n : Node) : AttachedComponent :=
  { id? := n.id?, componentType := n.componentTypeName, properties := n.properties, node := n }

def toJson (c : AttachedComponent) : Json :=
  match c.id? with
  | some i => .obj [("componentType", .str c.componentType), ("id", .str i),
      ("properties", c.properties)]
  | none => .obj [("componentType", .str c.componentType), ("properties", c.properties)]

end AttachedComponent

namespace Node

/-- The components wired into an entity: the first defined `components` array, keeping the
entries that read as nodes. -/
def attachedComponents (n : Node) : List AttachedComponent :=
  match n.resolve (directPaths "components") with
  | some (.arr items) => (items.filterMap ofJson?).map AttachedComponent.ofNode
  | _ => []

end Node

end SceneScript
