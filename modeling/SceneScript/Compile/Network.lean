import SceneScript.Compile.Params
import SceneScript.Json.Reader
import SceneScript.Value.Transform

/-!
# Network records

For a multiplayer session every entity is described by a wire record: its id, wire kind,
transform, look, whether it is synchronized (by its type name alone; the node's `networked` flag
only affects its script), its wired components and its type name.

* The colour is forwarded raw: the entity's colour source, else that of its first wired render
  component, else `#ffffff`.
* The model is `model`, else the primitive of the first wired render component, else
  `default`; the texture is `texture` if any.
* The transform is `transform` when it carries a position (a non-null `pos`, or `position` when
  there is no `pos` member; a string is read as JSON first), else `inputs.transform`, else
  `transform` anyway.
-/

namespace SceneScript

structure NetworkVisual where
  model : String
  texture : Option String
  color : Json
  deriving Repr

structure NetworkEntity where
  id : String
  kind : WireKind
  transform : Transform
  visual : NetworkVisual
  networked : Bool
  components : List AttachedComponent
  entityType : String
  deriving Repr

namespace Network

def renderComponents (n : Node) : List AttachedComponent :=
  n.attachedComponents.filter fun c => ComponentKind.parse c.componentType == .render

def color (n : Node) : Json :=
  match Color.source? n.data with
  | some c => c
  | none =>
      match (renderComponents n).findSome? (fun c => Color.source? c.node.data) with
      | some c => c
      | none => .str "#ffffff"

/-- Whether a transform value carries a position: a non-null `pos`, or a non-null `position`
when there is no `pos` member; a string is read as JSON first. -/
def hasPosition (v : Json) : Bool :=
  let has := fun (v : Json) =>
    match (match v.get? "pos" with
      | some p => some p
      | none => v.get? "position") with
    | some p => !p.isNull
    | none => false
  match v with
  | .str s =>
      match Json.parseCanonical s with
      | some parsed => has parsed
      | none => false
  | other => has other

def transform (n : Node) : Transform :=
  let direct := n.data.lookup ["transform"]
  let raw := match direct with
    | some t => if hasPosition t then some t else
        match n.data.lookup ["inputs", "transform"] with
        | some i => some i
        | none => direct
    | none => n.data.lookup ["inputs", "transform"]
  Transform.ofJson raw

/-- The look of an entity. The parameters of its first render component are read whole, so
reading them may panic. -/
def visual (n : Node) : Except Fault NetworkVisual := do
  let renderModel ← match (renderComponents n).head? with
    | some c => do pure (some (← RenderParams.ofNode c.node).primitive)
    | none => pure none
  let model := match n.text? (Node.paramPaths "model") with
    | some m => some m
    | none => renderModel
  pure { model := model.getD "default"
         texture := n.text? (Node.paramPaths "texture")
         color := color n }

def entity (n : Node) : Except Fault NetworkEntity := do
  let typeName := n.entityTypeName
  let visual ← visual n
  pure { id := n.id?.getD ""
         kind := WireKind.ofTypeName typeName
         transform := transform n
         visual := visual
         networked := WireKind.isNetworked typeName
         components := n.attachedComponents
         entityType := typeName }

end Network

namespace NetworkEntity

def toJson (e : NetworkEntity) : Json :=
  .obj [("components", .arr (e.components.map AttachedComponent.toJson)),
    ("entityType", .str e.entityType),
    ("id", .str e.id),
    ("networked", .bool e.networked),
    ("position", e.transform.position.toJson),
    ("scale", e.transform.scale.toJson),
    ("transform", e.transform.toJson),
    ("type", .str e.kind.name),
    ("visual", .obj [("color", e.visual.color), ("model", .str e.visual.model),
      ("texture", match e.visual.texture with
        | some t => .str t
        | none => .null)])]

end NetworkEntity

end SceneScript
