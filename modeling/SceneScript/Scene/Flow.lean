import SceneScript.Scene.Node

/-!
# Flows

A flow is what a build compiles: an object holding a single space (`updlSpace`), a multi-scene
container (`multiScene`) with a list of scenes, both, or neither. `null` is the empty flow; any
other value that is not an object is refused with `FlowError.notAnObject`. An object is read by
the struct reader serde derives for the flow, whose refusals would surface as
`FlowError.malformed`.

Every struct of the format is read by that one derived reader (`Derive.Shape.decode`), each
field by its own lenient reader: `updlSpace`, `multiScene` and a scene's `spaceData` by
`lenientObject`, the lists of a space and of a container by `lenientList`, `lights` and `light`
by `oneOrMany`, ids by `Node.looseId` and a space's name by `Json.toText?`.
-/

namespace SceneScript

inductive FlowError where
  | notAnObject (kind : String)
  | malformed (reason : Derive.DecodeError)
  deriving DecidableEq, Repr

namespace FlowError

def message : FlowError → String
  | notAnObject kind => "flow data must be an object, found " ++ kind
  | malformed reason => "malformed flow data: " ++ reason.text

end FlowError

structure Space where
  id : Option String
  name : Option String
  data : Json
  entities : List Node
  components : List Node
  events : List Node
  actions : List Node
  datas : List Node
  universo : List Node
  lightsField : List Node
  lightField : List Node
  deriving Repr

structure SceneEntry where
  sceneId : Option String
  spaceData : Option Space
  deriving Repr

/-- A flow: at most one single space and at most one list of scenes. -/
structure Flow where
  updlSpace : Option Space
  multiScene : Option (List SceneEntry)
  deriving Repr

open Derive

namespace Space

def shape : Shape Space :=
  ⟨["id", "name", "data", "entities", "components", "events", "actions", "datas", "universo",
      "lights", "light"],
    fun get =>
      { id := field Node.looseId none (get "id")
        name := field Json.toText? none (get "name")
        data := field (fun v => v) .null (get "data")
        entities := field (lenientList Node.shape.decode) [] (get "entities")
        components := field (lenientList Node.shape.decode) [] (get "components")
        events := field (lenientList Node.shape.decode) [] (get "events")
        actions := field (lenientList Node.shape.decode) [] (get "actions")
        datas := field (lenientList Node.shape.decode) [] (get "datas")
        universo := field (lenientList Node.shape.decode) [] (get "universo")
        lightsField := field (oneOrMany Node.shape.decode) [] (get "lights")
        lightField := field (oneOrMany Node.shape.decode) [] (get "light") }⟩

def ofJson? : Option Json → Option Space :=
  field (lenientObject shape.decode) none

/-- All lights: `lights` followed by `light`. -/
def lights (s : Space) : List Node :=
  s.lightsField ++ s.lightField

/-- The space as a node: its data object (empty if the data is not an object), with `name`
added from the space when the data has no `name` member, and the space's id. -/
def asNode (s : Space) : Node :=
  let fields := match s.data with
    | .obj fs => fs
    | _ => []
  let fields := match s.name with
    | some n =>
        if fields.any (·.1 = "name") then fields else Json.insertField "name" (.str n) fields
    | none => fields
  ⟨s.id, .obj fields⟩

end Space

namespace SceneEntry

def shape : Shape SceneEntry :=
  ⟨["sceneId", "spaceData"],
    fun get => ⟨field Node.looseId none (get "sceneId"), Space.ofJson? (get "spaceData")⟩⟩

def ofJson? (v : Json) : Option SceneEntry :=
  (shape.decode v).toOption

end SceneEntry

namespace Flow

def containerShape : Shape (List SceneEntry) :=
  ⟨["scenes"], fun get => field (lenientList SceneEntry.shape.decode) [] (get "scenes")⟩

def shape : Shape Flow :=
  ⟨["updlSpace", "multiScene"],
    fun get => ⟨Space.ofJson? (get "updlSpace"),
      field (lenientObject containerShape.decode) none (get "multiScene")⟩⟩

def empty : Flow := ⟨none, none⟩

def isEmpty (f : Flow) : Bool :=
  f.updlSpace.isNone && f.multiScene.isNone

def kindName : Json → String
  | .null => "null"
  | .bool _ => "a boolean"
  | .num _ => "a number"
  | .str _ => "a string"
  | .arr _ => "an array"
  | .obj _ => "an object"

/-- Reads a flow: `null` as the empty flow, an object by the derived reader. -/
def ofJson : Json → Except FlowError Flow
  | .null => .ok empty
  | .obj fields => (shape.decode (.obj fields)).mapError .malformed
  | v => .error (.notAnObject (kindName v))

end Flow

end SceneScript
