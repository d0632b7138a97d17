import SceneScript.Scene.Node

/-!
# Kinds of nodes

Each compiled node has a kind, named by a text of its data. Every kind reads its name leniently
(trimmed, ASCII case ignored) and falls back to a default kind for unknown names:

* entities: player, interactive, vehicle, ship, station, asteroid, gate, else static;
* components: physics, networking, audio, render, inventory, trading, mineable, portal, weapon,
  else custom;
* events: click, timer (or interval), keydown (or key), collision, custom, else start;
* actions: move (or translate), rotate, scale, show (`display`), hide, destroy, playSound
  (`playsound` or `sound`), emit, else log;
* lights: omni (`point` or `omni`), spot, ambient, else directional.

The *type names* of entities and components are their raw names trimmed and lowercased with
full Unicode case mapping (`static` and `custom` when missing or blank).

For the network, an entity's type name (compared exactly) gives its wire kind: ship for ship,
player and vehicle; station for station and interactive; gate for gate and portal; asteroid for
all others. Ships, stations, players, interactive entities and vehicles are networked.
-/

namespace SceneScript

inductive EntityKind where
  | player | interactive | vehicle | ship | station | asteroid | gate | static
  deriving DecidableEq, Repr

namespace EntityKind

/-- The kind an entity type name names; unknown names are static. -/
def parse (name : String) : EntityKind :=
  let n := Text.asciiLower (Text.trim name)
  if n = "player" then player
  else if n = "interactive" then interactive
  else if n = "vehicle" then vehicle
  else if n = "ship" then ship
  else if n = "station" then station
  else if n = "asteroid" then asteroid
  else if n = "gate" then gate
  else static

def name : EntityKind → String
  | player => "player"
  | interactive => "interactive"
  | vehicle => "vehicle"
  | ship => "ship"
  | station => "station"
  | asteroid => "asteroid"
  | gate => "gate"
  | static => "static"

end EntityKind

inductive ComponentKind where
  | physics | networking | audio | render | custom | inventory | trading | mineable | portal
  | weapon
  deriving DecidableEq, Repr

namespace ComponentKind

/-- The kind a component type name names; unknown names are custom. -/
def parse (name : String) : ComponentKind :=
  let n := Text.asciiLower (Text.trim name)
  if n = "physics" then physics
  else if n = "networking" then networking
  else if n = "audio" then audio
  else if n = "render" then render
  else if n = "inventory" then inventory
  else if n = "trading" then trading
  else if n = "mineable" then mineable
  else if n = "portal" then portal
  else if n = "weapon" then weapon
  else custom

def name : ComponentKind → String
  | physics => "physics"
  | networking => "networking"
  | audio => "audio"
  | render => "render"
  | custom => "custom"
  | inventory => "inventory"
  | trading => "trading"
  | mineable => "mineable"
  | portal => "portal"
  | weapon => "weapon"

end ComponentKind

inductive EventKind where
  | start | click | timer | keydown | collision | custom
  deriving DecidableEq, Repr

namespace EventKind

/-- The kind an event type name names; unknown names are start events. -/
def parse (name : String) : EventKind :=
  let n := Text.asciiLower (Text.trim name)
  if n = "click" then click
  else if n = "timer" ∨ n = "interval" then timer
  else if n = "keydown" ∨ n = "key" then keydown
  else if n = "collision" then collision
  else if n = "custom" then custom
  else start

def name : EventKind → String
  | start => "start"
  | click => "click"
  | timer => "timer"
  | keydown => "keydown"
  | collision => "collision"
  | custom => "custom"

end EventKind

inductive ActionKind where
  | move | rotate | scale | display | hide | destroy | playSound | log | emit
  deriving DecidableEq, Repr

namespace ActionKind

/-- The kind an action type name names; unknown names are log actions. -/
def parse (name : String) : ActionKind :=
  let n := Text.asciiLower (Text.trim name)
  if n = "move" ∨ n = "translate" then move
  else if n = "rotate" then rotate
  else if n = "scale" then scale
  else if n = "show" then display
  else if n = "hide" then hide
  else if n = "destroy" then destroy
  else if n = "playsound" ∨ n = "sound" then playSound
  else if n = "emit" then emit
  else log

def name : ActionKind → String
  | move => "move"
  | rotate => "rotate"
  | scale => "scale"
  | display => "show"
  | hide => "hide"
  | destroy => "destroy"
  | playSound => "playSound"
  | log => "log"
  | emit => "emit"

def needsEntity : ActionKind → Bool
  | log => false
  | emit => false
  | _ => true

end ActionKind

inductive LightKind where
  | directional | omni | spot | ambient
  deriving DecidableEq, Repr

namespace LightKind

/-- The kind a light type name names; unknown names are directional. -/
def parse (name : String) : LightKind :=
  let n := Text.asciiLower (Text.trim name)
  if n = "point" ∨ n = "omni" then omni
  else if n = "spot" then spot
  else if n = "ambient" then ambient
  else directional

def name : LightKind → String
  | directional => "directional"
  | omni => "omni"
  | spot => "spot"
  | ambient => "ambient"

end LightKind

inductive WireKind where
  | ship | station | asteroid | gate
  deriving DecidableEq, Repr

namespace WireKind

/-- The wire kind of an entity type name, compared exactly. -/
def ofTypeName (t : String) : WireKind :=
  if t = "ship" ∨ t = "player" ∨ t = "vehicle" then ship
  else if t = "station" ∨ t = "interactive" then station
  else if t = "gate" ∨ t = "portal" then gate
  else asteroid

def name : WireKind → String
  | ship => "ship"
  | station => "station"
  | asteroid => "asteroid"
  | gate => "gate"

def networkedTypeNames : List String := ["ship", "station", "player", "interactive", "vehicle"]

def isNetworked (t : String) : Bool :=
  networkedTypeNames.contains t

end WireKind

namespace Node

/-- The lowercased `entityType` of an entity node, `static` when missing or blank. -/
def entityTypeName (n : Node) : String :=
  match n.text? (directPaths "entityType") with
  | some t =>
      let l := Text.toLower (Text.trim t)
      if l.isEmpty then "static" else l
  | none => "static"

def entityKind (n : Node) : EntityKind :=
  EntityKind.parse n.entityTypeName

def componentKind (n : Node) : ComponentKind :=
  ComponentKind.parse n.componentTypeName

def eventKind (n : Node) : EventKind :=
  match n.text? (paramPaths "eventType") with
  | some t => EventKind.parse t
  | none => .start

def actionKind (n : Node) : ActionKind :=
  match n.text? (paramPaths "actionType") with
  | some t => ActionKind.parse t
  | none => .log

def lightKind (n : Node) : LightKind :=
  match n.text? (paramPaths "lightType") with
  | some t => LightKind.parse t
  | none => .directional

end Node

end SceneScript
