import SceneScript.Compile.Action
import SceneScript.Compile.Data
import SceneScript.Compile.Entity
import SceneScript.Compile.Event
import SceneScript.Compile.Light
import SceneScript.Compile.Network
import SceneScript.Compile.Space
import SceneScript.Scene.Extract

/-!
# Builds

A build turns a flow into compiled artifacts. Its nodes are extracted, and right away every node
without a usable id gets one from the shared counter, category by category in the order space,
entity, component, event, action, data, universo, light. Then the categories compile: lights (if
any), entities and spaces one node at a time, and components, actions, events and data as one
script per category that every artifact of the category carries. An artifact pairs a node's id
with its script and the node itself.

A multiplayer build adds, from the same single-player result, the wire records of the entities,
the player's spawn point, the sign-in screen and the server to connect to:

* the spawn point is the transform of the first player or ship entity; else the first space's
  `spawnPoint`, a bare triple (an array, or an object with `x`, `y` or `z`) placing the default
  transform, anything else read as a transform; else the default transform;
* the sign-in screen reads the first space: `collectName` (or `collectLeadName`, true), a title,
  a description and a placeholder, each with a default;
* the server settings come from the configuration, each overridden by the first universo node
  that sets it (a port only when the first number given is an integer from 1 to 65535).
-/

namespace SceneScript

structure Artifact where
  id : String
  script : String
  data : Node
  deriving Repr

structure GameData where
  entities : List Artifact
  spaces : List Artifact
  components : List Artifact
  actions : List Artifact
  events : List Artifact
  datas : List Artifact
  lights : Option (List Artifact)
  deriving Repr

structure AuthScreen where
  collectName : Bool
  title : String
  description : String
  placeholder : String
  deriving Repr

structure ServerConfig where
  host : String
  port : UInt16
  roomName : String
  protocol : String
  deriving Repr

structure MultiplayerData where
  game : GameData
  networkEntities : List NetworkEntity
  playerSpawnPoint : Transform
  authScreen : AuthScreen
  server : ServerConfig
  deriving Repr

inductive BuildOutput where
  | singleplayer (game : GameData)
  | multiplayer (data : MultiplayerData)
  deriving Repr

namespace Build

def assignIds (pfx : String) : List Node → IdCounter → List Node × IdCounter
  | [], c => ([], c)
  | n :: rest, c =>
      let (n, c) := match n.id? with
        | some _ => (n, c)
        | none => let (i, c) := c.draw pfx; ({ n with rawId := some i }, c)
      let (rest, c) := assignIds pfx rest c
      (n :: rest, c)

def assignAll (x : ExtractedNodes) (c : IdCounter) : ExtractedNodes × IdCounter :=
  let (spaces, c) := assignIds "space" x.spaces c
  let (entities, c) := assignIds "entity" x.entities c
  let (components, c) := assignIds "component" x.components c
  let (events, c) := assignIds "event" x.events c
  let (actions, c) := assignIds "action" x.actions c
  let (datas, c) := assignIds "data" x.datas c
  let (universo, c) := assignIds "universo" x.universo c
  let (lights, c) := assignIds "light" x.lights c
  (⟨spaces, entities, components, events, actions, datas, universo, lights⟩, c)

def artifact (n : Node) (script : String) : Artifact :=
  ⟨n.id?.getD "", script, n⟩

/-- Runs `next` on the result of a run that threads the counter. A fault ends the run, with the
counter as the failed run left it. -/
def next {α β : Type} (r : Except Fault α × IdCounter)
    (next : α → IdCounter → Except Fault β × IdCounter) : Except Fault β × IdCounter :=
  match r with
  | (.ok a, c) => next a c
  | (.error f, c) => (.error f, c)

def infallible {α : Type} (compile : α → IdCounter → String × IdCounter) (a : α)
    (c : IdCounter) : Except Fault String × IdCounter :=
  let (s, c) := compile a c
  (.ok s, c)

/-- Compiles the nodes one by one, stopping at the first fault; a compile error is named by the
category. -/
def compileEach (category : String) (compile : Node → IdCounter → Except Fault String × IdCounter) :
    List Node → IdCounter → Except Fault (List Artifact) × IdCounter
  | [], c => (.ok [], c)
  | n :: rest, c =>
      match compile n c with
      | (.error f, c) => (.error (f.inCategory category), c)
      | (.ok s, c) =>
          let (arts, c) := compileEach category compile rest c
          (arts.map (artifact n s :: ·), c)

/-- Compiles the nodes as one script shared by all their artifacts; a compile error is named by
the category. No nodes give no artifacts, without running the compiler. -/
def fanOut (category : String) (process : List Node → IdCounter → Except Fault String × IdCounter)
    (nodes : List Node) (c : IdCounter) : Except Fault (List Artifact) × IdCounter :=
  if nodes.isEmpty then (.ok [], c)
  else
    let (s, c) := process nodes c
    ((s.mapError (Fault.inCategory category)).map fun s => nodes.map (artifact · s), c)

def compileLights (opts : CompileOptions) (lights : List Node) (c : IdCounter) :
    Except Fault (Option (List Artifact)) × IdCounter :=
  if lights.isEmpty then (.ok none, c)
  else
    let (arts, c) := compileEach "lights" (LightScript.compile opts) lights c
    (arts.map some, c)

/-- The single-player result of extracted nodes whose ids are assigned. The categories compile
in the order lights, entities, spaces, components, actions, events, data. -/
def singlePlayer (opts : CompileOptions) (x : ExtractedNodes) (c : IdCounter) :
    Except Fault GameData × IdCounter :=
  next (compileLights opts x.lights c) fun lights c =>
  next (compileEach "entities" (EntityScript.compile opts) x.entities c) fun entities c =>
  next (compileEach "spaces" (SpaceScript.compile opts) x.spaces c) fun spaces c =>
  next (fanOut "components" (ComponentScript.process opts) x.components c) fun components c =>
  next (fanOut "actions" (infallible (ActionScript.process opts)) x.actions c) fun actions c =>
  next (fanOut "events" (infallible (EventScript.process opts)) x.events c) fun events c =>
  next (fanOut "datas" (DataScript.process opts) x.datas c) fun datas c =>
  (.ok ⟨entities, spaces, components, actions, events, datas, lights⟩, c)

def extract (flow : Json) (c : IdCounter) : ExtractedNodes × IdCounter :=
  assignAll (ExtractedNodes.ofJson flow) c

def spawnPointPaths : List (List String) := Node.directPaths "spawnPoint"

def isBareTriple : Json → Bool
  | .arr _ => true
  | .obj fields => fields.any fun kv => kv.1 = "x" ∨ kv.1 = "y" ∨ kv.1 = "z"
  | _ => false

def spawnPoint (entities : List Artifact) (spaces : List Node) : Transform :=
  match entities.find? (fun a => a.data.entityKind == .player || a.data.entityKind == .ship) with
  | some a => Network.transform a.data
  | none =>
      match spaces.head?.bind (·.resolve spawnPointPaths) with
      | some raw =>
          if isBareTriple raw then Transform.placedAt (Vec3.ofJson (some raw) Vec3.zero)
          else Transform.ofJson (some raw)
      | none => Transform.default

def authScreen (space : Option Node) : AuthScreen :=
  let text := fun (paths : List (List String)) (dflt : String) =>
    ((space.bind (·.resolve paths)).bind Json.toText?).getD dflt
  { collectName := ((space.bind (·.flag? [["collectName"], ["inputs", "collectName"],
      ["collectLeadName"], ["inputs", "collectLeadName"]]))).getD true
    title := text [["authTitle"], ["inputs", "authTitle"], ["title"]] "Universo MMOOMM"
    description := text [["authDescription"], ["inputs", "authDescription"], ["description"]]
      "Enter your name to join the game"
    placeholder := text [["authPlaceholder"], ["inputs", "authPlaceholder"], ["placeholder"]]
      "Player name" }

def port? (x : Binary64) : Option UInt16 :=
  if Binary64.one.le x && x.le (Binary64.ofNat 65535) && x.isIntegral then
    some x.truncNat.toUInt16
  else none

/-- The server settings: the configuration's, each overridden by the universo nodes. -/
def serverConfig (mp : MultiplayerConfig) (universo : List Node) : ServerConfig :=
  let text := fun (name : String) (dflt : String) =>
    (universo.findSome? (·.text? (Node.directPaths name))).getD dflt
  let port := (universo.findSome? fun n => (n.resolve (Node.directPaths "serverPort")).bind
    Json.toNumber?).bind port?
  { host := text "serverHost" mp.serverHost
    port := port.getD mp.serverPort
    roomName := text "roomName" mp.roomName
    protocol := text "protocol" mp.protocol }

end Build

namespace GameConfig

def buildSingle (cfg : GameConfig) (flow : Json) (c : IdCounter) :
    Except Fault GameData × IdCounter :=
  let (x, c) := Build.extract flow c
  Build.singlePlayer cfg.compile x c

/-- The multiplayer build of a flow: the single-player build, then the session data derived
from its result. -/
def buildMulti (cfg : GameConfig) (flow : Json) (c : IdCounter) :
    Except Fault MultiplayerData × IdCounter :=
  let (x, c) := Build.extract flow c
  Build.next (Build.singlePlayer cfg.compile x c) fun game c =>
  (do
    let networkEntities ← game.entities.mapM fun a => Network.entity a.data
    pure { game := game
           networkEntities := networkEntities
           playerSpawnPoint := Build.spawnPoint game.entities x.spaces
           authScreen := Build.authScreen x.spaces.head?
           server := Build.serverConfig cfg.multiplayer x.universo }, c)

def build (cfg : GameConfig) (flow : Json) (c : IdCounter) : Except Fault BuildOutput × IdCounter :=
  match cfg.gameMode with
  | .singleplayer => let (g, c) := cfg.buildSingle flow c; (g.map .singleplayer, c)
  | .multiplayer => let (m, c) := cfg.buildMulti flow c; (m.map .multiplayer, c)

end GameConfig

/-! ## Results as JSON -/

namespace Artifact

def toJson (a : Artifact) : Json :=
  .obj [("data", a.data.toJson), ("id", .str a.id), ("script", .str a.script)]

end Artifact

namespace GameData

def fields (g : GameData) : List (String × Json) :=
  let list := fun (arts : List Artifact) => Json.arr (arts.map Artifact.toJson)
  [("actions", list g.actions), ("components", list g.components), ("datas", list g.datas),
   ("entities", list g.entities), ("events", list g.events)] ++
  (match g.lights with
    | some ls => [("lights", list ls)]
    | none => []) ++
  [("spaces", list g.spaces)]

def toJson (g : GameData) : Json := .obj g.fields

end GameData

namespace MultiplayerData

def fields (m : MultiplayerData) : List (String × Json) :=
  let a := m.authScreen
  let s := m.server
  Json.sortFields (m.game.fields ++
    [("networkEntities", .arr (m.networkEntities.map NetworkEntity.toJson)),
     ("playerSpawnPoint", m.playerSpawnPoint.toJson),
     ("authScreenData", .obj [("collectName", .bool a.collectName),
        ("description", .str a.description), ("placeholder", .str a.placeholder),
        ("title", .str a.title)]),
     ("serverConfig", .obj [("host", .str s.host), ("port", .int s.port.toNat),
        ("protocol", .str s.protocol), ("roomName", .str s.roomName)])])

def toJson (m : MultiplayerData) : Json := .obj m.fields

end MultiplayerData

namespace BuildOutput

def toJson : BuildOutput → Json
  | .singleplayer g => Json.object (("gameMode", .str "singleplayer") :: g.fields)
  | .multiplayer m => Json.object (("gameMode", .str "multiplayer") :: m.fields)

end BuildOutput

end SceneScript
