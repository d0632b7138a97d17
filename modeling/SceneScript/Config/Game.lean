import SceneScript.Config.Toml
import SceneScript.Json.Reader
import SceneScript.Text.Blank

/-!
# Game configuration

A `GameConfig` chooses the game mode, the multiplayer server and the shape of generated
scripts. Its keys are camelCase so one document reads as TOML or as JSON:

```
gameMode = "multiplayer"          # or "singleplayer", the default
[multiplayer]
serverHost = "localhost"
serverPort = 2567
roomName = "mmoomm"
protocol = "ws"
[compile]
includeComments = true
entityRegistry = "UPDLEntities"
```

Every key may be left out and takes its default. A section is a table (each key at most once,
unknown keys ignored) or an array of its values in key order. Values must have exactly the
right type: a port is an integer from 0 to 65535, flags are booleans, names are strings, and
the game mode is one of its two words. A configuration that reads is then validated: the host
and room name must not be blank, the port not zero, and the entity registry must be an
identifier (an ASCII letter, `_` or `$`, then also digits).
-/

namespace SceneScript

inductive GameMode where
  | singleplayer
  | multiplayer
  deriving DecidableEq, Repr

namespace GameMode

def name : GameMode → String
  | singleplayer => "singleplayer"
  | multiplayer => "multiplayer"

/-- The mode a word names, in exactly that spelling. -/
def ofName? (s : String) : Option GameMode :=
  if s = "singleplayer" then some singleplayer
  else if s = "multiplayer" then some multiplayer
  else none

end GameMode

structure MultiplayerConfig where
  serverHost : String
  serverPort : UInt16
  roomName : String
  protocol : String
  deriving DecidableEq, Repr

structure CompileOptions where
  includeComments : Bool
  entityRegistry : String
  deriving DecidableEq, Repr

structure GameConfig where
  gameMode : GameMode
  multiplayer : MultiplayerConfig
  compile : CompileOptions
  deriving DecidableEq, Repr

namespace MultiplayerConfig

def default : MultiplayerConfig := ⟨"localhost", 2567, "mmoomm", "ws"⟩

def toJson (m : MultiplayerConfig) : Json :=
  .obj [("protocol", .str m.protocol), ("roomName", .str m.roomName),
    ("serverHost", .str m.serverHost), ("serverPort", .int m.serverPort.toNat)]

end MultiplayerConfig

namespace CompileOptions

def default : CompileOptions := ⟨true, "UPDLEntities"⟩

def toJson (c : CompileOptions) : Json :=
  .obj [("entityRegistry", .str c.entityRegistry), ("includeComments", .bool c.includeComments)]

end CompileOptions

namespace GameConfig

def default : GameConfig := ⟨.singleplayer, MultiplayerConfig.default, CompileOptions.default⟩

def toJson (g : GameConfig) : Json :=
  .obj [("compile", g.compile.toJson), ("gameMode", .str g.gameMode.name),
    ("multiplayer", g.multiplayer.toJson)]

end GameConfig

inductive ConfigError where
  | parseToml
  | parseJson
  /-- A value read but is not allowed; `field` is its dotted key. -/
  | invalidField (field : String) (detail : String)
  deriving DecidableEq, Repr

namespace ConfigError

def message : ConfigError → String
  | parseToml => "invalid TOML config"
  | parseJson => "invalid JSON config"
  | invalidField field detail => "invalid field `" ++ field ++ "`: " ++ detail

end ConfigError

namespace GameConfig

/-- Whether a name is a script identifier: an ASCII letter, `_` or `$`, then ASCII letters,
digits, `_` or `$`. -/
def isIdentifier (s : String) : Bool :=
  match s.toList with
  | [] => false
  | c :: rest =>
      (c.isAlpha || c = '_' || c = '$') && rest.all fun c => c.isAlphanum || c = '_' || c = '$'

/-- Checks a configuration that has been read, in the order host, port, room, registry. -/
def validate (g : GameConfig) : Except ConfigError GameConfig :=
  if (Text.trim g.multiplayer.serverHost).isEmpty then
    .error (.invalidField "multiplayer.serverHost" "must not be empty")
  else if g.multiplayer.serverPort = 0 then
    .error (.invalidField "multiplayer.serverPort" "must be between 1 and 65535")
  else if (Text.trim g.multiplayer.roomName).isEmpty then
    .error (.invalidField "multiplayer.roomName" "must not be empty")
  else if !isIdentifier g.compile.entityRegistry then
    .error (.invalidField "compile.entityRegistry"
      ("`" ++ g.compile.entityRegistry ++ "` is not a valid identifier"))
  else .ok g

end GameConfig

/-! ## Reading from JSON -/

namespace ConfigJson

/-- The values of a section's fields, by name, from an object (each field at most once) or an
array (by position, no more items than fields); `none` for anything else. -/
def sectionFields (names : List String) : Json → Option (List (Option Json))
  | .obj fields =>
      if names.any (fun n => (fields.filter (·.1 = n)).length > 1) then none
      else some (names.map fun n => (fields.find? (·.1 = n)).map (·.2))
  | .arr items =>
      if items.length > names.length then none
      else some ((List.range names.length).map fun i => items[i]?)
  | _ => none

def field {α : Type} (read : Json → Option α) (dflt : α) : Option Json → Option α
  | none => some dflt
  | some v => read v

def string : Json → Option String
  | .str s => some s
  | _ => none

def boolean : Json → Option Bool
  | .bool b => some b
  | _ => none

def port : Json → Option UInt16
  | .num (.int i) => if 0 ≤ i ∧ i ≤ 65535 then some i.toNat.toUInt16 else none
  | _ => none

/-- A game mode: its word, or an object whose one member is the word with value `null`. -/
def gameMode : Json → Option GameMode
  | .str s => GameMode.ofName? s
  | .obj [(k, .null)] => GameMode.ofName? k
  | _ => none

def multiplayer (v : Json) : Option MultiplayerConfig := do
  let d := MultiplayerConfig.default
  match ← sectionFields ["serverHost", "serverPort", "roomName", "protocol"] v with
  | [h, p, r, pr] =>
      pure ⟨← field string d.serverHost h, ← field port d.serverPort p,
        ← field string d.roomName r, ← field string d.protocol pr⟩
  | _ => none

def compile (v : Json) : Option CompileOptions := do
  let d := CompileOptions.default
  match ← sectionFields ["includeComments", "entityRegistry"] v with
  | [c, r] => pure ⟨← field boolean d.includeComments c, ← field string d.entityRegistry r⟩
  | _ => none

def config (v : Json) : Option GameConfig := do
  let d := GameConfig.default
  match ← sectionFields ["gameMode", "multiplayer", "compile"] v with
  | [g, m, c] =>
      pure ⟨← field gameMode d.gameMode g, ← field multiplayer d.multiplayer m,
        ← field compile d.compile c⟩
  | _ => none

end ConfigJson

/-! ## Reading from TOML -/

namespace ConfigToml

def sectionFields (names : List String) : Toml.Node → Option (List (Option Toml.Node))
  | .table items _ _ => some (names.map fun n => Toml.find? n items)
  | .array items => some ((List.range names.length).map fun i => items[i]?)
  | .tableArray tables =>
      some ((List.range names.length).map fun i =>
        tables[i]?.map fun t => Toml.Node.table t .explicit false)
  | _ => none

def field {α : Type} (read : Toml.Node → Option α) (dflt : α) : Option Toml.Node → Option α
  | none => some dflt
  | some v => read v

def string : Toml.Node → Option String
  | .string s => some s
  | _ => none

def boolean : Toml.Node → Option Bool
  | .boolean b => some b
  | _ => none

def port : Toml.Node → Option UInt16
  | .integer i => if 0 ≤ i ∧ i ≤ 65535 then some i.toNat.toUInt16 else none
  | _ => none

def isEmptyContainer : Toml.Node → Bool
  | .table [] _ _ => true
  | .array [] => true
  | .tableArray [] => true
  | _ => false

def gameMode : Toml.Node → Option GameMode
  | .string s => GameMode.ofName? s
  | .table [(k, v)] _ _ => if isEmptyContainer v then GameMode.ofName? k else none
  | _ => none

def multiplayer (v : Toml.Node) : Option MultiplayerConfig := do
  let d := MultiplayerConfig.default
  match ← sectionFields ["serverHost", "serverPort", "roomName", "protocol"] v with
  | [h, p, r, pr] =>
      pure ⟨← field string d.serverHost h, ← field port d.serverPort p,
        ← field string d.roomName r, ← field string d.protocol pr⟩
  | _ => none

def compile (v : Toml.Node) : Option CompileOptions := do
  let d := CompileOptions.default
  match ← sectionFields ["includeComments", "entityRegistry"] v with
  | [c, r] => pure ⟨← field boolean d.includeComments c, ← field string d.entityRegistry r⟩
  | _ => none

def config (items : Toml.Items) : Option GameConfig := do
  let d := GameConfig.default
  pure ⟨← field gameMode d.gameMode (Toml.find? "gameMode" items),
    ← field multiplayer d.multiplayer (Toml.find? "multiplayer" items),
    ← field compile d.compile (Toml.find? "compile" items)⟩

end ConfigToml

namespace GameConfig

def ofToml (s : String) : Except ConfigError GameConfig :=
  match (Toml.parse s).bind ConfigToml.config with
  | some g => g.validate
  | none => .error .parseToml

def ofJsonText (s : String) : Except ConfigError GameConfig :=
  match (Json.parse s).bind ConfigJson.config with
  | some g => g.validate
  | none => .error .parseJson

def ofJsonValue (v : Json) : Except ConfigError GameConfig :=
  match ConfigJson.config v with
  | some g => g.validate
  | none => .error .parseJson

end GameConfig

namespace CompileOptions

/-- Options given as a JSON value: an object or array of the two fields; `none` when a field
has the wrong type. -/
def ofJson? (v : Json) : Option CompileOptions :=
  ConfigJson.compile v

end CompileOptions

end SceneScript
