import SceneScript.Compile.Ids
import SceneScript.Compile.Params
import SceneScript.Config.Game
import SceneScript.Script.Writer

/-!
# Event scripts

The events of a build compile into one block: a helper that runs actions by id through
`app.updlActions`, then one block per event, in order, that hooks the runtime and runs the
event's actions. An empty list of events compiles to nothing.

* start: once, when the application starts;
* click and collision: when the entity involved has the event's `target` id (any entity without
  a target);
* timer: every `interval` seconds (above 0, else 1), as milliseconds;
* keydown: on the key named by `key` (`space`), uppercased and made an identifier;
* custom: on the application event `eventName` (the event's id by default).

An event's actions are the `actions` list: texts, numbers, or objects with an `id`. An event
without a usable id gets a generated `event_n` id.
-/

namespace SceneScript

namespace EventScript

def actionIds (n : Node) : List String :=
  match n.resolve (Node.directPaths "actions") with
  | some (.arr items) =>
      items.filterMap fun item =>
        match item with
        | .obj fields => ((Json.obj fields).get? "id").bind Json.toText?
        | other => Json.toText? other
  | _ => []

/-- The condition on the entity involved: its id is the target, or anything without one. -/
def targetTest (n : Node) : String :=
  match n.text? (Node.paramPaths "target") with
  | some t => "entity && entity.updlId === " ++ Script.str t
  | none => "true"

def hook (n : Node) (id : String) : EventKind → String
  | .start => Script.block [
      "app.once(\"start\", function () \x7b",
      "    runActions(actions);",
      "\x7d);"]
  | .click => Script.block [
      "app.on(\"entity:click\", function (entity) \x7b",
      "    if (" ++ targetTest n ++ ") \x7b",
      "        runActions(actions, entity);",
      "    \x7d",
      "\x7d);"]
  | .timer =>
      let interval := (Binary64.positive? (n.number? (Node.paramPaths "interval"))).getD
        Binary64.one
      let millis := Script.number (interval * Binary64.ofNat 1000)
      Script.block [
        "const handle = setInterval(function () \x7b",
        "    runActions(actions);",
        "\x7d, " ++ millis ++ ");",
        "app.once(\"destroy\", function () \x7b",
        "    clearInterval(handle);",
        "\x7d);"]
  | .keydown =>
      let key := Script.ident (Text.asciiUpper ((n.text? (Node.paramPaths "key")).getD "space"))
      Script.block [
        "if (app.keyboard) \x7b",
        "    app.keyboard.on(pc.EVENT_KEYDOWN, function (event) \x7b",
        "        if (event.key === pc.KEY_" ++ key ++ ") \x7b",
        "            runActions(actions);",
        "        \x7d",
        "    \x7d);",
        "\x7d"]
  | .collision => Script.block [
      "app.on(\"collision:start\", function (entity, other) \x7b",
      "    if (" ++ targetTest n ++ ") \x7b",
      "        runActions(actions, entity, other);",
      "    \x7d",
      "\x7d);"]
  | .custom =>
      let name := Script.str ((n.text? (Node.paramPaths "eventName")).getD id)
      Script.block [
        "app.on(" ++ name ++ ", function (entity) \x7b",
        "    runActions(actions, entity);",
        "\x7d);"]

def writeEvent (n : Node) (c : IdCounter) (w : ScriptWriter) : ScriptWriter × IdCounter :=
  let (id, c) := n.idOrDraw "event" c
  let kind := n.eventKind
  let actions := ", ".intercalate ((actionIds n).map Script.str)
  let w := w.comment ("Event: " ++ id ++ " (" ++ kind.name ++ ")")
  let w := w.openBlock "(function () \x7b"
  let w := w.line ("const actions = [" ++ actions ++ "];")
  let w := w.line (hook n id kind)
  (w.closeBlock "\x7d)();", c)

def writeEvents : List Node → IdCounter → ScriptWriter → ScriptWriter × IdCounter
  | [], c, w => (w, c)
  | n :: rest, c, w =>
      let (w, c) := writeEvent n c w
      writeEvents rest c w

def prologue : String := Script.block [
  "app.updlActions = app.updlActions || \x7b\x7d;",
  "const runActions = function (ids, source) \x7b",
  "    ids.forEach(function (id) \x7b",
  "        const action = app.updlActions[id];",
  "        if (action) \x7b",
  "            action(source);",
  "        \x7d",
  "    \x7d);",
  "\x7d;"]

def process (opts : CompileOptions) (nodes : List Node) (c : IdCounter) : String × IdCounter :=
  if nodes.isEmpty then ("", c)
  else
    let w := ScriptWriter.start opts.includeComments
    let w := (w.comment "Events").openBlock "(function () \x7b"
    let (w, c) := writeEvents nodes c (w.line prologue)
    ((w.closeBlock "\x7d)();").out, c)

end EventScript

end SceneScript
