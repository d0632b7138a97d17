import SceneScript.Compile.Ids
import SceneScript.Compile.Params
import SceneScript.Config.Game
import SceneScript.Script.Writer
import SceneScript.Value.Transform

/-!
# Action scripts

The actions of a build compile into one block that fills the table `app.updlActions` with one
function per action, keyed by its id, after a helper that looks entities up in the registry named
by the options. An empty list of actions compiles to nothing.

An action that works on an entity first finds it: the entity whose id is its `target`, or the
entity that triggered it; without an entity it does nothing. Then it moves, rotates or scales by
its `value` triple (defaults zero, zero, one), shows, hides or destroys the entity, or plays its
sound. A log action prints its `message` (or `value`), and an emit action fires the application
event `eventName` (its id by default). An action without a usable id gets a generated
`action_n` id.
-/

namespace SceneScript

namespace ActionScript

def messagePaths : List (List String) :=
  [["message"], ["inputs", "message"], ["value"], ["inputs", "value"]]

def valueTriple (n : Node) (dflt : Vec3) : Vec3 :=
  Vec3.ofJson (n.resolve (Node.paramPaths "value")) dflt

def body (n : Node) (id : String) : ActionKind → String
  | .move => "entity.translate(" ++ (valueTriple n Vec3.zero).scriptText ++ ");"
  | .rotate => "entity.rotate(" ++ (valueTriple n Vec3.zero).scriptText ++ ");"
  | .scale => "entity.setLocalScale(" ++ (valueTriple n Vec3.one).scriptText ++ ");"
  | .display => "entity.enabled = true;"
  | .hide => "entity.enabled = false;"
  | .destroy => "entity.destroy();"
  | .playSound => Script.block [
      "if (entity.sound) \x7b",
      "    entity.sound.play(\"main\");",
      "\x7d"]
  | .log => "console.log(" ++ Script.str ((n.text? messagePaths).getD "") ++ ");"
  | .emit =>
      "app.fire(" ++ Script.str ((n.text? (Node.paramPaths "eventName")).getD id) ++ ", source);"

def findEntity (n : Node) : String :=
  let target := match n.text? (Node.paramPaths "target") with
    | some t => "lookup(" ++ Script.str t ++ ")"
    | none => "source"
  Script.block [
    "const entity = " ++ target ++ ";",
    "if (!entity) \x7b",
    "    return;",
    "\x7d"]

def writeAction (n : Node) (c : IdCounter) (w : ScriptWriter) : ScriptWriter × IdCounter :=
  let (id, c) := n.idOrDraw "action" c
  let kind := n.actionKind
  let w := w.comment ("Action: " ++ id ++ " (" ++ kind.name ++ ")")
  let w := w.openBlock ("app.updlActions[" ++ Script.str id ++ "] = function (source) \x7b")
  let w := if kind.needsEntity then w.line (findEntity n) else w
  let w := w.line (body n id kind)
  (w.closeBlock "\x7d;", c)

def writeActions : List Node → IdCounter → ScriptWriter → ScriptWriter × IdCounter
  | [], c, w => (w, c)
  | n :: rest, c, w =>
      let (w, c) := writeAction n c w
      writeActions rest c w

def prologue (registry : String) : String := Script.block [
  "app.updlActions = app.updlActions || \x7b\x7d;",
  "const lookup = function (id) \x7b",
  "    const registry = globalThis." ++ registry ++ ";",
  "    return registry ? registry.get(id) : undefined;",
  "\x7d;"]

/-- The script of a list of action nodes; empty for no actions. -/
def process (opts : CompileOptions) (nodes : List Node) (c : IdCounter) : String × IdCounter :=
  if nodes.isEmpty then ("", c)
  else
    let registry := Script.ident opts.entityRegistry
    let w := ScriptWriter.start opts.includeComments
    let w := (w.comment "Actions").openBlock "(function () \x7b"
    let (w, c) := writeActions nodes c (w.line (prologue registry))
    ((w.closeBlock "\x7d)();").out, c)

end ActionScript

end SceneScript
