import SceneScript.Compile.Behavior
import SceneScript.Compile.Component
import SceneScript.Value.Transform

/-!
# Entity scripts

An entity compiles into one self-invoking block whose statements come in a fixed order: the
entity is created with its name, id, kind and property bag, placed by its transform, wired to
the network if its `networked` flag is set, equipped by the attachment fragments of its wired
components in order, given the behaviour of its kind, and finally added to the scene and to the
registry named by the options (as an identifier), from which it removes itself when destroyed.
Attachments come before the behaviour, so values from components win over the behaviour's
defaults.

The name is `name`, `inputs.name` or `label`, else the id; an entity without a usable id gets a
generated `entity_n` id.
-/

namespace SceneScript

namespace EntityScript

def namePaths : List (List String) := [["name"], ["inputs", "name"], ["label"]]

def attachAll : List AttachedComponent → ScriptWriter → Except Fault ScriptWriter
  | [], w => pure w
  | comp :: rest, w => do attachAll rest (← ComponentScript.attachInto comp "entity" w).1

def compile (opts : CompileOptions) (n : Node) (c : IdCounter) : Except Fault String × IdCounter :=
  let typeName := n.entityTypeName
  let kind := EntityKind.parse typeName
  let transform := Transform.ofJson (n.field? "transform")
  let networked := ((n.field? "networked").bind Json.toFlag?).getD false
  let (rawId, c) := n.idOrDraw "entity" c
  let name := (n.text? namePaths).getD rawId
  let registry := Script.ident opts.entityRegistry
  let id := Script.str rawId
  (do
    let w := ScriptWriter.start opts.includeComments
    let w := w.comment ("Entity: " ++ rawId ++ " (" ++ typeName ++ ")")
    let w := w.openBlock "(function () \x7b"
    let w := w.line ("const entity = new pc.Entity(" ++ Script.str name ++ ");")
    let w := w.line ("entity.updlId = " ++ id ++ ";")
    let w := w.line ("entity.updlType = " ++ Script.str kind.name ++ ";")
    let w := w.line ("entity.updlProperties = " ++ (← Script.json n.properties) ++ ";")
    let w := w.line ("entity.setLocalPosition(" ++ transform.position.scriptText ++ ");")
    let w := w.line ("entity.setLocalEulerAngles(" ++ transform.rotation.scriptText ++ ");")
    let w := w.line ("entity.setLocalScale(" ++ transform.scale.scriptText ++ ");")
    let w :=
      if networked then
        (w.comment "Network").line (Script.block [
          "entity.networked = true;",
          "entity.networkId = " ++ id ++ ";",
          "app.fire(\"network:register\", entity);"])
      else w
    let attached := n.attachedComponents
    let w ← if attached.isEmpty then pure w else attachAll attached (w.comment "Components")
    let w := w.comment ("Behavior: " ++ kind.name)
    let w := Behavior.fragment kind n w
    let w := (w.comment "Registry").line (Script.block [
      "app.root.addChild(entity);",
      "globalThis." ++ registry ++ " = globalThis." ++ registry ++ " || new Map();",
      "globalThis." ++ registry ++ ".set(" ++ id ++ ", entity);",
      "entity.once(\"destroy\", function () \x7b",
      "    globalThis." ++ registry ++ ".delete(" ++ id ++ ");",
      "\x7d);"])
    pure (w.closeBlock "\x7d)();").out, c)

end EntityScript

end SceneScript
