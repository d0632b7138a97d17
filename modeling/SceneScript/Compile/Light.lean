import SceneScript.Compile.Ids
import SceneScript.Compile.Params
import SceneScript.Config.Game
import SceneScript.Value.Transform
import SceneScript.Script.Writer

/-!
# Light scripts

A light compiles into one self-invoking block. An ambient light sets the scene's ambient colour
to the light's colour scaled by its intensity. Any other light becomes an entity with a light
component of its kind, colour, intensity, `range` above 0 (10) and `castShadows` (false),
placed by the position and rotation of its transform. The intensity is at least 0 (1). A light
without a usable id gets a generated `light_n` id.
-/

namespace SceneScript

namespace LightScript

/-- The intensity of a light node: a number at least 0, else 1. -/
def intensity (n : Node) : Binary64 :=
  (Binary64.nonNegative? (n.number? (Node.paramPaths "intensity"))).getD Binary64.one

/-- The script of one light node. Reading and scaling its colour may panic. -/
def compile (opts : CompileOptions) (n : Node) (c : IdCounter) : Except Fault String × IdCounter :=
  let (id, c) := n.idOrDraw "light" c
  (do
    let kind := n.lightKind
    let color ← Color.resolve n.data
    let intensity := intensity n
    let w := ScriptWriter.start opts.includeComments
    let w := w.comment ("Light: " ++ id ++ " (" ++ kind.name ++ ")")
    let w := w.openBlock "(function () \x7b"
    let w ←
      if kind = .ambient then do
        let ambient ← color.scaled intensity
        pure (w.line ("app.scene.ambientLight = " ++ ambient.scriptText ++ ";"))
      else
        let range := (Binary64.positive? (n.number? (Node.paramPaths "range"))).getD
          (Binary64.ofNat 10)
        let shadows := (n.flag? (Node.paramPaths "castShadows")).getD false
        let transform := Transform.ofJson (n.field? "transform")
        pure (w.line (Script.block [
          "const light = new pc.Entity(" ++ Script.str id ++ ");",
          "light.addComponent(\"light\", \x7b",
          "    type: " ++ Script.str kind.name ++ ",",
          "    color: " ++ color.scriptText ++ ",",
          "    intensity: " ++ Script.number intensity ++ ",",
          "    range: " ++ Script.number range ++ ",",
          "    castShadows: " ++ Script.bool shadows,
          "\x7d);",
          "light.setLocalPosition(" ++ transform.position.scriptText ++ ");",
          "light.setLocalEulerAngles(" ++ transform.rotation.scriptText ++ ");",
          "app.root.addChild(light);"]))
    pure (w.closeBlock "\x7d)();").out, c)

end LightScript

end SceneScript
