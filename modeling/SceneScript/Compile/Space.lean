import SceneScript.Compile.Ids
import SceneScript.Config.Game
import SceneScript.Value.Color
import SceneScript.Value.Transform
import SceneScript.Script.Writer

/-!
# Space scripts

A space compiles into the scene set-up: the space descriptor (id, name, gravity, whether a
camera is made) stored as `app.updlSpace`, the ambient light, the physics gravity, and either a
camera looking at the origin with the background as its clear colour, or an event that passes
the background colour on.

Its settings are read from the space node: `name` (else the id), `backgroundColor` (also
`clearColor`; a dark blue by default), `ambientColor` (a dark grey), `gravity` (down at 9.81),
`createCamera` (true) and `cameraPosition` (0, 5, 10). A colour that is present is normalized
even when it does not read as a colour (white then). A space without a usable id gets a
generated `space_n` id.
-/

namespace SceneScript

structure SpaceSettings where
  name : String
  background : Rgb
  ambient : Rgb
  gravity : Vec3
  createCamera : Bool
  cameraPosition : Vec3
  deriving Repr

namespace SpaceSettings

def backgroundPaths : List (List String) :=
  [["backgroundColor"], ["inputs", "backgroundColor"], ["properties", "backgroundColor"],
   ["clearColor"]]

def defaultBackground : Rgb := Rgb.ofBytes 5 7 15

def defaultAmbient : Rgb :=
  let c := Binary64.ofDecimal false 2 (-1)
  ⟨c, c, c⟩

def defaultGravity : Vec3 := ⟨Binary64.zero, Binary64.ofDecimal true 981 (-2), Binary64.zero⟩

def defaultCameraPosition : Vec3 := ⟨Binary64.zero, Binary64.ofNat 5, Binary64.ofNat 10⟩

/-- The colour at the paths, normalized, or the default when no path is defined. -/
def colorOr (n : Node) (paths : List (List String)) (dflt : Rgb) : Except Fault Rgb :=
  match n.resolve paths with
  | some raw => Color.normalize (some raw)
  | none => pure dflt

/-- The settings of a space node, `fallback` naming it when it has no name. Reading its colours
may panic. -/
def ofNode (n : Node) (fallback : String) : Except Fault SpaceSettings := do
  let background ← colorOr n backgroundPaths defaultBackground
  let ambient ← colorOr n (Node.paramPaths "ambientColor") defaultAmbient
  pure { name := (n.text? (Node.directPaths "name")).getD fallback
         background := background
         ambient := ambient
         gravity := Vec3.ofJson (n.resolve (Node.paramPaths "gravity")) defaultGravity
         createCamera := (n.flag? (Node.paramPaths "createCamera")).getD true
         cameraPosition := Vec3.ofJson (n.resolve (Node.paramPaths "cameraPosition"))
           defaultCameraPosition }

end SpaceSettings

namespace SpaceScript

def compile (opts : CompileOptions) (n : Node) (c : IdCounter) : Except Fault String × IdCounter :=
  let (id, c) := n.idOrDraw "space" c
  (do
    let s ← SpaceSettings.ofNode n id
    let settings := Json.obj [("createCamera", .bool s.createCamera),
      ("gravity", s.gravity.toJson), ("id", .str id), ("name", .str s.name)]
    let w := ScriptWriter.start opts.includeComments
    let w := w.comment ("Space: " ++ id ++ " (" ++ s.name ++ ")")
    let w := w.openBlock "(function () \x7b"
    let w := w.line ("const space = " ++ (← Script.json settings) ++ ";")
    let w := w.line (Script.block [
      "app.updlSpace = space;",
      "app.scene.ambientLight = " ++ s.ambient.scriptText ++ ";",
      "if (app.systems.rigidbody) \x7b",
      "    app.systems.rigidbody.gravity.set(" ++ s.gravity.scriptText ++ ");",
      "\x7d"])
    let w :=
      if s.createCamera then
        (w.comment "Camera").line (Script.block [
          "const camera = new pc.Entity(" ++ Script.str (s.name ++ " Camera") ++ ");",
          "camera.addComponent(\"camera\", \x7b clearColor: " ++ s.background.scriptText ++
            " \x7d);",
          "camera.setLocalPosition(" ++ s.cameraPosition.scriptText ++ ");",
          "camera.lookAt(0, 0, 0);",
          "app.root.addChild(camera);",
          "space.camera = camera;"])
      else
        w.line ("app.fire(\"space:background\", " ++ s.background.scriptText ++ ");")
    pure (w.closeBlock "\x7d)();").out, c)

end SpaceScript

end SceneScript
