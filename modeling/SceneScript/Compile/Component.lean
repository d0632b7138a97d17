import SceneScript.Compile.Creation
import SceneScript.Compile.Ids
import SceneScript.Config.Game

/-!
# Component scripts

The components of a build compile into one script with a self-invoking block per component, in
order. A block declares the component's descriptor (id, type name, property bag), runs the
creation fragment of its kind and registers the descriptor in `app.updlComponents`. A component
without a usable id gets a generated `component_n` id.

A component wired into an entity is written differently: as the attachment fragment of its
kind, for the entity's variable, with no comments; kinds without a fragment write nothing.
-/

namespace SceneScript

namespace ComponentScript

/-- Writes the creation block of one component node. Its id is drawn first, so the counter
moves on even when writing the block then fails. -/
def writeBlock (n : Node) (c : IdCounter) (w : ScriptWriter) :
    Except Fault ScriptWriter × IdCounter :=
  let typeName := n.componentTypeName
  let kind := ComponentKind.parse typeName
  let (id, c) := n.idOrDraw "component" c
  (do
    let w := w.comment ("Component: " ++ id ++ " (" ++ typeName ++ ")")
    let w := w.openBlock "(function () \x7b"
    let w := w.openBlock "const component = \x7b"
    let w := w.line ("id: " ++ Script.str id ++ ",")
    let w := w.line ("type: " ++ Script.str typeName ++ ",")
    let w := w.line ("properties: " ++ (← Script.json n.properties))
    let w := w.closeBlock "\x7d;"
    let w ← Creation.fragment kind n w
    let w := w.line "app.updlComponents = app.updlComponents || new Map();"
    let w := w.line "app.updlComponents.set(component.id, component);"
    pure (w.closeBlock "\x7d)();"), c)

def writeBlocks : List Node → IdCounter → ScriptWriter → Except Fault ScriptWriter × IdCounter
  | [], c, w => (.ok w, c)
  | n :: rest, c, w =>
      match writeBlock n c w with
      | (.ok w, c) => writeBlocks rest c w
      | (.error f, c) => (.error f, c)

def process (opts : CompileOptions) (nodes : List Node) (c : IdCounter) :
    Except Fault String × IdCounter :=
  let (w, c) := writeBlocks nodes c (ScriptWriter.start opts.includeComments)
  (w.map (·.out), c)

/-- Writes the attachment fragment of an attached component for `var`; the flag tells whether
its kind has one. -/
def attachInto (comp : AttachedComponent) (var : String) (w : ScriptWriter) :
    Except Fault (ScriptWriter × Bool) :=
  match Fragment.attach? (ComponentKind.parse comp.componentType) comp.node var with
  | some fragment => do pure (← fragment w, true)
  | none => pure (w, false)

def attach (comp : AttachedComponent) (var : String) : Except Fault (String × Bool) := do
  let (w, wrote) ← attachInto comp var ScriptWriter.plain
  pure (w.out, wrote)

end ComponentScript

end SceneScript
