import SceneScript.Compile.Ids
import SceneScript.Compile.Params
import SceneScript.Config.Game
import SceneScript.Script.Writer

/-!
# Data scripts

The data nodes of a build compile into one block that stores each node's record
`{id, type, value}` in `app.updlData.global` or `app.updlData.local`, under the node's key. An
empty list compiles to nothing.

A data node's entry is read from its parameters: `key` (the id by default), `value` (`null`),
`scope` (local only when it is `local` in any ASCII case, else global) and `dataType`
(`variable`). A data node without a usable id gets a generated `data_n` id.
-/

namespace SceneScript

structure DataEntry where
  key : String
  value : Json
  scope : String
  dataType : String
  deriving Repr

namespace DataEntry

/-- The entry of a data node, `fallback` keying it when it has no key. -/
def ofNode (n : Node) (fallback : String) : DataEntry :=
  let scope := match n.text? (Node.paramPaths "scope") with
    | some s => if Text.asciiLower s = "local" then "local" else "global"
    | none => "global"
  { key := (n.text? (Node.paramPaths "key")).getD fallback
    value := (n.resolve (Node.paramPaths "value")).getD .null
    scope := scope
    dataType := (n.text? (Node.paramPaths "dataType")).getD "variable" }

end DataEntry

namespace DataScript

/-- Writes the statement that stores one data node. Its id is drawn first, so the counter
moves on even when writing the statement then fails. -/
def writeEntry (n : Node) (c : IdCounter) (w : ScriptWriter) :
    Except Fault ScriptWriter × IdCounter :=
  let (id, c) := n.idOrDraw "data" c
  (do
    let e := DataEntry.ofNode n id
    let record := Json.obj [("id", .str id), ("type", .str e.dataType), ("value", e.value)]
    pure (w.line ("app.updlData." ++ e.scope ++ "[" ++ Script.str e.key ++ "] = " ++
      (← Script.json record) ++ ";")), c)

def writeEntries : List Node → IdCounter → ScriptWriter → Except Fault ScriptWriter × IdCounter
  | [], c, w => (.ok w, c)
  | n :: rest, c, w =>
      match writeEntry n c w with
      | (.ok w, c) => writeEntries rest c w
      | (.error f, c) => (.error f, c)

def process (opts : CompileOptions) (nodes : List Node) (c : IdCounter) :
    Except Fault String × IdCounter :=
  if nodes.isEmpty then (.ok "", c)
  else
    let w := ScriptWriter.start opts.includeComments
    let w := (w.comment "Data").openBlock "(function () \x7b"
    let w := w.line "app.updlData = app.updlData || \x7b global: \x7b\x7d, local: \x7b\x7d \x7d;"
    let (w, c) := writeEntries nodes c w
    (w.map fun w => (w.closeBlock "\x7d)();").out, c)

end DataScript

end SceneScript
