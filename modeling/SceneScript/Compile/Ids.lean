import SceneScript.Scene.Node

/-!
# Generated ids

Nodes that arrive without a usable id get one from an `IdCounter`: the id `prefix_n`, where
`n` is the counter's value, which then moves on by one. The counter is a 64-bit word shared by
every prefix, so after `2^64 - 1` comes `0`.
-/

namespace SceneScript

structure IdCounter where
  next : UInt64
  deriving DecidableEq, Repr

namespace IdCounter

/-- A counter starting at `n` (taken modulo `2^64`). -/
def startingAt (n : Nat) : IdCounter := ⟨n.toUInt64⟩

/-- The id `prefix_n` for the counter's value `n`, and the counter moved on. -/
def draw (c : IdCounter) (pfx : String) : String × IdCounter :=
  (pfx ++ "_" ++ toString c.next.toNat, ⟨c.next + 1⟩)

def drawAll (c : IdCounter) : List String → List String × IdCounter
  | [] => ([], c)
  | p :: rest =>
      let (i, c) := c.draw p
      let (is, c) := c.drawAll rest
      (i :: is, c)

end IdCounter

namespace Node

/-- The node's usable id, or a fresh one with the prefix. -/
def idOrDraw (n : Node) (pfx : String) (c : IdCounter) : String × IdCounter :=
  match n.id? with
  | some i => (i, c)
  | none => c.draw pfx

end Node

end SceneScript
