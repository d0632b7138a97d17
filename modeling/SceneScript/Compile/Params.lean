import SceneScript.Value.Color
import SceneScript.Compile.Kinds

/-!
# Component parameters

The parameters of the six components that can attach themselves to an entity, each read from a
component node with a default for anything missing or out of range. A number is taken from the
first defined path only; when that value is not a number, or fails its range, the default
applies.

* render: `primitive` (else `modelType`, else `box`), the resolved colour, `visible` (true),
  `castShadows` (false);
* inventory: `capacity` at least 0 (20), `currentLoad` (0) clamped to `[0, capacity]`;
* trading: `pricePerTon` at least 0 (10) and `interactionRange` at least 0 (15), each also
  under `properties.trading`, and `acceptedResources`, a list or a single text (non-empty,
  `asteroidMass` by default);
* mineable: `resourceType` (`asteroidMass`) and `maxYield` above 0 (2);
* portal: `targetWorld` (empty) and `cooldownTime` at least 0 (2), also as `cooldown`;
* weapon: `damage` at least 0 (1), `fireRate` above 0 (2) and at least 0.01, `range` at least
  0 (100).
-/

namespace SceneScript

namespace Binary64

def nonNegative? (x? : Option Binary64) : Option Binary64 :=
  x?.filter fun x => zero.le x

def positive? (x? : Option Binary64) : Option Binary64 :=
  x?.filter fun x => zero.lt x

end Binary64

def defaultResource : String := "asteroidMass"

structure RenderParams where
  primitive : String
  color : Rgb
  visible : Bool
  castShadows : Bool
  deriving Repr

namespace RenderParams

/-- The render parameters of a component node. Reading the colour may panic. -/
def ofNode (n : Node) : Except Fault RenderParams := do
  let primitive :=
    match n.text? (Node.paramPaths "primitive") with
    | some p => p
    | none => (n.text? (Node.paramPaths "modelType")).getD "box"
  let color ← Color.resolve n.data
  pure { primitive := primitive
         color := color
         visible := (n.flag? (Node.paramPaths "visible")).getD true
         castShadows := (n.flag? (Node.paramPaths "castShadows")).getD false }

end RenderParams

structure InventoryParams where
  capacity : Binary64
  currentLoad : Binary64
  deriving Repr

namespace InventoryParams

def default : InventoryParams := ⟨Binary64.ofNat 20, Binary64.zero⟩

def capacityOf (n : Node) : Binary64 :=
  (Binary64.nonNegative? (n.number? (Node.paramPaths "capacity"))).getD default.capacity

/-- The inventory parameters of a component node. The load is clamped to `[0, capacity]`,
which panics unless `0 ≤ capacity`. -/
def ofNode (n : Node) : Except Fault InventoryParams := do
  let capacity := capacityOf n
  let load := (n.number? (Node.paramPaths "currentLoad")).getD Binary64.zero
  pure ⟨capacity, ← load.clampAssert Binary64.zero capacity⟩

end InventoryParams

structure TradingParams where
  pricePerTon : Binary64
  interactionRange : Binary64
  acceptedResources : List String
  deriving Repr

namespace TradingParams

def default : TradingParams := ⟨Binary64.ofNat 10, Binary64.ofNat 15, [defaultResource]⟩

def pricePerTonPaths : List (List String) :=
  Node.paramPaths "pricePerTon" ++ [["properties", "trading", "pricePerTon"]]

def interactionRangePaths : List (List String) :=
  Node.paramPaths "interactionRange" ++ [["properties", "trading", "interactionRange"]]

def resourcesOf : Option Json → List String
  | some (.arr items) => items.filterMap Json.toText?
  | some v => (Json.toText? v).toList
  | none => []

def ofNode (n : Node) : TradingParams :=
  let accepted := resourcesOf (n.resolve (Node.paramPaths "acceptedResources"))
  { pricePerTon := (Binary64.nonNegative? (n.number? pricePerTonPaths)).getD default.pricePerTon
    interactionRange :=
      (Binary64.nonNegative? (n.number? interactionRangePaths)).getD default.interactionRange
    acceptedResources := if accepted.isEmpty then default.acceptedResources else accepted }

end TradingParams

structure MineableParams where
  resourceType : String
  maxYield : Binary64
  deriving Repr

namespace MineableParams

def default : MineableParams := ⟨defaultResource, Binary64.ofNat 2⟩

def ofNode (n : Node) : MineableParams :=
  { resourceType := (n.text? (Node.paramPaths "resourceType")).getD default.resourceType
    maxYield := (Binary64.positive? (n.number? (Node.paramPaths "maxYield"))).getD
      default.maxYield }

end MineableParams

structure PortalParams where
  targetWorld : String
  cooldownTime : Binary64
  deriving Repr

namespace PortalParams

def default : PortalParams := ⟨"", Binary64.ofNat 2⟩

def cooldownPaths : List (List String) :=
  Node.paramPaths "cooldownTime" ++ [["cooldown"], ["properties", "cooldown"]]

def ofNode (n : Node) : PortalParams :=
  { targetWorld := (n.text? (Node.paramPaths "targetWorld")).getD default.targetWorld
    cooldownTime := (Binary64.nonNegative? (n.number? cooldownPaths)).getD default.cooldownTime }

end PortalParams

structure WeaponParams where
  damage : Binary64
  fireRate : Binary64
  range : Binary64
  deriving Repr

namespace WeaponParams

def default : WeaponParams := ⟨Binary64.ofNat 1, Binary64.ofNat 2, Binary64.ofNat 100⟩

/-- The least fire rate, so that the pause between shots stays finite. -/
def minFireRate : Binary64 := Binary64.ofDecimal false 1 (-2)

def ofNode (n : Node) : WeaponParams :=
  { damage := (Binary64.nonNegative? (n.number? (Node.paramPaths "damage"))).getD default.damage
    fireRate := ((Binary64.positive? (n.number? (Node.paramPaths "fireRate"))).getD
      default.fireRate).max minFireRate
    range := (Binary64.nonNegative? (n.number? (Node.paramPaths "range"))).getD default.range }

end WeaponParams

end SceneScript
