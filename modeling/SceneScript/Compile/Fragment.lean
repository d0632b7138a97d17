import SceneScript.Compile.Params
import SceneScript.Script.Writer

/-!
# Attachment fragments

An attachment fragment is a run of statements that equips an already constructed entity,
named by `var` in the script, with one component: a model and material (render), a cargo hold
(inventory), a trading post, a mineable body, a portal or a weapon. Each fragment is written
from the component's parameters and cannot fail once they are read. Only these six kinds of
components have a fragment (`ComponentKind.attachable`).
-/

namespace SceneScript

namespace Fragment

/-- Equips `var` with a model of the render parameters; a hidden model is disabled. -/
def render (p : RenderParams) (var : String) (w : ScriptWriter) : ScriptWriter :=
  let primitive := Script.str p.primitive
  let shadows := Script.bool p.castShadows
  let color := p.color.scriptText
  let w := w.line (Script.block [
    "if (!" ++ var ++ ".model) \x7b",
    "    " ++ var ++ ".addComponent(\"model\", \x7b type: " ++ primitive ++ ", castShadows: " ++
      shadows ++ " \x7d);",
    "\x7d",
    "\x7b",
    "    const material = new pc.StandardMaterial();",
    "    material.diffuse = " ++ color ++ ";",
    "    material.update();",
    "    " ++ var ++ ".model.material = material;",
    "\x7d"])
  if p.visible then w else w.line (var ++ ".model.enabled = false;")

def inventory (p : InventoryParams) (var : String) (w : ScriptWriter) : ScriptWriter :=
  let capacity := Script.number p.capacity
  let load := Script.number p.currentLoad
  w.line (Script.block [
    var ++ ".inventory = \x7b",
    "    capacity: " ++ capacity ++ ",",
    "    currentLoad: " ++ load ++ ",",
    "    items: \x7b\x7d,",
    "    addItem(itemType, amount) \x7b",
    "        if (!(amount > 0) || this.currentLoad + amount > this.capacity) \x7b",
    "            return false;",
    "        \x7d",
    "        this.items[itemType] = (this.items[itemType] || 0) + amount;",
    "        this.currentLoad += amount;",
    "        return true;",
    "    \x7d,",
    "    removeItem(itemType, amount) \x7b",
    "        const held = this.items[itemType] || 0;",
    "        if (!(amount > 0) || held < amount) \x7b",
    "            return false;",
    "        \x7d",
    "        if (held === amount) \x7b",
    "            delete this.items[itemType];",
    "        \x7d else \x7b",
    "            this.items[itemType] = held - amount;",
    "        \x7d",
    "        this.currentLoad -= amount;",
    "        return true;",
    "    \x7d,",
    "    getCargoInfo() \x7b",
    "        return \x7b",
    "            current: this.currentLoad,",
    "            max: this.capacity,",
    "            free: this.capacity - this.currentLoad,",
    "            items: Object.assign(\x7b\x7d, this.items)",
    "        \x7d;",
    "    \x7d",
    "\x7d;"])

def trading (p : TradingParams) (var : String) (w : ScriptWriter) : ScriptWriter :=
  let price := Script.number p.pricePerTon
  let range := Script.number p.interactionRange
  let accepted := ", ".intercalate (p.acceptedResources.map Script.str)
  w.line (Script.block [
    var ++ ".tradingPost = \x7b",
    "    pricePerTon: " ++ price ++ ",",
    "    interactionRange: " ++ range ++ ",",
    "    acceptedResources: [" ++ accepted ++ "],",
    "    isInRange(other) \x7b",
    "        return !!other && other.getPosition().distance(" ++ var ++
      ".getPosition()) <= this.interactionRange;",
    "    \x7d,",
    "    sell(ship, resourceType, amount) \x7b",
    "        if (!ship || !ship.inventory || " ++
      "this.acceptedResources.indexOf(resourceType) === -1) \x7b",
    "            return 0;",
    "        \x7d",
    "        if (!this.isInRange(ship) || !ship.inventory.removeItem(resourceType, amount)) \x7b",
    "            return 0;",
    "        \x7d",
    "        const credits = amount * this.pricePerTon;",
    "        ship.credits = (ship.credits || 0) + credits;",
    "        return credits;",
    "    \x7d",
    "\x7d;"])

/-- Equips `var` with a mineable body: intact until the damage taken reaches the remaining
yield, then destroyed, once. -/
def mineable (p : MineableParams) (var : String) (w : ScriptWriter) : ScriptWriter :=
  let resource := Script.str p.resourceType
  let maxYield := Script.number p.maxYield
  w.line (Script.block [
    var ++ ".mineable = \x7b",
    "    resourceType: " ++ resource ++ ",",
    "    maxYield: " ++ maxYield ++ ",",
    "    remainingYield: " ++ maxYield ++ ",",
    "    accumulatedDamage: 0,",
    "    state: \"intact\",",
    "    hit(damage) \x7b",
    "        if (this.state === \"destroyed\") \x7b",
    "            return null;",
    "        \x7d",
    "        this.accumulatedDamage += damage > 0 ? damage : 0;",
    "        if (this.accumulatedDamage < this.remainingYield) \x7b",
    "            return null;",
    "        \x7d",
    "        this.state = \"destroyed\";",
    "        const harvested = " ++
      "\x7b resourceType: this.resourceType, amount: this.remainingYield \x7d;",
    "        this.remainingYield = 0;",
    "        this.onDestroyed(harvested);",
    "        return harvested;",
    "    \x7d,",
    "    onDestroyed(harvested) \x7b",
    "        app.fire(\"mineable:destroyed\", " ++ var ++ ", harvested);",
    "        " ++ var ++ ".destroy();",
    "    \x7d",
    "\x7d;"])

/-- Equips `var` with a portal that transports only when its cooldown has passed. -/
def portal (p : PortalParams) (var : String) (w : ScriptWriter) : ScriptWriter :=
  let target := Script.str p.targetWorld
  let cooldown := Script.number p.cooldownTime
  w.line (Script.block [
    var ++ ".portal = \x7b",
    "    targetWorld: " ++ target ++ ",",
    "    cooldownTime: " ++ cooldown ++ ",",
    "    lastUsedAt: -Infinity,",
    "    transport(traveler, now) \x7b",
    "        const time = typeof now === \"number\" ? now : Date.now() / 1000;",
    "        if (!(time - this.lastUsedAt > this.cooldownTime)) \x7b",
    "            return false;",
    "        \x7d",
    "        this.lastUsedAt = time;",
    "        app.fire(\"portal:transport\", " ++ var ++ ", traveler, this.targetWorld);",
    "        return true;",
    "    \x7d",
    "\x7d;"])

def weapon (p : WeaponParams) (var : String) (w : ScriptWriter) : ScriptWriter :=
  let damage := Script.number p.damage
  let rate := Script.number p.fireRate
  let range := Script.number p.range
  w.line (Script.block [
    var ++ ".weapon = \x7b",
    "    damage: " ++ damage ++ ",",
    "    fireRate: " ++ rate ++ ",",
    "    range: " ++ range ++ ",",
    "    lastFiredAt: -Infinity,",
    "    fire(target, now) \x7b",
    "        const time = typeof now === \"number\" ? now : Date.now() / 1000;",
    "        if (time - this.lastFiredAt < 1 / this.fireRate) \x7b",
    "            return false;",
    "        \x7d",
    "        if (!target || !target.mineable) \x7b",
    "            return false;",
    "        \x7d",
    "        if (target.getPosition().distance(" ++ var ++ ".getPosition()) > this.range) \x7b",
    "            return false;",
    "        \x7d",
    "        this.lastFiredAt = time;",
    "        target.mineable.hit(this.damage);",
    "        return true;",
    "    \x7d",
    "\x7d;"])

end Fragment

namespace ComponentKind

def attachable : ComponentKind → Bool
  | render | inventory | trading | mineable | portal | weapon => true
  | physics | networking | audio | custom => false

end ComponentKind

namespace Fragment

/-- The attachment fragment of a component node of the given kind, if the kind has one. The
parameters are read when the fragment is written, and reading those of a render or inventory
component may panic. -/
def attach? (kind : ComponentKind) (n : Node) (var : String) :
    Option (ScriptWriter → Except Fault ScriptWriter) :=
  match kind with
  | .render => some fun w => do pure (render (← RenderParams.ofNode n) var w)
  | .inventory => some fun w => do pure (inventory (← InventoryParams.ofNode n) var w)
  | .trading => some fun w => pure (trading (TradingParams.ofNode n) var w)
  | .mineable => some fun w => pure (mineable (MineableParams.ofNode n) var w)
  | .portal => some fun w => pure (portal (PortalParams.ofNode n) var w)
  | .weapon => some fun w => pure (weapon (WeaponParams.ofNode n) var w)
  | .physics | .networking | .audio | .custom => none

end Fragment

end SceneScript
