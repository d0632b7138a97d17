import SceneScript.Compile.Fragment

/-!
# Entity behaviours

After its attachments, an entity gets the behaviour of its kind. A behaviour only fills in what
no attached component provided (`if (!entity.inventory)` and so on):

* player: a keyboard controller with a `speed` above 0 (5);
* interactive: click and hover handlers with an `interactionRange` of at least 0 (5);
* vehicle: a keyboard controller with `speed` (10) and `turnSpeed` (90), both above 0;
* ship: a flight controller with `speed` (10) and `turnSpeed` (90), and a default cargo hold;
* station: a docking range of at least 0 (20) and a default trading post;
* asteroid: a spin of `rotationSpeed` (5, any number) and a default mineable body;
* gate: a `targetWorld` (empty) and a portal to it;
* static: marked static.

Update handlers are hooked into the application's update loop and unhooked when the entity is
destroyed.
-/

namespace SceneScript

namespace Behavior

def positiveOr (n : Node) (name : String) (dflt : Nat) : Binary64 :=
  (Binary64.positive? (n.number? (Node.paramPaths name))).getD (Binary64.ofNat dflt)

def nonNegativeOr (n : Node) (name : String) (dflt : Nat) : Binary64 :=
  (Binary64.nonNegative? (n.number? (Node.paramPaths name))).getD (Binary64.ofNat dflt)

/-- Hooks `handler` into the update loop until the entity is destroyed. -/
def updateHook (handler : String) (w : ScriptWriter) : ScriptWriter :=
  w.line (Script.block [
    "app.on(\"update\", " ++ handler ++ ");",
    "entity.once(\"destroy\", function () \x7b",
    "    app.off(\"update\", " ++ handler ++ ");",
    "\x7d);"])

def player (n : Node) (w : ScriptWriter) : ScriptWriter :=
  let speed := Script.number (positiveOr n "speed" 5)
  updateHook "onPlayerUpdate" (w.line (Script.block [
    "entity.playerController = \x7b speed: " ++ speed ++ " \x7d;",
    "const onPlayerUpdate = function (dt) \x7b",
    "    const keyboard = app.keyboard;",
    "    if (!keyboard) \x7b",
    "        return;",
    "    \x7d",
    "    let x = 0;",
    "    let z = 0;",
    "    if (keyboard.isPressed(pc.KEY_W)) z -= 1;",
    "    if (keyboard.isPressed(pc.KEY_S)) z += 1;",
    "    if (keyboard.isPressed(pc.KEY_A)) x -= 1;",
    "    if (keyboard.isPressed(pc.KEY_D)) x += 1;",
    "    if (x !== 0 || z !== 0) \x7b",
    "        const step = entity.playerController.speed * dt;",
    "        entity.translate(x * step, 0, z * step);",
    "    \x7d",
    "\x7d;"]))

def interactive (n : Node) (w : ScriptWriter) : ScriptWriter :=
  let range := Script.number (nonNegativeOr n "interactionRange" 5)
  w.line (Script.block [
    "entity.interactive = \x7b",
    "    interactionRange: " ++ range ++ ",",
    "    hovered: false,",
    "    onClick() \x7b",
    "        app.fire(\"entity:click\", entity);",
    "    \x7d,",
    "    onHover(state) \x7b",
    "        this.hovered = !!state;",
    "        app.fire(\"entity:hover\", entity, this.hovered);",
    "    \x7d",
    "\x7d;"])

def vehicle (n : Node) (w : ScriptWriter) : ScriptWriter :=
  let speed := Script.number (positiveOr n "speed" 10)
  let turn := Script.number (positiveOr n "turnSpeed" 90)
  updateHook "onVehicleUpdate" (w.line (Script.block [
    "entity.vehicleController = \x7b speed: " ++ speed ++ ", turnSpeed: " ++ turn ++ " \x7d;",
    "const onVehicleUpdate = function (dt) \x7b",
    "    const keyboard = app.keyboard;",
    "    if (!keyboard) \x7b",
    "        return;",
    "    \x7d",
    "    const controller = entity.vehicleController;",
    "    if (keyboard.isPressed(pc.KEY_A)) entity.rotateLocal(0, controller.turnSpeed * dt, 0);",
    "    if (keyboard.isPressed(pc.KEY_D)) entity.rotateLocal(0, -controller.turnSpeed * dt, 0);",
    "    if (keyboard.isPressed(pc.KEY_W)) entity.translateLocal(0, 0, -controller.speed * dt);",
    "    if (keyboard.isPressed(pc.KEY_S)) entity.translateLocal(0, 0, controller.speed * dt);",
    "\x7d;"]))

def ship (n : Node) (w : ScriptWriter) : ScriptWriter :=
  let speed := Script.number (positiveOr n "speed" 10)
  let turn := Script.number (positiveOr n "turnSpeed" 90)
  let w := updateHook "onShipUpdate" (w.line (Script.block [
    "entity.shipController = \x7b",
    "    maxSpeed: " ++ speed ++ ",",
    "    turnSpeed: " ++ turn ++ ",",
    "    thrust: 0,",
    "    turn: 0,",
    "    velocity: new pc.Vec3(),",
    "    update(dt) \x7b",
    "        if (this.turn !== 0) \x7b",
    "            entity.rotateLocal(0, this.turn * this.turnSpeed * dt, 0);",
    "        \x7d",
    "        if (this.thrust !== 0) \x7b",
    "            this.velocity.add(" ++
      "entity.forward.clone().mulScalar(this.thrust * this.maxSpeed * dt));",
    "            if (this.velocity.length() > this.maxSpeed) \x7b",
    "                this.velocity.normalize().mulScalar(this.maxSpeed);",
    "            \x7d",
    "        \x7d",
    "        entity.translate(this.velocity.x * dt, this.velocity.y * dt, this.velocity.z * dt);",
    "    \x7d",
    "\x7d;",
    "const onShipUpdate = function (dt) \x7b",
    "    entity.shipController.update(dt);",
    "\x7d;"]))
  let w := w.openBlock "if (!entity.inventory) \x7b"
  let w := Fragment.inventory InventoryParams.default "entity" w
  w.closeBlock "\x7d"

def station (n : Node) (w : ScriptWriter) : ScriptWriter :=
  let docking := Script.number (nonNegativeOr n "dockingRange" 20)
  let w := w.line (Script.block [
    "entity.station = \x7b",
    "    dockingRange: " ++ docking ++ ",",
    "    canDock(ship) \x7b",
    "        return !!ship && " ++
      "ship.getPosition().distance(entity.getPosition()) <= this.dockingRange;",
    "    \x7d",
    "\x7d;"])
  let w := w.openBlock "if (!entity.tradingPost) \x7b"
  let w := Fragment.trading TradingParams.default "entity" w
  w.closeBlock "\x7d"

def asteroid (n : Node) (w : ScriptWriter) : ScriptWriter :=
  let spin := Script.number ((n.number? (Node.paramPaths "rotationSpeed")).getD (Binary64.ofNat 5))
  let w := updateHook "onAsteroidUpdate" (w.line (Script.block [
    "entity.spinSpeed = " ++ spin ++ ";",
    "const onAsteroidUpdate = function (dt) \x7b",
    "    entity.rotateLocal(0, entity.spinSpeed * dt, 0);",
    "\x7d;"]))
  let w := w.openBlock "if (!entity.mineable) \x7b"
  let w := Fragment.mineable MineableParams.default "entity" w
  w.closeBlock "\x7d"

def gate (n : Node) (w : ScriptWriter) : ScriptWriter :=
  let target := (n.text? (Node.paramPaths "targetWorld")).getD ""
  let w := w.line ("entity.gateTarget = " ++ Script.str target ++ ";")
  let portal : PortalParams := { PortalParams.default with targetWorld := target }
  let w := Fragment.portal portal "entity" (w.openBlock "if (!entity.portal) \x7b")
  w.closeBlock "\x7d"

def static (w : ScriptWriter) : ScriptWriter :=
  w.line "entity.isStatic = true;"

def fragment (kind : EntityKind) (n : Node) : ScriptWriter → ScriptWriter :=
  match kind with
  | .player => player n
  | .interactive => interactive n
  | .vehicle => vehicle n
  | .ship => ship n
  | .station => station n
  | .asteroid => asteroid n
  | .gate => gate n
  | .static => static

end Behavior

end SceneScript
