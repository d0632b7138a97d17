import SceneScript.Compile.Fragment

/-!
# Creation fragments

Inside the block that creates a component, the component's descriptor is in scope as
`component`; its creation fragment defines `component.applyTo(entity)`, which equips an entity
with the component. Every kind of component has one:

* physics: a collision shape (`shape`, default `box`) and a rigid body whose `bodyType` is
  `static`, `dynamic` or `kinematic` after full lowercasing (else `dynamic`) and whose `mass`
  is above 0 (else 1);
* networking: marks the entity networked, with `syncTransform` (true) and an `updateRate`
  above 0 (20);
* audio: a sound slot with `src` (empty), `volume` (1) clamped to `[0, 1]`, `loop` and
  `autoplay` (false);
* the six attachable kinds: their attachment fragment for `entity`, one level deeper;
* custom: stores the component's properties on the entity.
-/

namespace SceneScript

namespace Creation

def bodyTypes : List String := ["static", "dynamic", "kinematic"]

/-- The mass of a physics component's rigid body: a positive `mass`, else 1. -/
def mass (n : Node) : Binary64 :=
  (Binary64.positive? (n.number? (Node.paramPaths "mass"))).getD Binary64.one

/-- How often a networked entity is synchronised: a positive `updateRate`, else 20. -/
def updateRate (n : Node) : Binary64 :=
  (Binary64.positive? (n.number? (Node.paramPaths "updateRate"))).getD (Binary64.ofNat 20)

/-- The volume of an audio component's slot: `volume`, else 1, clamped to `[0, 1]`. The clamp
panics on bounds out of order. -/
def volume (n : Node) : Except Fault Binary64 :=
  ((n.number? (Node.paramPaths "volume")).getD Binary64.one).clampAssert Binary64.zero
    Binary64.one

def physics (n : Node) (w : ScriptWriter) : ScriptWriter :=
  let bodyType := match n.text? (Node.paramPaths "bodyType") with
    | some t => let l := Text.toLower t; if bodyTypes.contains l then l else "dynamic"
    | none => "dynamic"
  let shape := Script.str ((n.text? (Node.paramPaths "shape")).getD "box")
  let bodyType := Script.str bodyType
  let mass := Script.number (mass n)
  w.line (Script.block [
    "component.applyTo = function (entity) \x7b",
    "    if (!entity.collision) \x7b",
    "        entity.addComponent(\"collision\", \x7b type: " ++ shape ++ " \x7d);",
    "    \x7d",
    "    if (!entity.rigidbody) \x7b",
    "        entity.addComponent(\"rigidbody\", \x7b type: " ++ bodyType ++ ", mass: " ++ mass ++
      " \x7d);",
    "    \x7d",
    "\x7d;"])

def networking (n : Node) (w : ScriptWriter) : ScriptWriter :=
  let sync := Script.bool ((n.flag? (Node.paramPaths "syncTransform")).getD true)
  let rate := Script.number (updateRate n)
  w.line (Script.block [
    "component.applyTo = function (entity) \x7b",
    "    entity.networked = true;",
    "    entity.syncTransform = " ++ sync ++ ";",
    "    entity.updateRate = " ++ rate ++ ";",
    "\x7d;"])

def audio (n : Node) (w : ScriptWriter) : Except Fault ScriptWriter := do
  let src := Script.str ((n.text? (Node.paramPaths "src")).getD "")
  let level := Script.number (← volume n)
  let looped := Script.bool ((n.flag? (Node.paramPaths "loop")).getD false)
  let autoplay := Script.bool ((n.flag? (Node.paramPaths "autoplay")).getD false)
  pure (w.line (Script.block [
    "component.applyTo = function (entity) \x7b",
    "    if (!entity.sound) \x7b",
    "        entity.addComponent(\"sound\");",
    "    \x7d",
    "    entity.sound.addSlot(\"main\", \x7b url: " ++ src ++ ", volume: " ++ level ++
      ", loop: " ++ looped ++ ", autoPlay: " ++ autoplay ++ " \x7d);",
    "\x7d;"]))

def custom (w : ScriptWriter) : ScriptWriter :=
  w.line (Script.block [
    "component.applyTo = function (entity) \x7b",
    "    entity.customComponents = entity.customComponents || \x7b\x7d;",
    "    entity.customComponents[component.id] = component.properties;",
    "\x7d;"])

def wrap (fragment : ScriptWriter → Except Fault ScriptWriter) (w : ScriptWriter) :
    Except Fault ScriptWriter := do
  let w ← fragment (w.openBlock "component.applyTo = function (entity) \x7b")
  pure (w.closeBlock "\x7d;")

def fragment (kind : ComponentKind) (n : Node) : ScriptWriter → Except Fault ScriptWriter :=
  match kind with
  | .physics => fun w => pure (physics n w)
  | .networking => fun w => pure (networking n w)
  | .audio => audio n
  | .custom => fun w => pure (custom w)
  | .render => wrap fun w => do pure (Fragment.render (← RenderParams.ofNode n) "entity" w)
  | .inventory => wrap fun w => do
      pure (Fragment.inventory (← InventoryParams.ofNode n) "entity" w)
  | .trading => wrap fun w => pure (Fragment.trading (TradingParams.ofNode n) "entity" w)
  | .mineable => wrap fun w => pure (Fragment.mineable (MineableParams.ofNode n) "entity" w)
  | .portal => wrap fun w => pure (Fragment.portal (PortalParams.ofNode n) "entity" w)
  | .weapon => wrap fun w => pure (Fragment.weapon (WeaponParams.ofNode n) "entity" w)

end Creation

end SceneScript
