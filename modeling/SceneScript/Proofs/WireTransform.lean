import Mathlib
import SceneScript.Compile.Network

/-!
# The transform of a wire record

An entity's script is placed by the transform at `transform`, else at `inputs.transform`
(`Node.field?`). Its wire record reads the same two members in another way: `transform` only
when it carries a position by `Network.hasPosition`, else `inputs.transform` when there is one.
The two agree whenever `inputs.transform` is absent or `transform` carries a position so. They
do not always agree when `transform` places the entity by a `position` behind a `null` `pos`:
reading the transform skips the `null` member, while `hasPosition` stops at it.
-/

namespace SceneScript

namespace Json

theorem lookup_singleton (v : Json) (k : String) : v.lookup [k] = (v.get? k).bind nonNull? := by
  simp only [lookup]
  cases v.get? k <;> rfl

theorem lookup_pair (v : Json) (k k' : String) :
    v.lookup [k, k'] = ((v.get? k).bind (·.get? k')).bind nonNull? := by
  simp only [lookup]
  cases v.get? k with
  | none => rfl
  | some w =>
    simp only [Option.bind_some]
    cases w.get? k' <;> rfl

end Json

namespace Node

theorem field?_eq_lookup (n : Node) (name : String) :
    n.field? name = (n.data.lookup [name]).or (n.data.lookup ["inputs", name]) := by
  rw [Json.lookup_singleton, Json.lookup_pair, field?]
  cases (n.data.get? name).bind Json.nonNull? <;> rfl

end Node

namespace Network

theorem transform_of_hasPosition {n : Node} {t : Json} (h : n.data.lookup ["transform"] = some t)
    (hp : hasPosition t = true) : transform n = Transform.ofJson (some t) := by
  simp [transform, h, hp]

theorem transform_of_inputs_none {n : Node}
    (h : n.data.lookup ["inputs", "transform"] = none) :
    transform n = Transform.ofJson (n.data.lookup ["transform"]) := by
  unfold transform
  cases hd : n.data.lookup ["transform"] with
  | none => simp [h]
  | some t => cases hasPosition t <;> simp [h]

theorem entity_transform {n : Node} {e : NetworkEntity} (h : entity n = .ok e) :
    e.transform = transform n := by
  simp only [entity, bind, Except.bind] at h
  split at h
  · cases h
  · cases h
    rfl

/-- When `inputs.transform` is absent, or `transform` carries a position as `hasPosition` reads
it, the wire record carries the transform the entity's script is placed by. -/
theorem wire_transform_matches_script_when_position_is_direct (n : Node)
    (h : n.data.lookup ["inputs", "transform"] = none ∨
      ∃ t, n.data.lookup ["transform"] = some t ∧ hasPosition t = true) :
    transform n = Transform.ofJson (n.field? "transform") ∧
      ∀ e, entity n = .ok e → e.transform = Transform.ofJson (n.field? "transform") := by
  have hsame : transform n = Transform.ofJson (n.field? "transform") := by
    rw [Node.field?_eq_lookup]
    rcases h with hinputs | ⟨t, hdirect, hp⟩
    · rw [transform_of_inputs_none hinputs, hinputs, Option.or_none]
    · rw [transform_of_hasPosition hdirect hp, hdirect, Option.some_or]
  exact ⟨hsame, fun e he => (entity_transform he).trans hsame⟩

/-- The test entity whose `transform` holds `pos` and whose `inputs.transform` holds another:
the wire record takes the direct one, as its script does. -/
theorem wire_transform_matches_script_direct_pos :
    let n : Node := ⟨some "e", .obj [
      ("inputs", .obj [("transform", .obj [("pos", .arr [.int 9, .int 9, .int 9])])]),
      ("transform", .obj [("pos", .arr [.int 1, .int 2, .int 3])])]⟩
    (n.data.lookup ["inputs", "transform"] = none ∨
      ∃ t, n.data.lookup ["transform"] = some t ∧ hasPosition t = true) ∧
      transform n = Transform.ofJson (n.field? "transform") := by
  intro n
  have h : n.data.lookup ["inputs", "transform"] = none ∨
      ∃ t, n.data.lookup ["transform"] = some t ∧ hasPosition t = true := Or.inr ⟨_, rfl, rfl⟩
  exact ⟨h, (wire_transform_matches_script_when_position_is_direct n h).1⟩

/-- A `transform` whose `pos` is `null` and whose `position` is set places the entity's script
by that position, yet its wire record takes `inputs.transform`. -/
theorem wire_transform_skips_position_behind_null_pos :
    let t : Json := .obj [("pos", .null), ("position", .arr [.int 1, .int 2, .int 3])]
    let n : Node := ⟨some "e", .obj [
      ("inputs", .obj [("transform", .obj [("pos", .arr [.int 9, .int 9, .int 9])])]),
      ("transform", t)]⟩
    n.data.lookup ["transform"] = some t ∧
      Transform.member? t ["pos", "position"] = some (.arr [.int 1, .int 2, .int 3]) ∧
      transform n ≠ Transform.ofJson (n.field? "transform") := by
  intro t n
  refine ⟨rfl, rfl, ?_⟩
  decide +kernel

end Network

end SceneScript
