import SceneScript.Proofs.FlowReading
import SceneScript.Scene.Extract

/-!
# Extraction as a homomorphism

Extracted nodes form a monoid under category-wise concatenation, with the empty extraction as
unit, and `total` is additive over it. Extraction carries the structure of a flow onto this
monoid: appending scenes appends their nodes, a flow with both a container and a single space
extracts to the container's nodes followed by the space's, and a single space extracts exactly
as a container whose only scene holds it.

The proofs go through one view of extraction from an object: what its `multiScene` member
contributes as a container, followed by what its `updlSpace` member contributes as a space.
-/

namespace SceneScript

namespace ExtractedNodes

/-! ## The monoid of extracted nodes -/

theorem append_eq (x y : ExtractedNodes) :
    x ++ y = ⟨x.spaces ++ y.spaces, x.entities ++ y.entities, x.components ++ y.components,
      x.events ++ y.events, x.actions ++ y.actions, x.datas ++ y.datas,
      x.universo ++ y.universo, x.lights ++ y.lights⟩ := rfl

@[simp] theorem empty_append (x : ExtractedNodes) : empty ++ x = x := rfl

@[simp] theorem append_empty (x : ExtractedNodes) : x ++ empty = x := by
  simp [append_eq, empty]

theorem append_assoc (x y z : ExtractedNodes) : x ++ y ++ z = x ++ (y ++ z) := by
  simp only [append_eq, List.append_assoc]

theorem total_append (x y : ExtractedNodes) : (x ++ y).total = x.total + y.total := by
  simp only [total, append_eq, List.length_append]
  omega

/-! ## Scenes -/

theorem ofScenes_append (l₁ l₂ : List SceneEntry) :
    ofScenes (l₁ ++ l₂) = ofScenes l₁ ++ ofScenes l₂ := by
  induction l₁ with
  | nil => rfl
  | cons e rest ih =>
    rcases e with ⟨sceneId, _ | s⟩
    · simpa [ofScenes] using ih
    · simp [ofScenes, ih, append_assoc]

/-- What a member contributes as a scene container: the nodes of its scenes, when it is an
object. -/
def ofContainer (m : Option Json) : ExtractedNodes :=
  match Derive.field (Derive.lenientObject Flow.containerShape.decode) none m with
  | some scenes => ofScenes scenes
  | none => empty

def ofSpaceMember (v : Option Json) : ExtractedNodes :=
  match Space.ofJson? v with
  | some s => ofSpace s
  | none => empty

theorem ofJson_obj (fields : List (String × Json)) :
    ofJson (.obj fields) = ofContainer ((Json.obj fields).get? "multiScene") ++
      ofSpaceMember ((Json.obj fields).get? "updlSpace") := by
  rfl

theorem ofJson_container (m : Json) :
    ofJson (.obj [("multiScene", m)]) = ofContainer (some m) := by
  simp [ofJson_obj, Json.get?, ofSpaceMember, Space.ofJson?, Derive.field]

theorem ofJson_space (s : Json) :
    ofJson (.obj [("updlSpace", s)]) = ofSpaceMember (some s) := by
  simp [ofJson_obj, Json.get?, ofContainer, Derive.field]

theorem ofJson_container_space (m s : Json) :
    ofJson (.obj [("multiScene", m), ("updlSpace", s)]) =
      ofContainer (some m) ++ ofSpaceMember (some s) := by
  simp [ofJson_obj, Json.get?]

theorem ofContainer_scenes (items : List Json) :
    ofContainer (some (.obj [("scenes", .arr items)])) =
      ofScenes (items.filterMap SceneEntry.ofJson?) := by
  rfl

theorem ofScenes_spaceData (v : Json) :
    ofScenes ([Json.obj [("spaceData", v)]].filterMap SceneEntry.ofJson?) =
      ofSpaceMember (some v) := by
  have hentry : SceneEntry.ofJson? (.obj [("spaceData", v)]) =
      some ⟨none, Space.ofJson? (some v)⟩ := by
    rw [SceneEntry.ofJson?_obj]
    simp [Json.get?]
  rw [List.filterMap_cons_some hentry, List.filterMap_nil, ofSpaceMember]
  cases Space.ofJson? (some v) <;> simp [ofScenes]

/-! ## Extraction -/

/-- Extraction is a homomorphism from flows, built by appending scenes or by joining a
container and a single space, to extracted nodes under category-wise concatenation; the empty
extraction is the unit and `total` is additive. -/
theorem extraction_is_a_homomorphism :
    (∀ A B : List Json,
      ofJson (.obj [("multiScene", .obj [("scenes", .arr (A ++ B))])]) =
        ofJson (.obj [("multiScene", .obj [("scenes", .arr A)])]) ++
          ofJson (.obj [("multiScene", .obj [("scenes", .arr B)])])) ∧
    (∀ M S : Json,
      ofJson (.obj [("multiScene", M), ("updlSpace", S)]) =
        ofJson (.obj [("multiScene", M)]) ++ ofJson (.obj [("updlSpace", S)])) ∧
    (∀ S : Json,
      ofJson (.obj [("updlSpace", S)]) =
        ofJson (.obj [("multiScene", .obj [("scenes", .arr [.obj [("spaceData", S)]])])])) ∧
    (∀ x : ExtractedNodes, empty ++ x = x ∧ x ++ empty = x) ∧
    (∀ x y : ExtractedNodes, (x ++ y).total = x.total + y.total) := by
  refine ⟨fun A B => ?scenes, fun M S => ?both, fun S => ?single, fun x => ⟨rfl, by simp⟩,
    total_append⟩
  case scenes =>
    rw [ofJson_container, ofJson_container, ofJson_container, ofContainer_scenes,
      ofContainer_scenes, ofContainer_scenes, List.filterMap_append, ofScenes_append]
  case both => rw [ofJson_container_space, ofJson_container, ofJson_space]
  case single => rw [ofJson_space, ofJson_container, ofContainer_scenes, ofScenes_spaceData]

end ExtractedNodes

end SceneScript
