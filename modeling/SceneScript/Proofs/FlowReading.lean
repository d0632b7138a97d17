import Mathlib
import SceneScript.Scene.Flow

/-!
# Reading flows

A flow is read strictly at the top and leniently below it. The laws of the derived struct
reader and of the lenient field readers are proved once, for every shape and every field
reader, and the reading of nodes, scenes, spaces and flows follows from them:

* only `null` and objects are flows; any other value is refused with an error naming its kind,
  and an object is never malformed, since no field of a flow can refuse its value;
* `updlSpace`, `multiScene` and a scene's `spaceData` count exactly when they are objects;
* a list member keeps, in order, exactly its entries that decode, and anything but an array
  reads as the empty list; `lights` and `light` read a lone object as the list holding it;
* an entry decodes exactly when it is an object or an array of at most two items, its id and
  data (scene id and space data) taken from the members of that name or from the items in that
  order, with defaults for the missing ones.
-/

namespace SceneScript

namespace Json

/-- The values the derived reader accepts for a struct of `n` fields. -/
def StructLike (n : Nat) (v : Json) : Prop :=
  (∃ fields, v = .obj fields) ∨ ∃ items, v = .arr items ∧ items.length ≤ n

def Scalar (v : Json) : Prop :=
  (∃ b, v = .bool b) ∨ (∃ n, v = .num n) ∨ (∃ s, v = .str s) ∨ ∃ items, v = .arr items

end Json

/-- A list member read as the format promises: the items of an array that decode, in order,
and nothing for any other value or a missing member. -/
def ListMember {α : Type} (decode? : Json → Option α) (member : Option Json) (xs : List α) :
    Prop :=
  (∀ items, member = some (.arr items) → xs = items.filterMap decode?) ∧
    ((∀ items, member ≠ some (.arr items)) → xs = [])

def OneOrManyMember {α : Type} (decode? : Json → Option α) (member : Option Json)
    (xs : List α) : Prop :=
  (∀ items, member = some (.arr items) → xs = items.filterMap decode?) ∧
    (∀ fields, member = some (.obj fields) → xs = [Json.obj fields].filterMap decode?) ∧
    ((∀ items, member ≠ some (.arr items)) → (∀ fields, member ≠ some (.obj fields)) → xs = [])

/-- A space read from the object `v`, every field from its own member. -/
structure SpaceRead (v : Json) (s : Space) : Prop where
  id : s.id = (v.get? "id").bind Node.looseId
  name : s.name = (v.get? "name").bind Json.toText?
  data : s.data = (v.get? "data").getD .null
  entities : ListMember Node.ofJson? (v.get? "entities") s.entities
  components : ListMember Node.ofJson? (v.get? "components") s.components
  events : ListMember Node.ofJson? (v.get? "events") s.events
  actions : ListMember Node.ofJson? (v.get? "actions") s.actions
  datas : ListMember Node.ofJson? (v.get? "datas") s.datas
  universo : ListMember Node.ofJson? (v.get? "universo") s.universo
  lightsField : OneOrManyMember Node.ofJson? (v.get? "lights") s.lightsField
  lightField : OneOrManyMember Node.ofJson? (v.get? "light") s.lightField
  lights : s.lights = s.lightsField ++ s.lightField

/-- A flow read from the object `v`: the single space from `updlSpace`, and a container exactly
when `multiScene` is an object, holding the scenes of its `scenes` member. -/
structure FlowRead (v : Json) (f : Flow) : Prop where
  updlSpace : f.updlSpace = Space.ofJson? (v.get? "updlSpace")
  container : f.multiScene.isSome ↔ ∃ fields, v.get? "multiScene" = some (.obj fields)
  scenes : ∀ fields, v.get? "multiScene" = some (.obj fields) →
    ∃ scenes, f.multiScene = some scenes ∧
      ListMember SceneEntry.ofJson? ((Json.obj fields).get? "scenes") scenes

namespace Derive

variable {α β : Type}

/-! ## The derived reader -/

@[simp] theorem toOption_ok (a : α) : (Except.ok a : Except DecodeError α).toOption = some a := rfl

@[simp] theorem toOption_error (e : DecodeError) :
    (Except.error e : Except DecodeError α).toOption = none := rfl

theorem decode_obj (s : Shape α) (fields : List (String × Json)) :
    s.decode (.obj fields) = .ok (s.build (Json.obj fields).get?) := rfl

theorem decode_arr (s : Shape α) {items : List Json} (h : items.length ≤ s.names.length) :
    s.decode (.arr items) = .ok (s.build (itemOf s.names items)) := by
  simp [Shape.decode, fieldValues, h, Except.map]

theorem decode_arr_of_lt (s : Shape α) {items : List Json} (h : s.names.length < items.length) :
    s.decode (.arr items) = .error (.invalidLength items.length) := by
  simp [Shape.decode, fieldValues, Nat.not_le.2 h, Except.map]

theorem isSome_decode_iff (s : Shape α) (v : Json) :
    (s.decode v).toOption.isSome ↔ v.StructLike s.names.length := by
  cases v with
  | obj fields => simp [decode_obj, Json.StructLike]
  | arr items =>
      by_cases h : items.length ≤ s.names.length
      · simp [decode_arr s h, Json.StructLike, h]
      · simp [decode_arr_of_lt s (Nat.lt_of_not_le h), Json.StructLike, h]
  | _ => simp [Shape.decode, fieldValues, Json.StructLike, Except.map]

/-! ## Fields -/

theorem field_eq_bind (read : Json → Option β) (m : Option Json) :
    field read none m = m.bind read := by
  cases m <;> rfl

theorem field_eq_getD (m : Option Json) : field (fun v => v) .null m = m.getD .null := by
  cases m <;> rfl

theorem isSome_field_lenientObject (decode : Json → Except DecodeError α)
    (hdecode : ∀ fields, ((decode (.obj fields)).toOption).isSome) (m : Option Json) :
    (field (lenientObject decode) none m).isSome ↔ ∃ fields, m = some (.obj fields) := by
  rcases m with _ | (_ | _ | _ | _ | _ | fields)
  all_goals simp [field, lenientObject]
  exact hdecode fields

theorem listMember_field (decode : Json → Except DecodeError α) (m : Option Json) :
    ListMember (fun v => (decode v).toOption) m (field (lenientList decode) [] m) := by
  refine ⟨fun items h => by simp [h, field, lenientList, lenientItems], fun h => ?_⟩
  rcases m with _ | (_ | _ | _ | _ | items | _)
  all_goals first
    | rfl
    | exact absurd rfl (h items)

theorem oneOrManyMember_field (decode : Json → Except DecodeError α) (m : Option Json) :
    OneOrManyMember (fun v => (decode v).toOption) m (field (oneOrMany decode) [] m) := by
  refine ⟨fun items h => by simp [h, field, oneOrMany, lenientItems],
    fun fields h => by simp [h, field, oneOrMany, lenientItems], fun harr hobj => ?_⟩
  rcases m with _ | (_ | _ | _ | _ | items | fields)
  all_goals first
    | rfl
    | exact absurd rfl (harr items)
    | exact absurd rfl (hobj fields)

end Derive

open Derive

/-! ## Entries -/

namespace Node

theorem ofJson?_obj (fields : List (String × Json)) :
    ofJson? (.obj fields) =
      some ⟨((Json.obj fields).get? "id").bind looseId,
        ((Json.obj fields).get? "data").getD .null⟩ := by
  simp [ofJson?, decode_obj, shape, field_eq_bind, field_eq_getD]

theorem ofJson?_arr {items : List Json} (h : items.length ≤ 2) :
    ofJson? (.arr items) = some ⟨items[0]?.bind looseId, items[1]?.getD .null⟩ := by
  have hid : itemOf ["id", "data"] items "id" = items[0]? := rfl
  have hdata : itemOf ["id", "data"] items "data" = items[1]? := rfl
  rw [ofJson?, decode_arr shape h, toOption_ok]
  simp only [shape, hid, hdata, field_eq_bind, field_eq_getD]

theorem isSome_ofJson?_iff (v : Json) : (ofJson? v).isSome ↔ v.StructLike 2 :=
  isSome_decode_iff shape v

end Node

namespace SceneEntry

theorem ofJson?_obj (fields : List (String × Json)) :
    ofJson? (.obj fields) =
      some ⟨((Json.obj fields).get? "sceneId").bind Node.looseId,
        Space.ofJson? ((Json.obj fields).get? "spaceData")⟩ := by
  simp [ofJson?, decode_obj, shape, field_eq_bind]

theorem ofJson?_arr {items : List Json} (h : items.length ≤ 2) :
    ofJson? (.arr items) = some ⟨items[0]?.bind Node.looseId, Space.ofJson? items[1]?⟩ := by
  have hid : itemOf ["sceneId", "spaceData"] items "sceneId" = items[0]? := rfl
  have hspace : itemOf ["sceneId", "spaceData"] items "spaceData" = items[1]? := rfl
  rw [ofJson?, decode_arr shape h, toOption_ok]
  simp only [shape, hid, hspace, field_eq_bind]

theorem isSome_ofJson?_iff (v : Json) : (ofJson? v).isSome ↔ v.StructLike 2 :=
  isSome_decode_iff shape v

end SceneEntry

/-! ## Spaces -/

namespace Space

theorem ofJson?_obj (fields : List (String × Json)) :
    ofJson? (some (.obj fields)) = some (shape.build (Json.obj fields).get?) := rfl

theorem isSome_ofJson?_iff (v : Option Json) :
    (ofJson? v).isSome ↔ ∃ fields, v = some (.obj fields) :=
  isSome_field_lenientObject shape.decode (fun _ => rfl) v

theorem spaceRead_build (fields : List (String × Json)) :
    SpaceRead (.obj fields) (shape.build (Json.obj fields).get?) :=
  ⟨field_eq_bind _ _, field_eq_bind _ _, field_eq_getD _, listMember_field _ _,
    listMember_field _ _, listMember_field _ _, listMember_field _ _, listMember_field _ _,
    listMember_field _ _, oneOrManyMember_field _ _, oneOrManyMember_field _ _, rfl⟩

end Space

/-! ## Flows -/

namespace Flow

theorem ofJson_obj (fields : List (String × Json)) :
    ofJson (.obj fields) = .ok (shape.build (Json.obj fields).get?) := rfl

theorem ofJson_ok_iff (raw : Json) :
    (∃ f, ofJson raw = .ok f) ↔ raw = .null ∨ ∃ fields, raw = .obj fields := by
  cases raw with
  | null => simp [ofJson]
  | obj fields => simp [ofJson_obj]
  | _ => simp [ofJson]

theorem ofJson_eq_error_iff (raw : Json) (e : FlowError) :
    ofJson raw = .error e ↔ e = .notAnObject (kindName raw) ∧ raw.Scalar := by
  cases raw with
  | null => simp [ofJson, Json.Scalar]
  | obj fields => simp [ofJson_obj, Json.Scalar]
  | _ => simp [ofJson, kindName, Json.Scalar, eq_comm]

theorem flowRead_build (fields : List (String × Json)) :
    FlowRead (.obj fields) (shape.build (Json.obj fields).get?) := by
  refine ⟨rfl, isSome_field_lenientObject containerShape.decode (fun _ => rfl) _, ?_⟩
  intro fs hfs
  exact ⟨_, by simp only [shape, hfs]; rfl, listMember_field _ _⟩

end Flow

/-- Reading a flow: only `null` and objects are flows, and the one refusal names the kind of any
other value, so no flow is malformed; below the top every member is read on its own, objects
counting only as objects, lists keeping in order exactly their entries that decode and reading
as empty when not arrays, lights also taking a lone object; an entry decodes exactly when it is
an object or an array of at most two items, taking defaults for its missing parts. -/
theorem flow_reading_is_lenient_below_the_top :
    (∀ raw : Json, (∃ f, Flow.ofJson raw = .ok f) ↔ raw = .null ∨ ∃ fields, raw = .obj fields) ∧
    (∀ (raw : Json) (e : FlowError),
      Flow.ofJson raw = .error e ↔ e = .notAnObject (Flow.kindName raw) ∧ raw.Scalar) ∧
    Flow.ofJson .null = .ok Flow.empty ∧
    (∀ fields f, Flow.ofJson (.obj fields) = .ok f → FlowRead (.obj fields) f) ∧
    (∀ v, (Space.ofJson? v).isSome ↔ ∃ fields, v = some (.obj fields)) ∧
    (∀ fields, ∃ s, Space.ofJson? (some (.obj fields)) = some s ∧ SpaceRead (.obj fields) s) ∧
    (∀ v, (Node.ofJson? v).isSome ↔ v.StructLike 2) ∧
    (∀ fields, Node.ofJson? (.obj fields) = some ⟨((Json.obj fields).get? "id").bind Node.looseId,
      ((Json.obj fields).get? "data").getD .null⟩) ∧
    (∀ items, items.length ≤ 2 →
      Node.ofJson? (.arr items) = some ⟨items[0]?.bind Node.looseId, items[1]?.getD .null⟩) ∧
    (∀ v, (SceneEntry.ofJson? v).isSome ↔ v.StructLike 2) ∧
    (∀ fields, SceneEntry.ofJson? (.obj fields) =
      some ⟨((Json.obj fields).get? "sceneId").bind Node.looseId,
        Space.ofJson? ((Json.obj fields).get? "spaceData")⟩) ∧
    (∀ items, items.length ≤ 2 → SceneEntry.ofJson? (.arr items) =
      some ⟨items[0]?.bind Node.looseId, Space.ofJson? items[1]?⟩) ∧
    (∀ s, Node.looseId (.str s) = some s) ∧ (∀ n, Node.looseId (.num n) = some (Json.numberText n)) ∧
    (∀ v, (∀ s, v ≠ .str s) → (∀ n, v ≠ .num n) → Node.looseId v = none) := by
  refine ⟨Flow.ofJson_ok_iff, Flow.ofJson_eq_error_iff, rfl, ?members,
    Space.isSome_ofJson?_iff,
    fun fields => ⟨_, Space.ofJson?_obj fields, Space.spaceRead_build fields⟩,
    Node.isSome_ofJson?_iff, Node.ofJson?_obj, fun _ => Node.ofJson?_arr,
    SceneEntry.isSome_ofJson?_iff, SceneEntry.ofJson?_obj, fun _ => SceneEntry.ofJson?_arr,
    fun _ => rfl, fun _ => rfl, ?otherIds⟩
  case members =>
    intro fields f h
    rw [Flow.ofJson_obj, Except.ok.injEq] at h
    exact h ▸ Flow.flowRead_build fields
  case otherIds =>
    intro v hs hn
    cases v with
    | str s => exact absurd rfl (hs s)
    | num n => exact absurd rfl (hn n)
    | _ => rfl

end SceneScript
