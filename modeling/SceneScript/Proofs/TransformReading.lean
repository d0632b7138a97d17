import Mathlib
import SceneScript.Proofs.UnitColors

/-!
# Reading a transform

`Transform.ofJson` reads any raw value, and its nine coordinates are always finite: every axis
is either a default (zero or one) or a number that `Json.toNumber?` accepted, and that reader
keeps only finite numbers.

A text is read as JSON first. The reader refuses values nested `Json.nestingRoom` levels deep,
so every value it gives, and its canonical form, is nested less deeply than that. The depth of
a value counts its nested arrays and objects: a scalar has depth zero, `[]` and `[1]` depth one.

An object gives each part of the transform from the first of its keys whose value is not
`null`, and a triple is read axis by axis, each axis that does not read as a number keeping the
default's.
-/

namespace SceneScript

namespace Json

mutual
def depth : Json → Nat
  | arr items => itemsDepth items + 1
  | obj fields => fieldsDepth fields + 1
  | _ => 0

def itemsDepth : List Json → Nat
  | [] => 0
  | v :: rest => max (depth v) (itemsDepth rest)

def fieldsDepth : List (String × Json) → Nat
  | [] => 0
  | (_, v) :: rest => max (depth v) (fieldsDepth rest)
end

/-! ## Bounds on the depth -/

theorem itemsDepth_lt {items : List Json} {n : Nat} (hn : 0 < n) (h : ∀ v ∈ items, depth v < n) :
    itemsDepth items < n := by
  induction items with
  | nil => exact hn
  | cons v rest ih =>
    simp only [List.mem_cons, forall_eq_or_imp] at h
    simp only [itemsDepth, max_lt_iff]
    exact ⟨h.1, ih h.2⟩

theorem fieldsDepth_lt {fields : List (String × Json)} {n : Nat} (hn : 0 < n)
    (h : ∀ p ∈ fields, depth p.2 < n) : fieldsDepth fields < n := by
  induction fields with
  | nil => exact hn
  | cons p rest ih =>
    simp only [List.mem_cons, forall_eq_or_imp] at h
    simp only [fieldsDepth, max_lt_iff]
    exact ⟨h.1, ih h.2⟩

theorem depth_le_fieldsDepth {fields : List (String × Json)} {p : String × Json}
    (h : p ∈ fields) : depth p.2 ≤ fieldsDepth fields := by
  induction fields with
  | nil => cases h
  | cons q rest ih =>
    simp only [fieldsDepth]
    rcases List.mem_cons.1 h with rfl | h
    · exact le_max_left _ _
    · exact le_trans (ih h) (le_max_right _ _)

theorem mem_insertField {k : String} {v : Json} {acc : List (String × Json)}
    {p : String × Json} (h : p ∈ insertField k v acc) : p = (k, v) ∨ p ∈ acc := by
  induction acc with
  | nil => exact Or.inl (List.mem_singleton.1 h)
  | cons q rest ih =>
    simp only [insertField] at h
    split_ifs at h
    · rcases List.mem_cons.1 h with h | h
      · exact Or.inl h
      · exact Or.inr h
    · rcases List.mem_cons.1 h with h | h
      · exact Or.inl h
      · exact Or.inr (List.mem_cons_of_mem q h)
    · rcases List.mem_cons.1 h with rfl | h
      · exact Or.inr List.mem_cons_self
      · exact (ih h).imp id (List.mem_cons_of_mem q)

theorem mem_sortFields {fields : List (String × Json)} {p : String × Json}
    (h : p ∈ sortFields fields) : p ∈ fields := by
  have hfold : ∀ (fs acc : List (String × Json)),
      p ∈ fs.foldl (fun acc kv => insertField kv.1 kv.2 acc) acc → p ∈ fs ∨ p ∈ acc := by
    intro fs
    induction fs with
    | nil => exact fun acc h => Or.inr h
    | cons q rest ih =>
      intro acc h
      rcases ih _ h with h | h
      · exact Or.inl (List.mem_cons_of_mem q h)
      · rcases mem_insertField h with rfl | h
        · exact Or.inl List.mem_cons_self
        · exact Or.inr h
  exact (hfold fields [] h).resolve_right List.not_mem_nil

theorem fieldsDepth_sortFields_le (fields : List (String × Json)) :
    fieldsDepth (sortFields fields) ≤ fieldsDepth fields :=
  Nat.lt_succ_iff.1 (fieldsDepth_lt (Nat.succ_pos _) fun _ hp =>
    Nat.lt_succ_of_le (depth_le_fieldsDepth (mem_sortFields hp)))

mutual
theorem depth_canonical_le : ∀ v : Json, depth (canonical v) ≤ depth v
  | arr items => by
    simp only [canonical, depth, Nat.add_le_add_iff_right]
    exact itemsDepth_canonical_le items
  | obj fields => by
    simp only [canonical, depth, Nat.add_le_add_iff_right]
    exact le_trans (fieldsDepth_sortFields_le _) (fieldsDepth_canonical_le fields)
  | null | bool _ | num _ | str _ => le_rfl

theorem itemsDepth_canonical_le : ∀ items : List Json,
    itemsDepth (canonicalItems items) ≤ itemsDepth items
  | [] => le_rfl
  | v :: rest => by
    simp only [canonicalItems, itemsDepth]
    exact max_le_max (depth_canonical_le v) (itemsDepth_canonical_le rest)

theorem fieldsDepth_canonical_le : ∀ fields : List (String × Json),
    fieldsDepth (canonicalFields fields) ≤ fieldsDepth fields
  | [] => le_rfl
  | (_, v) :: rest => by
    simp only [canonicalFields, fieldsDepth]
    exact max_le_max (depth_canonical_le v) (fieldsDepth_canonical_le rest)
end

/-! ## The reader refuses deep nesting -/

section Reader

variable (number : List Char → Option (JsonNumber × List Char))

/-- With fuel `fuel`, a value read with room `room` is nested less deeply than `room`. -/
def ValuesBelow (fuel : Nat) : Prop :=
  ∀ room cs v rest, 0 < room → readValue number fuel room cs = some (v, rest) → depth v < room

/-- With fuel `fuel`, the items read with room `room`, after items below it, make an array of
depth at most `room`. -/
def ItemsBelow (fuel : Nat) : Prop :=
  ∀ room cs acc v rest, 0 < room → (∀ a ∈ acc, depth a < room) →
    readItems number fuel room cs acc = some (v, rest) → depth v ≤ room

/-- With fuel `fuel`, the members read with room `room`, after members below it, make an object
of depth at most `room`. -/
def MembersBelow (fuel : Nat) : Prop :=
  ∀ room cs acc v rest, 0 < room → (∀ p ∈ acc, depth p.2 < room) →
    readMembers number fuel room cs acc = some (v, rest) → depth v ≤ room

variable {number} {fuel : Nat}

theorem valuesBelow_succ (hItems : ItemsBelow number fuel) (hMembers : MembersBelow number fuel) :
    ValuesBelow number (fuel + 1) := by
  intro room cs v rest hroom h
  rw [readValue.eq_2] at h
  split at h
  · obtain ⟨rfl, -⟩ := Prod.mk.inj (Option.some.inj h)
    simpa [depth] using hroom
  · obtain ⟨rfl, -⟩ := Prod.mk.inj (Option.some.inj h)
    simpa [depth] using hroom
  · obtain ⟨rfl, -⟩ := Prod.mk.inj (Option.some.inj h)
    simpa [depth] using hroom
  · obtain ⟨_, -, hv⟩ := Option.map_eq_some_iff.1 h
    obtain ⟨rfl, -⟩ := Prod.mk.inj hv
    simpa [depth] using hroom
  · rename_i _ inner _
    split_ifs at h with hle
    split at h
    · obtain ⟨rfl, -⟩ := Prod.mk.inj (Option.some.inj h)
      simp only [depth, itemsDepth]
      omega
    · have hv := hItems (room - 1) inner [] v rest (by omega) (by simp) h
      omega
  · rename_i _ inner _
    split_ifs at h with hle
    split at h
    · obtain ⟨rfl, -⟩ := Prod.mk.inj (Option.some.inj h)
      simp only [depth, fieldsDepth]
      omega
    · have hv := hMembers (room - 1) inner [] v rest (by omega) (by simp) h
      omega
  · obtain ⟨_, -, hv⟩ := Option.map_eq_some_iff.1 h
    obtain ⟨rfl, -⟩ := Prod.mk.inj hv
    simpa [depth] using hroom

theorem itemsBelow_succ (hValues : ValuesBelow number fuel) (hItems : ItemsBelow number fuel) :
    ItemsBelow number (fuel + 1) := by
  intro room cs acc v rest hroom hacc h
  rw [readItems.eq_2] at h
  split at h
  · cases h
  · rename_i w after hw
    have hnext : ∀ a ∈ w :: acc, depth a < room := by
      intro a ha
      rcases List.mem_cons.1 ha with rfl | ha
      · exact hValues room cs a after hroom hw
      · exact hacc a ha
    split at h
    · exact hItems room _ (w :: acc) v rest hroom hnext h
    · obtain ⟨rfl, -⟩ := Prod.mk.inj (Option.some.inj h)
      have hitems := itemsDepth_lt hroom fun a ha => hnext a (List.mem_reverse.1 ha)
      simp only [depth]
      omega
    · cases h

theorem membersBelow_succ (hValues : ValuesBelow number fuel)
    (hMembers : MembersBelow number fuel) : MembersBelow number (fuel + 1) := by
  intro room cs acc v rest hroom hacc h
  rw [readMembers.eq_2] at h
  split at h
  · split at h
    · cases h
    · rename_i k _ _
      split at h
      · split at h
        · cases h
        · rename_i w after hw
          have hnext : ∀ p ∈ (k, w) :: acc, depth p.2 < room := by
            intro p hp
            rcases List.mem_cons.1 hp with rfl | hp
            · exact hValues room _ w after hroom hw
            · exact hacc p hp
          split at h
          · exact hMembers room _ ((k, w) :: acc) v rest hroom hnext h
          · obtain ⟨rfl, -⟩ := Prod.mk.inj (Option.some.inj h)
            have hfields := fieldsDepth_lt hroom fun p hp => hnext p (List.mem_reverse.1 hp)
            simp only [depth]
            omega
          · cases h
      · cases h
  · cases h

variable (number)

/-- What the reader gives is nested less deeply than its room, for every fuel; by induction on
the fuel, the three readers at once. -/
theorem read_depth : ∀ fuel : Nat,
    ValuesBelow number fuel ∧ ItemsBelow number fuel ∧ MembersBelow number fuel := by
  intro fuel
  induction fuel with
  | zero =>
    refine ⟨fun _ _ _ _ _ h => ?_, fun _ _ _ _ _ _ _ h => ?_, fun _ _ _ _ _ _ _ h => ?_⟩ <;>
      simp [readValue, readItems, readMembers] at h
  | succ fuel ih =>
    obtain ⟨hValues, hItems, hMembers⟩ := ih
    exact ⟨valuesBelow_succ hItems hMembers, itemsBelow_succ hValues hItems,
      membersBelow_succ hValues hMembers⟩

end Reader

theorem parse_depth {s : String} {v : Json} (h : parse s = some v) : depth v < nestingRoom := by
  unfold parse at h
  dsimp only at h
  split at h
  · rename_i w rest hw
    split_ifs at h
    cases h
    exact (read_depth readNumber _).1 _ _ _ _ (by decide) hw
  · cases h

theorem parseCanonical_depth {s : String} {v : Json} (h : parseCanonical s = some v) :
    depth v < nestingRoom := by
  obtain ⟨w, hw, rfl⟩ := Option.map_eq_some_iff.1 h
  exact lt_of_le_of_lt (depth_canonical_le w) (parse_depth hw)

end Json

namespace Vec3

def IsFinite (v : Vec3) : Prop :=
  v.x.isFinite = true ∧ v.y.isFinite = true ∧ v.z.isFinite = true

instance : DecidablePred IsFinite := fun _ => inferInstanceAs (Decidable (_ ∧ _ ∧ _))

theorem isFinite_zero : zero.IsFinite := ⟨rfl, rfl, rfl⟩

theorem isFinite_one : one.IsFinite := by
  -- unfold the triple only, never the number one
  simp only [IsFinite, one]
  exact ⟨Binary64.isFinite_one, Binary64.isFinite_one, Binary64.isFinite_one⟩

theorem axisOr_eq (v? : Option Json) (fallback : Binary64) :
    axisOr v? fallback = (v? >>= Json.toNumber?).getD fallback := by
  unfold axisOr
  cases v? >>= Json.toNumber? <;> rfl

theorem isFinite_axisOr (v? : Option Json) {fallback : Binary64}
    (h : fallback.isFinite = true) : (axisOr v? fallback).isFinite = true := by
  unfold axisOr
  split
  · rename_i x hx
    obtain ⟨w, -, hw⟩ := Option.bind_eq_some_iff.1 hx
    exact Json.toNumber?_isFinite hw
  · exact h

theorem isFinite_ofJson (raw : Option Json) {dflt : Vec3} (h : dflt.IsFinite) :
    (ofJson raw dflt).IsFinite := by
  obtain ⟨hx, hy, hz⟩ := h
  unfold ofJson
  split
  · exact ⟨isFinite_axisOr _ hx, isFinite_axisOr _ hy, isFinite_axisOr _ hz⟩
  · exact ⟨isFinite_axisOr _ hx, isFinite_axisOr _ hy, isFinite_axisOr _ hz⟩
  · exact ⟨hx, hy, hz⟩

end Vec3

namespace Transform

def IsFinite (t : Transform) : Prop :=
  t.position.IsFinite ∧ t.rotation.IsFinite ∧ t.scale.IsFinite

instance : DecidablePred IsFinite := fun _ => inferInstanceAs (Decidable (_ ∧ _ ∧ _))

theorem isFinite_default : default.IsFinite :=
  ⟨Vec3.isFinite_zero, Vec3.isFinite_zero, Vec3.isFinite_one⟩

theorem isFinite_ofObject (source : Json) : (ofObject source).IsFinite :=
  ⟨Vec3.isFinite_ofJson _ Vec3.isFinite_zero, Vec3.isFinite_ofJson _ Vec3.isFinite_zero,
    Vec3.isFinite_ofJson _ Vec3.isFinite_one⟩

theorem isFinite_ofJson (raw : Option Json) : (ofJson raw).IsFinite := by
  unfold ofJson
  split
  · exact isFinite_ofObject _
  · exact isFinite_default

theorem member?_single (source : Json) (k : String) :
    member? source [k] = (source.get? k).bind Json.nonNull? := by
  simp only [member?, List.findSome?_cons, List.findSome?_nil]
  cases (source.get? k).bind Json.nonNull? <;> rfl

theorem member?_pair (source : Json) (k k' : String) :
    member? source [k, k'] =
      ((source.get? k).bind Json.nonNull?).or ((source.get? k').bind Json.nonNull?) := by
  simp only [member?, List.findSome?_cons, List.findSome?_nil]
  cases (source.get? k).bind Json.nonNull? <;> cases (source.get? k').bind Json.nonNull? <;> rfl

theorem ofJson_str (s : String) :
    ofJson (some (.str s)) =
      match Json.parseCanonical s with
      | some (.obj fields) => ofJson (some (.obj fields))
      | _ => default := by
  cases h : Json.parseCanonical s with
  | none => simp only [ofJson, source?, h]
  | some v => cases v <;> simp only [ofJson, source?, h]

/-- Reading a transform is total and lenient. Its nine coordinates are finite for every raw
value. A text is read as the JSON it holds when that is an object, and as the default
otherwise, and the JSON reader gives no value nested 128 levels deep. An object takes its
position from the first of `pos` and `position` that is not `null`, its rotation from `rot` and
`rotation`, its scale from `scale`. A triple takes each axis of an array or an `{x, y, z}`
object that reads as a number, the default's axis where it does not, and is the default for
anything else. -/
theorem reading_falls_back_to_finite_defaults :
    (∀ raw : Option Json, (ofJson raw).IsFinite) ∧
    (∀ s : String, ofJson (some (.str s)) =
      match Json.parseCanonical s with
      | some (.obj fields) => ofJson (some (.obj fields))
      | _ => default) ∧
    (∀ (s : String) (v : Json), Json.parseCanonical s = some v → v.depth < 128) ∧
    (∀ fields : List (String × Json), ofJson (some (.obj fields)) =
      ⟨Vec3.ofJson ((((Json.obj fields).get? "pos").bind Json.nonNull?).or
          (((Json.obj fields).get? "position").bind Json.nonNull?)) Vec3.zero,
        Vec3.ofJson ((((Json.obj fields).get? "rot").bind Json.nonNull?).or
          (((Json.obj fields).get? "rotation").bind Json.nonNull?)) Vec3.zero,
        Vec3.ofJson (((Json.obj fields).get? "scale").bind Json.nonNull?) Vec3.one⟩) ∧
    (∀ (items : List Json) (dflt : Vec3), Vec3.ofJson (some (.arr items)) dflt =
      ⟨(items[0]? >>= Json.toNumber?).getD dflt.x, (items[1]? >>= Json.toNumber?).getD dflt.y,
        (items[2]? >>= Json.toNumber?).getD dflt.z⟩) ∧
    (∀ (fields : List (String × Json)) (dflt : Vec3), Vec3.ofJson (some (.obj fields)) dflt =
      ⟨((Json.obj fields).get? "x" >>= Json.toNumber?).getD dflt.x,
        ((Json.obj fields).get? "y" >>= Json.toNumber?).getD dflt.y,
        ((Json.obj fields).get? "z" >>= Json.toNumber?).getD dflt.z⟩) ∧
    (∀ (raw : Option Json) (dflt : Vec3), (∀ items, raw ≠ some (.arr items)) →
      (∀ fields, raw ≠ some (.obj fields)) → Vec3.ofJson raw dflt = dflt) := by
  refine ⟨isFinite_ofJson, ofJson_str, fun s v h => Json.parseCanonical_depth h, ?object, ?array,
    ?fields, ?other⟩
  case object =>
    intro fields
    simp only [ofJson, source?, ofObject, member?_pair, member?_single]
  case array =>
    intro items dflt
    simp only [Vec3.ofJson, Vec3.axisOr_eq]
  case fields =>
    intro fields dflt
    simp only [Vec3.ofJson, Vec3.axisOr_eq]
  case other =>
    intro raw dflt harr hobj
    unfold Vec3.ofJson
    split
    · exact absurd rfl (harr _)
    · exact absurd rfl (hobj _)
    · rfl

/-- A number written as text is no triple: the triple read from it is the default. -/
theorem triple_of_text_is_default : Vec3.ofJson (some (.str "1")) Vec3.one = Vec3.one :=
  reading_falls_back_to_finite_defaults.2.2.2.2.2.2 (some (.str "1")) Vec3.one (by simp) (by simp)

end Transform

end SceneScript
