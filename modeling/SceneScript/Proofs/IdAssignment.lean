import Mathlib
import SceneScript.Compile.Build

/-!
# Id assignment

Before any category compiles, a build gives every extracted node without a usable id the next
id of the shared counter. This module describes the outcome without the counter: the nodes,
tagged with their categories' prefixes in the order space, entity, component, event, action,
data, universo, light, are `assignedFrom` the start, that is, the node at position `i`, when it
has no usable id, gets `pfx_k` for `k` the start plus the number of id-less nodes before it,
taken modulo `2^64`. The counter ends at the start plus the number of id-less nodes, modulo
`2^64`. A generated id is never blank, so afterwards every node has a usable id, and assigning
again draws nothing.
-/

namespace SceneScript

/-! ## Usable ids -/

namespace Text

theorem all_isBlank_of_trimChars_eq_nil {cs : List Char} (h : trimChars cs = []) :
    ∀ c ∈ cs, isBlank c = true := by
  intro c hc
  unfold trimChars at h
  rw [List.reverse_eq_nil_iff, List.dropWhile_eq_nil_iff] at h
  rw [← List.takeWhile_append_dropWhile (p := isBlank) (l := cs), List.mem_append] at hc
  rcases hc with hc | hc
  · exact List.mem_takeWhile_imp hc
  · simpa using h c (List.mem_reverse.2 hc)

theorem trim_isEmpty_eq_false {s : String} {c : Char} (hc : c ∈ s.toList)
    (hblank : isBlank c = false) : (trim s).isEmpty = false := by
  rw [String.isEmpty_eq_false_iff, trim, Ne, String.ofList_eq_empty_iff]
  intro h
  simpa [hblank] using all_isBlank_of_trimChars_eq_nil h c hc

end Text

namespace Node

theorem id?_of_rawId {n : Node} {i : String} (h : n.rawId = some i)
    (hi : (Text.trim i).isEmpty = false) : n.id? = some i := by
  simp [id?, h, hi]

theorem idOrDraw_of_id? {n : Node} {i : String} (h : n.id? = some i) (pfx : String)
    (c : IdCounter) : n.idOrDraw pfx c = (i, c) := by
  simp [idOrDraw, h]

theorem idOrDraw_snd_of_isSome {n : Node} (h : n.id?.isSome) (pfx : String) (c : IdCounter) :
    (n.idOrDraw pfx c).2 = c := by
  obtain ⟨i, hi⟩ := Option.isSome_iff_exists.1 h
  rw [idOrDraw_of_id? hi]

/-- The node itself when it has a usable id, else the node with the id `pfx_k`, `k` wrapped to
64 bits. -/
def withGeneratedId (n : Node) (pfx : String) (k : Nat) : Node :=
  match n.id? with
  | some _ => n
  | none => { n with rawId := some (pfx ++ "_" ++ toString (k % UInt64.size)) }

theorem withGeneratedId_mod (n : Node) (pfx : String) (k : Nat) :
    n.withGeneratedId pfx (k % UInt64.size) = n.withGeneratedId pfx k := by
  unfold withGeneratedId
  split <;> simp

theorem id?_generated (n : Node) (pfx digits : String) :
    ({ n with rawId := some (pfx ++ "_" ++ digits) } : Node).id? =
      some (pfx ++ "_" ++ digits) := by
  refine id?_of_rawId rfl (Text.trim_isEmpty_eq_false (c := '_') ?_ (by decide))
  simp

theorem isSome_id?_withGeneratedId (n : Node) (pfx : String) (k : Nat) :
    (n.withGeneratedId pfx k).id?.isSome := by
  unfold withGeneratedId
  split
  · rename_i h
    simp [h]
  · simp [id?_generated]

end Node

/-! ## The outcome of assigning -/

def missingIds (l : List Node) : Nat :=
  l.countP fun n => n.id?.isNone

/-- Nodes tagged with their categories' prefixes, each node without a usable id given the
number `k` plus the count of such nodes before it. -/
def assignedFrom (k : Nat) (l : List (String × Node)) : List (String × Node) :=
  l.mapIdx fun i p => (p.1, p.2.withGeneratedId p.1 (k + missingIds ((l.take i).map Prod.snd)))

theorem missingIds_append (l₁ l₂ : List Node) :
    missingIds (l₁ ++ l₂) = missingIds l₁ + missingIds l₂ := by
  simp [missingIds]

theorem assignedFrom_append (k : Nat) (l₁ l₂ : List (String × Node)) :
    assignedFrom k (l₁ ++ l₂) =
      assignedFrom k l₁ ++ assignedFrom (k + missingIds (l₁.map Prod.snd)) l₂ := by
  unfold assignedFrom
  rw [List.mapIdx_append]
  congr 1
  · rw [List.mapIdx_eq_mapIdx_iff]
    intro i hi
    rw [List.take_append_of_le_length (by omega)]
  · rw [List.mapIdx_eq_mapIdx_iff]
    intro i hi
    rw [List.take_append, List.take_of_length_le (by omega), Nat.add_sub_cancel]
    simp [missingIds, Nat.add_assoc]

theorem assignedFrom_mod (k : Nat) (l : List (String × Node)) :
    assignedFrom (k % UInt64.size) l = assignedFrom k l := by
  unfold assignedFrom
  rw [List.mapIdx_eq_mapIdx_iff]
  intro i hi
  rw [← Node.withGeneratedId_mod, Nat.mod_add_mod, Node.withGeneratedId_mod]

theorem assignedFrom_cons (k : Nat) (p : String × Node) (l : List (String × Node)) :
    assignedFrom k (p :: l) =
      (p.1, p.2.withGeneratedId p.1 k) :: assignedFrom (k + missingIds [p.2]) l := by
  rw [← List.singleton_append, assignedFrom_append]
  simp [assignedFrom, missingIds]

theorem isSome_id?_of_mem_assignedFrom {k : Nat} {l : List (String × Node)} {p : String × Node}
    (h : p ∈ assignedFrom k l) : p.2.id?.isSome := by
  obtain ⟨i, hi, rfl⟩ := List.mem_mapIdx.1 h
  exact Node.isSome_id?_withGeneratedId _ _ _

/-! ## The counter -/

namespace IdCounter

theorem draw_next (c : IdCounter) (pfx : String) :
    (c.draw pfx).2.next.toNat = (c.next.toNat + 1) % UInt64.size := by
  simp [draw, UInt64.toNat_add, UInt64.size]

theorem draw_id (c : IdCounter) (pfx : String) :
    (c.draw pfx).1 = pfx ++ "_" ++ toString c.next.toNat := rfl

theorem startingAt_next (n : Nat) : (startingAt n).next.toNat = n % UInt64.size := by
  simp [startingAt, UInt64.size]

theorem eq_startingAt {c : IdCounter} {n : Nat} (h : c.next.toNat = n % UInt64.size) :
    c = startingAt n := by
  rcases c with ⟨next⟩
  congr 1
  apply UInt64.toNat_inj.1
  rw [h, ← startingAt_next]
  rfl

end IdCounter

namespace Build

theorem assignIds_cons_counter (pfx : String) (n : Node) (rest : List Node) (c : IdCounter) :
    (assignIds pfx (n :: rest) c).2 = (assignIds pfx rest (n.idOrDraw pfx c).2).2 := by
  cases h : n.id? <;> simp [assignIds, Node.idOrDraw, h]

theorem assignIds_spec (pfx : String) (l : List Node) (c : IdCounter) :
    (assignIds pfx l c).1.map (pfx, ·) = assignedFrom c.next.toNat (l.map (pfx, ·)) ∧
      (assignIds pfx l c).2.next.toNat = (c.next.toNat + missingIds l) % UInt64.size := by
  induction l generalizing c with
  | nil =>
      simp [assignIds, assignedFrom, missingIds, Nat.mod_eq_of_lt c.next.toNat_lt]
  | cons n rest ih =>
      rw [List.map_cons, assignedFrom_cons]
      cases hid : n.id? with
      | some i =>
          obtain ⟨hl, hc⟩ := ih c
          simp [assignIds, hid, Node.withGeneratedId, hl, hc, missingIds]
      | none =>
          obtain ⟨hl, hc⟩ := ih (c.draw pfx).2
          rw [IdCounter.draw_next, ← assignedFrom_mod] at hl
          rw [IdCounter.draw_next, Nat.mod_add_mod] at hc
          have hfresh : n.withGeneratedId pfx c.next.toNat =
              { n with rawId := some (c.draw pfx).1 } := by
            simp [Node.withGeneratedId, hid, IdCounter.draw_id,
              Nat.mod_eq_of_lt c.next.toNat_lt]
          simp [assignIds, hid, hl, hc, hfresh, missingIds, assignedFrom_mod, Nat.add_assoc,
            Nat.add_comm 1]

theorem assignIds_of_isSome (pfx : String) {l : List Node} (h : ∀ n ∈ l, n.id?.isSome)
    (c : IdCounter) : assignIds pfx l c = (l, c) := by
  induction l with
  | nil => rfl
  | cons n rest ih =>
      obtain ⟨i, hi⟩ := Option.isSome_iff_exists.1 (h n (by simp))
      simp [assignIds, hi, ih (fun m hm => h m (by simp [hm]))]

end Build

namespace ExtractedNodes

def tagged (x : ExtractedNodes) : List (String × Node) :=
  x.spaces.map ("space", ·) ++ x.entities.map ("entity", ·) ++
    x.components.map ("component", ·) ++ x.events.map ("event", ·) ++
    x.actions.map ("action", ·) ++ x.datas.map ("data", ·) ++
    x.universo.map ("universo", ·) ++ x.lights.map ("light", ·)

/-- Every node has a usable id. -/
def HasIds (x : ExtractedNodes) : Prop :=
  ∀ p ∈ x.tagged, p.2.id?.isSome

theorem HasIds.of_tagged {x : ExtractedNodes} (h : x.HasIds) (pfx : String) {l : List Node}
    (hl : ∀ n ∈ l, (pfx, n) ∈ x.tagged) : ∀ n ∈ l, n.id?.isSome :=
  fun n hn => h (pfx, n) (hl n hn)

theorem HasIds.categories {x : ExtractedNodes} (h : x.HasIds) :
    (∀ n ∈ x.spaces, n.id?.isSome) ∧ (∀ n ∈ x.entities, n.id?.isSome) ∧
      (∀ n ∈ x.components, n.id?.isSome) ∧ (∀ n ∈ x.events, n.id?.isSome) ∧
      (∀ n ∈ x.actions, n.id?.isSome) ∧ (∀ n ∈ x.datas, n.id?.isSome) ∧
      ∀ n ∈ x.lights, n.id?.isSome := by
  refine ⟨h.of_tagged "space" ?_, h.of_tagged "entity" ?_, h.of_tagged "component" ?_,
    h.of_tagged "event" ?_, h.of_tagged "action" ?_, h.of_tagged "data" ?_,
    h.of_tagged "light" ?_⟩ <;>
  intro n hn <;>
  simp [tagged, hn]

end ExtractedNodes

namespace Build

/-- Assigning ids in every category: the tagged nodes are assigned from the counter, in
category order, and the counter moves on by the number of id-less nodes. -/
theorem assignAll_spec (x : ExtractedNodes) (c : IdCounter) :
    (assignAll x c).1.tagged = assignedFrom c.next.toNat x.tagged ∧
      (assignAll x c).2.next.toNat =
        (c.next.toNat + missingIds (x.tagged.map Prod.snd)) % UInt64.size := by
  unfold assignAll
  rcases h1 : assignIds "space" x.spaces c with ⟨spaces, c1⟩
  rcases h2 : assignIds "entity" x.entities c1 with ⟨entities, c2⟩
  rcases h3 : assignIds "component" x.components c2 with ⟨components, c3⟩
  rcases h4 : assignIds "event" x.events c3 with ⟨events, c4⟩
  rcases h5 : assignIds "action" x.actions c4 with ⟨actions, c5⟩
  rcases h6 : assignIds "data" x.datas c5 with ⟨datas, c6⟩
  rcases h7 : assignIds "universo" x.universo c6 with ⟨universo, c7⟩
  rcases h8 : assignIds "light" x.lights c7 with ⟨lights, c8⟩
  obtain ⟨t1, k1⟩ := h1 ▸ assignIds_spec "space" x.spaces c
  obtain ⟨t2, k2⟩ := h2 ▸ assignIds_spec "entity" x.entities c1
  obtain ⟨t3, k3⟩ := h3 ▸ assignIds_spec "component" x.components c2
  obtain ⟨t4, k4⟩ := h4 ▸ assignIds_spec "event" x.events c3
  obtain ⟨t5, k5⟩ := h5 ▸ assignIds_spec "action" x.actions c4
  obtain ⟨t6, k6⟩ := h6 ▸ assignIds_spec "data" x.datas c5
  obtain ⟨t7, k7⟩ := h7 ▸ assignIds_spec "universo" x.universo c6
  obtain ⟨t8, k8⟩ := h8 ▸ assignIds_spec "light" x.lights c7
  simp only [h2, h3, h4, h5, h6, h7, h8] at *
  -- the categories' assignments chain: each starts where the one before left the counter
  simp only [ExtractedNodes.tagged, List.map_append, t1, t2, t3, t4, t5, t6, t7, t8, k1, k2, k3,
    k4, k5, k6, k7, k8, assignedFrom_append, assignedFrom_mod, Nat.mod_add_mod, List.map_map,
    Function.comp_def, List.map_id', missingIds_append, Nat.add_assoc, and_self]

theorem hasIds_assignAll (x : ExtractedNodes) (c : IdCounter) : (assignAll x c).1.HasIds := by
  intro p hp
  rw [(assignAll_spec x c).1] at hp
  exact isSome_id?_of_mem_assignedFrom hp

end Build

end SceneScript
