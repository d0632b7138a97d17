import Mathlib
import SceneScript.Proofs.LineFeeds

/-!
# Every script of a build ends its lines with line feeds

The writers only ever append to a script: a line of text, the opening or the closing line of a
block, a comment. Each writer of the compilers is shown to keep a script free of carriage
returns and of the two Unicode separators, given that the text it interpolates is: the pieces
that come from the flow go through `Script.str`, `Script.json`, `Script.ident`,
`Script.number` or `ScriptWriter.comment`, which the previous module shows to be free of
them. The list writers follow by induction over their nodes, and the build theorem composes
the category compilers.
-/

namespace SceneScript

open Script ScriptWriter

theorem bind_eq_ok {ε α β : Type} {x : Except ε α} {f : α → Except ε β} {b : β} :
    x >>= f = .ok b ↔ ∃ a, x = .ok a ∧ f a = .ok b := by
  cases x with
  | error e => exact ⟨fun h => (nomatch h), fun ⟨_, h, _⟩ => (nomatch h)⟩
  | ok a => simp

theorem map_eq_ok {ε α β : Type} {f : α → β} {x : Except ε α} {b : β} :
    x.map f = .ok b ↔ ∃ a, x = .ok a ∧ f a = b := by
  cases x with
  | error e => exact ⟨fun h => (nomatch h), fun ⟨_, h, _⟩ => (nomatch h)⟩
  | ok a => simp [Except.map]

/-! ## Writer steps -/

namespace ScriptWriter

variable {w : ScriptWriter} {t : String}

theorem lineFeedOnly_line_of (hw : LineFeedOnly w.out) (ht : LineFeedOnly t) :
    LineFeedOnly (w.line t).out :=
  lineFeedOnly_line.2 ⟨hw, lineFeedOnly_lineText ht _⟩

theorem lineFeedOnly_openBlock_of (hw : LineFeedOnly w.out) (ht : LineFeedOnly t) :
    LineFeedOnly (w.openBlock t).out :=
  lineFeedOnly_openBlock.2 ⟨hw, lineFeedOnly_lineText ht _⟩

theorem lineFeedOnly_closeBlock_of (hw : LineFeedOnly w.out) (ht : LineFeedOnly t) :
    LineFeedOnly (w.closeBlock t).out :=
  lineFeedOnly_closeBlock.2 ⟨hw, lineFeedOnly_lineText ht _⟩

end ScriptWriter

/-! ## Attachment fragments -/

namespace Fragment

variable {var : String} {w : ScriptWriter}

theorem lineFeedOnly_render (p : RenderParams) (hvar : LineFeedOnly var)
    (hw : LineFeedOnly w.out) : LineFeedOnly (render p var w).out := by
  unfold render
  dsimp only
  split <;> simp only [lineFeedOnly_line, hw, true_and] <;> and_intros
  all_goals
    apply lineFeedOnly_lineText
    simp only [lineFeedOnly_block, List.forall_mem_cons, within_append, lineFeedOnly_str,
      lineFeedOnly_bool, Rgb.lineFeedOnly_scriptText, hvar, List.not_mem_nil,
      IsEmpty.forall_iff, implies_true, and_true, true_and]
    and_intros <;> exact within_ofList (by decide)

theorem lineFeedOnly_inventory (p : InventoryParams) (hvar : LineFeedOnly var)
    (hw : LineFeedOnly w.out) : LineFeedOnly (inventory p var w).out := by
  unfold inventory
  refine lineFeedOnly_line_of hw (lineFeedOnly_block.2 ?_)
  simp only [List.forall_mem_cons, within_append, lineFeedOnly_number, hvar, List.not_mem_nil,
    IsEmpty.forall_iff, implies_true, and_true, true_and]
  and_intros <;> exact within_ofList (by decide)

theorem lineFeedOnly_trading (p : TradingParams) (hvar : LineFeedOnly var)
    (hw : LineFeedOnly w.out) : LineFeedOnly (trading p var w).out := by
  unfold trading
  refine lineFeedOnly_line_of hw (lineFeedOnly_block.2 ?_)
  simp only [List.forall_mem_cons, within_append, lineFeedOnly_number, lineFeedOnly_commaList,
    List.forall_mem_map, lineFeedOnly_str, hvar, List.not_mem_nil, IsEmpty.forall_iff,
    implies_true, and_true, true_and]
  and_intros <;> exact within_ofList (by decide)

theorem lineFeedOnly_mineable (p : MineableParams) (hvar : LineFeedOnly var)
    (hw : LineFeedOnly w.out) : LineFeedOnly (mineable p var w).out := by
  unfold mineable
  refine lineFeedOnly_line_of hw (lineFeedOnly_block.2 ?_)
  simp only [List.forall_mem_cons, within_append, lineFeedOnly_number, lineFeedOnly_str, hvar,
    List.not_mem_nil, IsEmpty.forall_iff, implies_true, and_true, true_and]
  and_intros <;> exact within_ofList (by decide)

theorem lineFeedOnly_portal (p : PortalParams) (hvar : LineFeedOnly var)
    (hw : LineFeedOnly w.out) : LineFeedOnly (portal p var w).out := by
  unfold portal
  refine lineFeedOnly_line_of hw (lineFeedOnly_block.2 ?_)
  simp only [List.forall_mem_cons, within_append, lineFeedOnly_number, lineFeedOnly_str, hvar,
    List.not_mem_nil, IsEmpty.forall_iff, implies_true, and_true, true_and]
  and_intros <;> exact within_ofList (by decide)

theorem lineFeedOnly_weapon (p : WeaponParams) (hvar : LineFeedOnly var)
    (hw : LineFeedOnly w.out) : LineFeedOnly (weapon p var w).out := by
  unfold weapon
  refine lineFeedOnly_line_of hw (lineFeedOnly_block.2 ?_)
  simp only [List.forall_mem_cons, within_append, lineFeedOnly_number, hvar, List.not_mem_nil,
    IsEmpty.forall_iff, implies_true, and_true, true_and]
  and_intros <;> exact within_ofList (by decide)

theorem lineFeedOnly_attach? {kind : ComponentKind} {n : Node}
    {fragment : ScriptWriter → Except Fault ScriptWriter} (h : attach? kind n var = some fragment)
    (hvar : LineFeedOnly var) {w' : ScriptWriter} (hw : LineFeedOnly w.out)
    (hf : fragment w = .ok w') : LineFeedOnly w'.out := by
  cases kind <;> simp only [attach?, Option.some.injEq, reduceCtorEq] at h <;> subst h
  case render =>
    obtain ⟨p, hp⟩ := RenderParams.ofNode_ok n
    simp only [hp, ok_bind] at hf
    cases hf
    exact lineFeedOnly_render p hvar hw
  case inventory =>
    simp only [InventoryParams.ofNode_eq, ok_bind] at hf
    cases hf
    exact lineFeedOnly_inventory _ hvar hw
  case trading => cases hf; exact lineFeedOnly_trading _ hvar hw
  case mineable => cases hf; exact lineFeedOnly_mineable _ hvar hw
  case portal => cases hf; exact lineFeedOnly_portal _ hvar hw
  case weapon => cases hf; exact lineFeedOnly_weapon _ hvar hw

end Fragment

/-! ## Behaviours -/

namespace Behavior

variable {w : ScriptWriter}

theorem lineFeedOnly_updateHook {handler : String} (hh : LineFeedOnly handler)
    (hw : LineFeedOnly w.out) : LineFeedOnly (updateHook handler w).out := by
  unfold updateHook
  refine lineFeedOnly_line_of hw (lineFeedOnly_block.2 ?_)
  simp only [List.forall_mem_cons, within_append, hh, List.not_mem_nil, IsEmpty.forall_iff,
    implies_true, and_true]
  and_intros <;> exact within_ofList (by decide)

theorem lineFeedOnly_player (n : Node) (hw : LineFeedOnly w.out) :
    LineFeedOnly (player n w).out := by
  unfold player
  refine lineFeedOnly_updateHook (within_ofList (by decide))
    (lineFeedOnly_line_of hw (lineFeedOnly_block.2 ?_))
  simp only [List.forall_mem_cons, within_append, lineFeedOnly_number, List.not_mem_nil,
    IsEmpty.forall_iff, implies_true, and_true]
  and_intros <;> exact within_ofList (by decide)

theorem lineFeedOnly_interactive (n : Node) (hw : LineFeedOnly w.out) :
    LineFeedOnly (interactive n w).out := by
  unfold interactive
  refine lineFeedOnly_line_of hw (lineFeedOnly_block.2 ?_)
  simp only [List.forall_mem_cons, within_append, lineFeedOnly_number, List.not_mem_nil,
    IsEmpty.forall_iff, implies_true, and_true]
  and_intros <;> exact within_ofList (by decide)

theorem lineFeedOnly_vehicle (n : Node) (hw : LineFeedOnly w.out) :
    LineFeedOnly (vehicle n w).out := by
  unfold vehicle
  refine lineFeedOnly_updateHook (within_ofList (by decide))
    (lineFeedOnly_line_of hw (lineFeedOnly_block.2 ?_))
  simp only [List.forall_mem_cons, within_append, lineFeedOnly_number, List.not_mem_nil,
    IsEmpty.forall_iff, implies_true, and_true]
  and_intros <;> exact within_ofList (by decide)

theorem lineFeedOnly_ship (n : Node) (hw : LineFeedOnly w.out) :
    LineFeedOnly (ship n w).out := by
  unfold ship
  refine lineFeedOnly_closeBlock_of
    (Fragment.lineFeedOnly_inventory _ (within_ofList (by decide))
      (lineFeedOnly_openBlock_of (lineFeedOnly_updateHook (within_ofList (by decide))
        (lineFeedOnly_line_of hw (lineFeedOnly_block.2 ?_))) (within_ofList (by decide))))
    (within_ofList (by decide))
  simp only [List.forall_mem_cons, within_append, lineFeedOnly_number, List.not_mem_nil,
    IsEmpty.forall_iff, implies_true, and_true]
  and_intros <;> exact within_ofList (by decide)

theorem lineFeedOnly_station (n : Node) (hw : LineFeedOnly w.out) :
    LineFeedOnly (station n w).out := by
  unfold station
  refine lineFeedOnly_closeBlock_of
    (Fragment.lineFeedOnly_trading _ (within_ofList (by decide))
      (lineFeedOnly_openBlock_of (lineFeedOnly_line_of hw (lineFeedOnly_block.2 ?_))
        (within_ofList (by decide))))
    (within_ofList (by decide))
  simp only [List.forall_mem_cons, within_append, lineFeedOnly_number, List.not_mem_nil,
    IsEmpty.forall_iff, implies_true, and_true]
  and_intros <;> exact within_ofList (by decide)

theorem lineFeedOnly_asteroid (n : Node) (hw : LineFeedOnly w.out) :
    LineFeedOnly (asteroid n w).out := by
  unfold asteroid
  refine lineFeedOnly_closeBlock_of
    (Fragment.lineFeedOnly_mineable _ (within_ofList (by decide))
      (lineFeedOnly_openBlock_of (lineFeedOnly_updateHook (within_ofList (by decide))
        (lineFeedOnly_line_of hw (lineFeedOnly_block.2 ?_))) (within_ofList (by decide))))
    (within_ofList (by decide))
  simp only [List.forall_mem_cons, within_append, lineFeedOnly_number, List.not_mem_nil,
    IsEmpty.forall_iff, implies_true, and_true]
  and_intros <;> exact within_ofList (by decide)

theorem lineFeedOnly_gate (n : Node) (hw : LineFeedOnly w.out) :
    LineFeedOnly (gate n w).out := by
  unfold gate
  have htarget : LineFeedOnly
      ("entity.gateTarget = " ++ str ((n.text? (Node.paramPaths "targetWorld")).getD "") ++ ";") := by
    simp only [within_append, lineFeedOnly_str, and_true]
    exact ⟨within_ofList (by decide), within_ofList (by decide)⟩
  exact lineFeedOnly_closeBlock_of
    (Fragment.lineFeedOnly_portal _ (within_ofList (by decide))
      (lineFeedOnly_openBlock_of (lineFeedOnly_line_of hw htarget) (within_ofList (by decide))))
    (within_ofList (by decide))

theorem lineFeedOnly_static (hw : LineFeedOnly w.out) : LineFeedOnly (static w).out :=
  lineFeedOnly_line_of hw (within_ofList (by decide))

theorem lineFeedOnly_fragment (kind : EntityKind) (n : Node) (hw : LineFeedOnly w.out) :
    LineFeedOnly (fragment kind n w).out := by
  cases kind
  case player => exact lineFeedOnly_player n hw
  case interactive => exact lineFeedOnly_interactive n hw
  case vehicle => exact lineFeedOnly_vehicle n hw
  case ship => exact lineFeedOnly_ship n hw
  case station => exact lineFeedOnly_station n hw
  case asteroid => exact lineFeedOnly_asteroid n hw
  case gate => exact lineFeedOnly_gate n hw
  case static => exact lineFeedOnly_static hw

end Behavior

/-! ## Creation fragments -/

namespace Creation

variable {w w' : ScriptWriter}

theorem lineFeedOnly_physics (n : Node) (hw : LineFeedOnly w.out) :
    LineFeedOnly (physics n w).out := by
  unfold physics
  refine lineFeedOnly_line_of hw (lineFeedOnly_block.2 ?_)
  simp only [List.forall_mem_cons, within_append, lineFeedOnly_str, lineFeedOnly_number,
    List.not_mem_nil, IsEmpty.forall_iff, implies_true, and_true]
  and_intros <;> exact within_ofList (by decide)

theorem lineFeedOnly_networking (n : Node) (hw : LineFeedOnly w.out) :
    LineFeedOnly (networking n w).out := by
  unfold networking
  refine lineFeedOnly_line_of hw (lineFeedOnly_block.2 ?_)
  simp only [List.forall_mem_cons, within_append, lineFeedOnly_bool, lineFeedOnly_number,
    List.not_mem_nil, IsEmpty.forall_iff, implies_true, and_true]
  and_intros <;> exact within_ofList (by decide)

theorem lineFeedOnly_audio (n : Node) (hw : LineFeedOnly w.out) (h : audio n w = .ok w') :
    LineFeedOnly w'.out := by
  obtain ⟨volume, -, h⟩ := bind_eq_ok.1 h
  cases h
  refine lineFeedOnly_line_of hw (lineFeedOnly_block.2 ?_)
  simp only [List.forall_mem_cons, within_append, lineFeedOnly_str, lineFeedOnly_bool,
    lineFeedOnly_number, List.not_mem_nil, IsEmpty.forall_iff, implies_true, and_true]
  and_intros <;> exact within_ofList (by decide)

theorem lineFeedOnly_custom (hw : LineFeedOnly w.out) : LineFeedOnly (custom w).out := by
  unfold custom
  refine lineFeedOnly_line_of hw (lineFeedOnly_block.2 ?_)
  simp only [List.forall_mem_cons, List.not_mem_nil, IsEmpty.forall_iff, implies_true, and_true]
  and_intros <;> exact within_ofList (by decide)

theorem lineFeedOnly_wrap {f : ScriptWriter → Except Fault ScriptWriter}
    (hf : ∀ {w w'}, LineFeedOnly w.out → f w = .ok w' → LineFeedOnly w'.out)
    (hw : LineFeedOnly w.out) (h : wrap f w = .ok w') : LineFeedOnly w'.out := by
  obtain ⟨inner, hinner, h⟩ := bind_eq_ok.1 h
  cases h
  exact lineFeedOnly_closeBlock_of
    (hf (lineFeedOnly_openBlock_of hw (within_ofList (by decide))) hinner)
    (within_ofList (by decide))

theorem fragment_of_attach? {kind : ComponentKind} {n : Node}
    {f : ScriptWriter → Except Fault ScriptWriter} (h : Fragment.attach? kind n "entity" = some f) :
    fragment kind n = wrap f := by
  cases kind <;> simp only [Fragment.attach?, Option.some.injEq, reduceCtorEq] at h <;> subst h <;>
    rfl

theorem lineFeedOnly_fragment (kind : ComponentKind) (n : Node) (hw : LineFeedOnly w.out)
    (h : fragment kind n w = .ok w') : LineFeedOnly w'.out := by
  cases hattach : Fragment.attach? kind n "entity" with
  | some f =>
      rw [fragment_of_attach? hattach] at h
      exact lineFeedOnly_wrap
        (fun hw hf => Fragment.lineFeedOnly_attach? hattach (within_ofList (by decide)) hw hf) hw h
  | none =>
      cases kind <;> simp only [Fragment.attach?, reduceCtorEq] at hattach
      case physics => cases h; exact lineFeedOnly_physics n hw
      case networking => cases h; exact lineFeedOnly_networking n hw
      case audio => exact lineFeedOnly_audio n hw h
      case custom => cases h; exact lineFeedOnly_custom hw

end Creation

/-! ## Components and entities -/

namespace ComponentScript

variable {w w' : ScriptWriter}

theorem lineFeedOnly_attachInto {comp : AttachedComponent} {var : String} {r : ScriptWriter × Bool}
    (hvar : LineFeedOnly var) (hw : LineFeedOnly w.out) (h : attachInto comp var w = .ok r) :
    LineFeedOnly r.1.out := by
  unfold attachInto at h
  split at h
  · rename_i fragment hattach
    obtain ⟨w₁, hf, h⟩ := bind_eq_ok.1 h
    cases h
    exact Fragment.lineFeedOnly_attach? hattach hvar hw hf
  · cases h
    exact hw

theorem lineFeedOnly_writeBlock (n : Node) (c : IdCounter) (hw : LineFeedOnly w.out)
    (h : (writeBlock n c w).1 = .ok w') : LineFeedOnly w'.out := by
  rcases hid : n.idOrDraw "component" c with ⟨id, c'⟩
  simp only [writeBlock, hid, Script.json_eq, ok_bind] at h
  obtain ⟨w₁, hf, h⟩ := bind_eq_ok.1 h
  cases h
  refine lineFeedOnly_closeBlock_of (lineFeedOnly_line_of (lineFeedOnly_line_of
    (Creation.lineFeedOnly_fragment _ n ?_ hf) (within_ofList (by decide)))
    (within_ofList (by decide))) (within_ofList (by decide))
  refine lineFeedOnly_closeBlock_of (lineFeedOnly_line_of (lineFeedOnly_line_of
    (lineFeedOnly_line_of (lineFeedOnly_openBlock_of (lineFeedOnly_openBlock_of
      (lineFeedOnly_comment.2 hw) (within_ofList (by decide))) (within_ofList (by decide)))
      ?_) ?_) ?_) (within_ofList (by decide))
  all_goals
    simp only [within_append, lineFeedOnly_str, lineFeedOnly_jsonText, and_true]
    and_intros <;> exact within_ofList (by decide)

theorem lineFeedOnly_writeBlocks (nodes : List Node) (c : IdCounter) (hw : LineFeedOnly w.out)
    (h : (writeBlocks nodes c w).1 = .ok w') : LineFeedOnly w'.out := by
  induction nodes generalizing c w with
  | nil =>
      cases h
      exact hw
  | cons n rest ih =>
      unfold writeBlocks at h
      rcases hblock : writeBlock n c w with ⟨_ | w₁, c₁⟩
      · simp only [hblock, reduceCtorEq] at h
      · simp only [hblock] at h
        exact ih c₁ (lineFeedOnly_writeBlock n c hw (congrArg Prod.fst hblock)) h

theorem lineFeedOnly_process (opts : CompileOptions) (nodes : List Node) (c : IdCounter)
    {s : String} (h : (process opts nodes c).1 = .ok s) : LineFeedOnly s := by
  obtain ⟨w, hblocks, rfl⟩ := map_eq_ok.1 h
  exact lineFeedOnly_writeBlocks nodes c (lineFeedOnly_start _) hblocks

end ComponentScript

namespace EntityScript

variable {w w' : ScriptWriter}

theorem lineFeedOnly_attachAll (comps : List AttachedComponent) (hw : LineFeedOnly w.out)
    (h : attachAll comps w = .ok w') : LineFeedOnly w'.out := by
  induction comps generalizing w with
  | nil =>
      cases h
      exact hw
  | cons comp rest ih =>
      obtain ⟨r, hr, h⟩ := bind_eq_ok.1 h
      exact ih (ComponentScript.lineFeedOnly_attachInto (within_ofList (by decide)) hw hr) h

theorem lineFeedOnly_attachments {attached : List AttachedComponent}
    {k : ScriptWriter → Except Fault String} {s : String} (hw : LineFeedOnly w.out)
    (hk : ∀ {w₁ s}, LineFeedOnly w₁.out → k w₁ = .ok s → LineFeedOnly s)
    (h : (if attached.isEmpty then pure w >>= k
      else attachAll attached (w.comment "Components") >>= k) = .ok s) :
    LineFeedOnly s := by
  split at h
  · exact hk hw h
  · obtain ⟨w₁, hattach, h⟩ := bind_eq_ok.1 h
    exact hk (lineFeedOnly_attachAll attached (lineFeedOnly_comment.2 hw) hattach) h

theorem lineFeedOnly_compile (opts : CompileOptions) (n : Node) (c : IdCounter) {s : String}
    (h : (compile opts n c).1 = .ok s) : LineFeedOnly s := by
  rcases hid : n.idOrDraw "entity" c with ⟨rawId, c'⟩
  simp only [compile, hid, Script.json_eq, ok_bind] at h
  refine lineFeedOnly_attachments ?_ (fun {w₁ t} hw₁ hk => ?_) h
  · split
    all_goals
      simp only [lineFeedOnly_line, lineFeedOnly_openBlock, lineFeedOnly_comment,
        lineFeedOnly_start, true_and]
      and_intros
    all_goals
      apply lineFeedOnly_lineText
      simp -failIfUnchanged only [lineFeedOnly_block, List.forall_mem_cons, within_append,
        lineFeedOnly_str, lineFeedOnly_jsonText, Vec3.lineFeedOnly_scriptText, List.not_mem_nil,
        IsEmpty.forall_iff, implies_true, and_true]
      and_intros <;> exact within_ofList (by decide)
  · obtain rfl : _ = t := Except.ok.inj hk
    refine lineFeedOnly_closeBlock_of (lineFeedOnly_line_of (lineFeedOnly_comment.2
      (Behavior.lineFeedOnly_fragment _ _ (lineFeedOnly_comment.2 hw₁))) ?_)
      (within_ofList (by decide))
    simp only [lineFeedOnly_block, List.forall_mem_cons, within_append, lineFeedOnly_str,
      lineFeedOnly_ident, List.not_mem_nil, IsEmpty.forall_iff, implies_true, and_true]
    and_intros <;> exact within_ofList (by decide)

end EntityScript

/-! ## Spaces, lights and data -/

namespace SpaceScript

theorem lineFeedOnly_compile (opts : CompileOptions) (n : Node) (c : IdCounter) {t : String}
    (h : (compile opts n c).1 = .ok t) : LineFeedOnly t := by
  rcases hid : n.idOrDraw "space" c with ⟨id, c'⟩
  simp only [compile, hid, Script.json_eq, ok_bind] at h
  obtain ⟨settings, -, h⟩ := bind_eq_ok.1 h
  obtain rfl : _ = t := Except.ok.inj h
  refine lineFeedOnly_closeBlock_of ?_ (within_ofList (by decide))
  split
  all_goals
    simp only [lineFeedOnly_line, lineFeedOnly_openBlock, lineFeedOnly_comment,
      lineFeedOnly_start, true_and]
    and_intros
  all_goals
    apply lineFeedOnly_lineText
    simp -failIfUnchanged only [lineFeedOnly_block, List.forall_mem_cons, within_append,
      lineFeedOnly_str, lineFeedOnly_jsonText, Vec3.lineFeedOnly_scriptText,
      Rgb.lineFeedOnly_scriptText, List.not_mem_nil, IsEmpty.forall_iff, implies_true, and_true]
    and_intros <;> exact within_ofList (by decide)

end SpaceScript

namespace LightScript

theorem lineFeedOnly_compile (opts : CompileOptions) (n : Node) (c : IdCounter) {t : String}
    (h : (compile opts n c).1 = .ok t) : LineFeedOnly t := by
  rcases hid : n.idOrDraw "light" c with ⟨id, c'⟩
  simp only [compile, hid] at h
  obtain ⟨color, -, h⟩ := bind_eq_ok.1 h
  split at h
  · obtain ⟨ambient, -, h⟩ := bind_eq_ok.1 h
    obtain rfl : _ = t := Except.ok.inj h
    refine lineFeedOnly_closeBlock_of (lineFeedOnly_line_of (lineFeedOnly_openBlock_of
      (lineFeedOnly_comment.2 (lineFeedOnly_start _)) (within_ofList (by decide))) ?_)
      (within_ofList (by decide))
    simp only [within_append, Rgb.lineFeedOnly_scriptText, and_true]
    exact ⟨within_ofList (by decide), within_ofList (by decide)⟩
  · obtain rfl : _ = t := Except.ok.inj h
    refine lineFeedOnly_closeBlock_of (lineFeedOnly_line_of (lineFeedOnly_openBlock_of
      (lineFeedOnly_comment.2 (lineFeedOnly_start _)) (within_ofList (by decide)))
      (lineFeedOnly_block.2 ?_)) (within_ofList (by decide))
    simp only [List.forall_mem_cons, within_append, lineFeedOnly_str, lineFeedOnly_number,
      lineFeedOnly_bool, Rgb.lineFeedOnly_scriptText, Vec3.lineFeedOnly_scriptText,
      List.not_mem_nil, IsEmpty.forall_iff, implies_true, and_true]
    and_intros <;> exact within_ofList (by decide)

end LightScript

namespace DataScript

variable {w w' : ScriptWriter}

theorem lineFeedOnly_scope (n : Node) (fallback : String) :
    LineFeedOnly (DataEntry.ofNode n fallback).scope := by
  simp only [DataEntry.ofNode]
  split
  · split <;> exact within_ofList (by decide)
  · exact within_ofList (by decide)

theorem lineFeedOnly_writeEntry (n : Node) (c : IdCounter) (hw : LineFeedOnly w.out)
    (h : (writeEntry n c w).1 = .ok w') : LineFeedOnly w'.out := by
  rcases hid : n.idOrDraw "data" c with ⟨id, c'⟩
  simp only [writeEntry, hid, Script.json_eq, ok_bind] at h
  obtain rfl : _ = w' := Except.ok.inj h
  refine lineFeedOnly_line_of hw ?_
  simp only [within_append, lineFeedOnly_str, lineFeedOnly_jsonText, lineFeedOnly_scope,
    and_true]
  and_intros <;> exact within_ofList (by decide)

theorem lineFeedOnly_writeEntries (nodes : List Node) (c : IdCounter) (hw : LineFeedOnly w.out)
    (h : (writeEntries nodes c w).1 = .ok w') : LineFeedOnly w'.out := by
  induction nodes generalizing c w with
  | nil =>
      cases h
      exact hw
  | cons n rest ih =>
      unfold writeEntries at h
      rcases hentry : writeEntry n c w with ⟨_ | w₁, c₁⟩
      · simp only [hentry, reduceCtorEq] at h
      · simp only [hentry] at h
        exact ih c₁ (lineFeedOnly_writeEntry n c hw (congrArg Prod.fst hentry)) h

theorem lineFeedOnly_process (opts : CompileOptions) (nodes : List Node) (c : IdCounter)
    {s : String} (h : (process opts nodes c).1 = .ok s) : LineFeedOnly s := by
  unfold process at h
  split at h
  · cases h
    exact within_empty
  · dsimp only at h
    obtain ⟨w, hentries, rfl⟩ := map_eq_ok.1 h
    refine lineFeedOnly_closeBlock_of (lineFeedOnly_writeEntries nodes c ?_ hentries)
      (within_ofList (by decide))
    exact lineFeedOnly_line_of (lineFeedOnly_openBlock_of (lineFeedOnly_comment.2
      (lineFeedOnly_start _)) (within_ofList (by decide))) (within_ofList (by decide))

end DataScript

/-! ## Actions and events -/

namespace ActionScript

variable {w : ScriptWriter}

theorem lineFeedOnly_findEntity (n : Node) : LineFeedOnly (findEntity n) := by
  unfold findEntity
  refine lineFeedOnly_block.2 ?_
  split
  all_goals
    simp only [List.forall_mem_cons, within_append, lineFeedOnly_str, List.not_mem_nil,
      IsEmpty.forall_iff, implies_true, and_true]
    and_intros <;> exact within_ofList (by decide)

theorem lineFeedOnly_body (n : Node) (id : String) (kind : ActionKind) :
    LineFeedOnly (body n id kind) := by
  cases kind
  all_goals
    unfold body
    simp -failIfUnchanged only [lineFeedOnly_block, List.forall_mem_cons, within_append,
      lineFeedOnly_str, Vec3.lineFeedOnly_scriptText, List.not_mem_nil, IsEmpty.forall_iff,
      implies_true, and_true]
    and_intros <;> exact within_ofList (by decide)

theorem lineFeedOnly_writeAction (n : Node) (c : IdCounter) (hw : LineFeedOnly w.out) :
    LineFeedOnly (writeAction n c w).1.out := by
  rcases hid : n.idOrDraw "action" c with ⟨id, c'⟩
  simp only [writeAction, hid]
  refine lineFeedOnly_closeBlock_of (lineFeedOnly_line_of ?_ (lineFeedOnly_body n id _))
    (within_ofList (by decide))
  split
  on_goal 1 => refine lineFeedOnly_line_of ?_ (lineFeedOnly_findEntity n)
  all_goals
    refine lineFeedOnly_openBlock_of (lineFeedOnly_comment.2 hw) ?_
    simp only [within_append, lineFeedOnly_str, and_true]
    exact ⟨within_ofList (by decide), within_ofList (by decide)⟩

theorem lineFeedOnly_writeActions (nodes : List Node) (c : IdCounter) (hw : LineFeedOnly w.out) :
    LineFeedOnly (writeActions nodes c w).1.out := by
  induction nodes generalizing c w with
  | nil => exact hw
  | cons n rest ih => exact ih _ (lineFeedOnly_writeAction n c hw)

theorem lineFeedOnly_prologue {registry : String} (h : LineFeedOnly registry) :
    LineFeedOnly (prologue registry) := by
  simp only [prologue, lineFeedOnly_block, List.forall_mem_cons, within_append, h,
    List.not_mem_nil, IsEmpty.forall_iff, implies_true, and_true]
  and_intros <;> exact within_ofList (by decide)

theorem lineFeedOnly_process (opts : CompileOptions) (nodes : List Node) (c : IdCounter) :
    LineFeedOnly (process opts nodes c).1 := by
  unfold process
  split
  · exact within_empty
  · exact lineFeedOnly_closeBlock_of (lineFeedOnly_writeActions nodes c
      (lineFeedOnly_line_of (lineFeedOnly_openBlock_of (lineFeedOnly_comment.2
        (lineFeedOnly_start _)) (within_ofList (by decide)))
        (lineFeedOnly_prologue (lineFeedOnly_ident _)))) (within_ofList (by decide))

end ActionScript

namespace EventScript

variable {w : ScriptWriter}

theorem lineFeedOnly_targetTest (n : Node) : LineFeedOnly (targetTest n) := by
  unfold targetTest
  split
  · simp only [within_append, lineFeedOnly_str, and_true]
    exact within_ofList (by decide)
  · exact within_ofList (by decide)

theorem lineFeedOnly_hook (n : Node) (id : String) (kind : EventKind) :
    LineFeedOnly (hook n id kind) := by
  cases kind
  all_goals
    unfold hook
    simp only [lineFeedOnly_block, List.forall_mem_cons, within_append, lineFeedOnly_str,
      lineFeedOnly_ident, lineFeedOnly_number, lineFeedOnly_targetTest, List.not_mem_nil,
      IsEmpty.forall_iff, implies_true, and_true]
    and_intros <;> exact within_ofList (by decide)

theorem lineFeedOnly_writeEvent (n : Node) (c : IdCounter) (hw : LineFeedOnly w.out) :
    LineFeedOnly (writeEvent n c w).1.out := by
  rcases hid : n.idOrDraw "event" c with ⟨id, c'⟩
  simp only [writeEvent, hid]
  refine lineFeedOnly_closeBlock_of (lineFeedOnly_line_of (lineFeedOnly_line_of
    (lineFeedOnly_openBlock_of (lineFeedOnly_comment.2 hw) (within_ofList (by decide))) ?_)
    (lineFeedOnly_hook n id _)) (within_ofList (by decide))
  simp only [within_append, lineFeedOnly_commaList, List.forall_mem_map, lineFeedOnly_str,
    implies_true, and_true]
  exact ⟨within_ofList (by decide), within_ofList (by decide)⟩

theorem lineFeedOnly_writeEvents (nodes : List Node) (c : IdCounter) (hw : LineFeedOnly w.out) :
    LineFeedOnly (writeEvents nodes c w).1.out := by
  induction nodes generalizing c w with
  | nil => exact hw
  | cons n rest ih => exact ih _ (lineFeedOnly_writeEvent n c hw)

theorem lineFeedOnly_prologue : LineFeedOnly prologue := by
  simp only [prologue, lineFeedOnly_block, List.forall_mem_cons, List.not_mem_nil,
    IsEmpty.forall_iff, implies_true, and_true]
  and_intros <;> exact within_ofList (by decide)

theorem lineFeedOnly_process (opts : CompileOptions) (nodes : List Node) (c : IdCounter) :
    LineFeedOnly (process opts nodes c).1 := by
  unfold process
  split
  · exact within_empty
  · exact lineFeedOnly_closeBlock_of (lineFeedOnly_writeEvents nodes c
      (lineFeedOnly_line_of (lineFeedOnly_openBlock_of (lineFeedOnly_comment.2
        (lineFeedOnly_start _)) (within_ofList (by decide))) lineFeedOnly_prologue))
      (within_ofList (by decide))

end EventScript

/-! ## Builds -/

def GameData.artifacts (g : GameData) : List Artifact :=
  g.entities ++ g.spaces ++ g.components ++ g.actions ++ g.events ++ g.datas ++ g.lights.getD []

def BuildOutput.game : BuildOutput → GameData
  | .singleplayer g => g
  | .multiplayer m => m.game

namespace Build

variable {nodes : List Node} {c : IdCounter} {arts : List Artifact} {P : String → Prop}

theorem EachCompiled.forall_script {compile : Node → IdCounter → Except Fault String × IdCounter}
    (hP : ∀ n s, (compile n c).1 = .ok s → P s) (h : EachCompiled compile nodes c arts) :
    ∀ a ∈ arts, P a.script :=
  fun a ha => hP a.data a.script (by rw [(h.2 a ha).2])

theorem SharedCompiled.forall_script
    {process : List Node → IdCounter → Except Fault String × IdCounter}
    (hP : ∀ s, (process nodes c).1 = .ok s → P s) (h : SharedCompiled process nodes c arts) :
    ∀ a ∈ arts, P a.script :=
  fun a ha => hP a.script (by rw [(h.2 a ha).2])

end Build

theorem GameData.Compiled.lineFeedOnly {opts : CompileOptions} {x : ExtractedNodes}
    {c : IdCounter} {g : GameData} (h : g.Compiled opts x c) :
    ∀ a ∈ g.artifacts, LineFeedOnly a.script := by
  have hentities := h.entities.forall_script fun n _ => EntityScript.lineFeedOnly_compile opts n c
  have hspaces := h.spaces.forall_script fun n _ => SpaceScript.lineFeedOnly_compile opts n c
  have hcomponents := h.components.forall_script
    fun _ => ComponentScript.lineFeedOnly_process opts x.components c
  have hactions := h.actions.forall_script fun s hs => by
    obtain rfl : _ = s := Except.ok.inj hs
    exact ActionScript.lineFeedOnly_process opts x.actions c
  have hevents := h.events.forall_script fun s hs => by
    obtain rfl : _ = s := Except.ok.inj hs
    exact EventScript.lineFeedOnly_process opts x.events c
  have hdatas := h.datas.forall_script fun _ => DataScript.lineFeedOnly_process opts x.datas c
  have hlights := h.lights.forall_script fun n _ => LightScript.lineFeedOnly_compile opts n c
  simp only [GameData.artifacts, List.forall_mem_append]
  exact ⟨⟨⟨⟨⟨⟨hentities, hspaces⟩, hcomponents⟩, hactions⟩, hevents⟩, hdatas⟩, hlights⟩

namespace GameConfig

/-- A build succeeds with scripts whose only line terminator is the line feed, in every
category and either mode. Comments cannot break out of their line: a comment is one line of
its own, its text free of line terminators; and a string literal stays on one line. -/
theorem build_scripts_are_line_feed_only (cfg : GameConfig) (flow : Json) (c : IdCounter) :
    (∃ out, (cfg.build flow c).1 = .ok out ∧ ∀ a ∈ out.game.artifacts, LineFeedOnly a.script) ∧
      (∀ (w : ScriptWriter) (t : String),
        (w.comment t).out =
          (if w.comments then w.out ++ (indentation w.depth ++ "// " ++ flatten t ++ "\n")
          else w.out) ∧
        OneLine (flatten t)) ∧
      ∀ s, OneLine (str s) := by
  obtain ⟨g, m, hg, hspec, hm, hgame, -⟩ := buildMulti_spec cfg flow c
  refine ⟨⟨_, by rw [build_of_ok hg hm], ?_⟩, fun w t => ⟨comment_out w t, oneLine_flatten t⟩,
    oneLine_str⟩
  split
  · exact hspec.lineFeedOnly
  · rw [BuildOutput.game, hgame]
    exact hspec.lineFeedOnly

end GameConfig

end SceneScript
