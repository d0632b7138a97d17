import Mathlib
import SceneScript.Proofs.TimerDelay

/-!
# Parameters stay in range

The numbers a component or an entity is configured with are read leniently (`Node.number?`)
and then filtered by sign, with a default for anything missing or filtered out. Every number
read is finite, so each filter leaves a finite number of the right sign or falls back to a
default that has that sign itself. This module proves so for every parameter the runtime state
machines and behaviours rely on:

* an inventory's load lies between zero and its capacity, so clamping it never fails;
* a mineable yields something, a weapon fires at least every hundred seconds (`1 / fireRate` is
  finite), a portal's cooldown and a trading post's price and range are not negative, and a
  post always buys something;
* an audio volume lies in `[0, 1]`, and a physics mass and a networking rate are positive;
* a player's, vehicle's or ship's speeds are positive, and interaction and docking ranges are
  not negative.

Main statement: `parameters_stay_in_range`.
-/

namespace SceneScript

namespace Binary64

def IsNonNeg (x : Binary64) : Prop :=
  x.isFinite = true ∧ zero.le x = true

def IsPos (x : Binary64) : Prop :=
  x.isFinite = true ∧ zero.lt x = true

theorem IsPos.isNonNeg {x : Binary64} (h : x.IsPos) : x.IsNonNeg := by
  obtain ⟨hfin, hlt⟩ := h
  refine ⟨hfin, ?_⟩
  rw [le, hlt, Bool.true_or]

theorem isPos_ofNat {k : Nat} (hk : 0 < k) (hlt : k < pow2 53) : (ofNat k).IsPos := by
  obtain ⟨E, F, heq, hunits⟩ := ofNat_exact hlt
  rw [heq]
  refine ⟨rfl, ?_⟩
  rw [zero_eq, lt_finite, unitsOf_zero_exp, hunits, decide_eq_true_eq]
  simp only [signedUnits, Bool.false_eq_true, if_false, Nat.cast_zero, Nat.cast_pos]
  exact Nat.mul_pos hk (pow2_pos _)

theorem isPos_one : one.IsPos :=
  ⟨isFinite_one, zero_lt_one_eq⟩

theorem nonNegative?_getD {x? : Option Binary64} {d : Binary64}
    (hx : ∀ x, x? = some x → x.isFinite = true) (hd : d.IsNonNeg) :
    ((nonNegative? x?).getD d).IsNonNeg := by
  cases h : nonNegative? x? with
  | none => exact hd
  | some x =>
    obtain ⟨hsome, hle⟩ := Option.filter_eq_some_iff.1 h
    exact ⟨hx x hsome, hle⟩

theorem positive?_getD {x? : Option Binary64} {d : Binary64}
    (hx : ∀ x, x? = some x → x.isFinite = true) (hd : d.IsPos) :
    ((positive? x?).getD d).IsPos := by
  cases h : positive? x? with
  | none => exact hd
  | some x =>
    obtain ⟨hsome, hlt⟩ := Option.filter_eq_some_iff.1 h
    exact ⟨hx x hsome, hlt⟩

theorem le_max_right {x y : Binary64} (hx : x.isFinite = true) (hy : y.isFinite = true) :
    y.le (x.max y) = true ∧ (x.max y).isFinite = true := by
  obtain ⟨s, e, f, rfl⟩ := exists_of_isFinite hx
  obtain ⟨t, e', f', rfl⟩ := exists_of_isFinite hy
  simp only [max, isNaN, Bool.false_eq_true, if_false]
  split_ifs with hlt
  · refine ⟨?_, rfl⟩
    rw [le_finite, decide_eq_true_eq]
  · refine ⟨?_, rfl⟩
    rw [lt_finite, decide_eq_true_eq] at hlt
    rw [le_finite, decide_eq_true_eq]
    omega

end Binary64

namespace Node

theorem number?_isFinite {n : Node} {ps : List (List String)} {x : Binary64}
    (h : n.number? ps = some x) : x.isFinite = true := by
  obtain ⟨v, -, hv⟩ := Option.bind_eq_some_iff.1 h
  exact Json.toNumber?_isFinite hv

end Node

open Binary64

namespace InventoryParams

/-- A hold whose load lies between zero and its capacity, all finite. -/
structure InRange (p : InventoryParams) : Prop where
  capacity : p.capacity.IsNonNeg
  load : p.currentLoad.IsNonNeg
  load_le : p.currentLoad.le p.capacity = true

theorem capacityOf_isNonNeg (n : Node) : (capacityOf n).IsNonNeg := by
  have hd : default.capacity.IsNonNeg := by
    dsimp only [default]
    exact (isPos_ofNat (by decide) (by decide)).isNonNeg
  exact nonNegative?_getD (fun _ => Node.number?_isFinite) hd

theorem ofNode_inRange (n : Node) : ∃ p, ofNode n = .ok p ∧ p.InRange := by
  have hcap := capacityOf_isNonNeg n
  have hload : ((n.number? (Node.paramPaths "currentLoad")).getD Binary64.zero).isNaN = false := by
    cases h : n.number? (Node.paramPaths "currentLoad") with
    | none => rfl
    | some x => exact isNaN_of_isFinite (Node.number?_isFinite h)
  obtain ⟨hfin, hlo, hhi⟩ := clamp_between hload rfl hcap.1 hcap.2
  exact ⟨_, ofNode_eq n, hcap, ⟨hfin, hlo⟩, hhi⟩

end InventoryParams

namespace MineableParams

theorem maxYield_isPos (n : Node) : (ofNode n).maxYield.IsPos := by
  have hd : default.maxYield.IsPos := by
    dsimp only [default]
    exact isPos_ofNat (by decide) (by decide)
  exact positive?_getD (fun _ => Node.number?_isFinite) hd

end MineableParams

namespace PortalParams

theorem cooldownTime_isNonNeg (n : Node) : (ofNode n).cooldownTime.IsNonNeg := by
  have hd : default.cooldownTime.IsNonNeg := by
    dsimp only [default]
    exact (isPos_ofNat (by decide) (by decide)).isNonNeg
  exact nonNegative?_getD (fun _ => Node.number?_isFinite) hd

end PortalParams

namespace TradingParams

/-- A trading post with a price and a range of at least zero that buys something. -/
structure InRange (p : TradingParams) : Prop where
  pricePerTon : p.pricePerTon.IsNonNeg
  interactionRange : p.interactionRange.IsNonNeg
  accepts : p.acceptedResources ≠ []

theorem default_isNonNeg : default.pricePerTon.IsNonNeg ∧ default.interactionRange.IsNonNeg := by
  dsimp only [default]
  exact ⟨(isPos_ofNat (by decide) (by decide)).isNonNeg,
    (isPos_ofNat (by decide) (by decide)).isNonNeg⟩

theorem ofNode_inRange (n : Node) : (ofNode n).InRange where
  pricePerTon := nonNegative?_getD (fun _ => Node.number?_isFinite) default_isNonNeg.1
  interactionRange := nonNegative?_getD (fun _ => Node.number?_isFinite) default_isNonNeg.2
  accepts := by
    show (if _ then _ else _) ≠ []
    split_ifs with hempty
    · exact List.cons_ne_nil _ _
    · exact fun h => hempty (by rw [h]; rfl)

end TradingParams

namespace WeaponParams

theorem minFireRate_eq :
    minFireRate = finite false ⟨1016, by decide⟩ ⟨1261007895663739, by decide⟩ := by
  decide +kernel

theorem one_div_isFinite {x : Binary64} (hx : x.isFinite = true) (hmin : minFireRate.le x = true) :
    (one / x).isFinite = true := by
  obtain ⟨s, e, f, rfl⟩ := exists_of_isFinite hx
  have hu0 : pow2 1067 ≤ unitsOf ⟨1016, by decide⟩ ⟨1261007895663739, by decide⟩ := by
    decide +kernel
  rw [minFireRate_eq, le_finite, decide_eq_true_eq] at hmin
  obtain ⟨rfl, hu⟩ : s = false ∧ pow2 1067 ≤ unitsOf e f := by
    cases s with
    | false =>
      simp only [signedUnits, Bool.false_eq_true, if_false, Nat.cast_le] at hmin
      exact ⟨rfl, le_trans hu0 hmin⟩
    | true =>
      have := pow2_pos 1067
      simp only [signedUnits, Bool.false_eq_true, if_false, if_true] at hmin
      omega
  have hne : unitsOf e f ≠ 0 := Nat.pos_iff_ne_zero.1 (lt_of_lt_of_le (pow2_pos _) hu)
  rw [one_eq]
  show (div _ (finite false e f)).isFinite = true
  simp only [div, hne, if_false, unitsOf_one]
  have hbound : pow2 1074 * pow2 unitShift ≤ unitsOf e f * (128 * pow2 1074) := by
    have hsplit : pow2 1074 * pow2 unitShift = pow2 1067 * (128 * pow2 1074) := by
      have hexp : 1074 + unitShift = 1067 + (7 + 1074) := rfl
      rw [show (128 : Nat) = pow2 7 from rfl, ← pow2_add, ← pow2_add, ← pow2_add, hexp]
    rw [hsplit]
    exact Nat.mul_le_mul_right _ hu
  obtain ⟨E, F, heq, -⟩ := ofRatio_units_le (K := 128) (j := 1074)
    (Nat.pos_iff_ne_zero.2 hne) (by decide) (by decide) hbound
  rw [Bool.bne_false, heq]
  rfl

/-- A weapon whose damage and range are at least zero and whose fire rate is at least `0.01`,
so that the pause between shots, `1 / fireRate`, is finite. -/
structure InRange (p : WeaponParams) : Prop where
  damage : p.damage.IsNonNeg
  fireRate_ge : minFireRate.le p.fireRate = true
  fireRate_finite : p.fireRate.isFinite = true
  pause_finite : (one / p.fireRate).isFinite = true
  range : p.range.IsNonNeg

theorem default_inRange :
    default.damage.IsNonNeg ∧ default.fireRate.IsPos ∧ default.range.IsNonNeg := by
  dsimp only [default]
  exact ⟨(isPos_ofNat (by decide) (by decide)).isNonNeg, isPos_ofNat (by decide) (by decide),
    (isPos_ofNat (by decide) (by decide)).isNonNeg⟩

theorem ofNode_inRange (n : Node) : (ofNode n).InRange := by
  obtain ⟨hdamage, hrate, hrange⟩ := default_inRange
  have hrate : ((positive? (n.number? (Node.paramPaths "fireRate"))).getD
      default.fireRate).IsPos :=
    positive?_getD (fun _ => Node.number?_isFinite) hrate
  have hmin : minFireRate.isFinite = true := by rw [minFireRate_eq]; rfl
  obtain ⟨hge, hfin⟩ := le_max_right hrate.1 hmin
  exact {
    damage := nonNegative?_getD (fun _ => Node.number?_isFinite) hdamage
    fireRate_ge := hge
    fireRate_finite := hfin
    pause_finite := one_div_isFinite hfin hge
    range := nonNegative?_getD (fun _ => Node.number?_isFinite) hrange }

end WeaponParams

namespace Behavior

theorem positiveOr_isPos (n : Node) (name : String) {dflt : Nat} (hpos : 0 < dflt)
    (hlt : dflt < pow2 53) : (positiveOr n name dflt).IsPos :=
  positive?_getD (fun _ => Node.number?_isFinite) (isPos_ofNat hpos hlt)

theorem nonNegativeOr_isNonNeg (n : Node) (name : String) {dflt : Nat} (hlt : dflt < pow2 53) :
    (nonNegativeOr n name dflt).IsNonNeg := by
  obtain ⟨E, F, heq, -⟩ := ofNat_exact hlt
  have hfin : (ofNat dflt).isFinite = true := by rw [heq]; rfl
  exact nonNegative?_getD (fun _ => Node.number?_isFinite) ⟨hfin, zero_le_ofNat dflt⟩

end Behavior

/-- Every parameter a component node or an entity node configures the runtime with is finite
and in its range, whatever the node holds:

* a hold reads without failing, and its load lies between zero and its capacity;
* a mineable's yield is positive, so a fresh body starts intact;
* a weapon's damage and range are at least zero and its fire rate at least `0.01`, so the pause
  `1 / fireRate` is finite;
* a portal's cooldown and a trading post's price and range are at least zero, and a post buys at
  least one resource;
* the volume of an audio component, as its creation fragment clamps it, lies in `[0, 1]`, and
  the mass of a physics component and the update rate of a networking component, as their
  fragments read them, are positive;
* the speeds of the player (default 5), vehicle and ship (10) and their turn speeds (90) are
  positive, and the interaction (5) and docking (20) ranges at least zero. -/
theorem parameters_stay_in_range (n : Node) :
    (∃ p, InventoryParams.ofNode n = .ok p ∧ p.InRange) ∧
    (MineableParams.ofNode n).maxYield.IsPos ∧
    (WeaponParams.ofNode n).InRange ∧
    (PortalParams.ofNode n).cooldownTime.IsNonNeg ∧
    (TradingParams.ofNode n).InRange ∧
    (∃ v, Creation.volume n = .ok v ∧ v.InUnit) ∧
    (Creation.mass n).IsPos ∧
    (Creation.updateRate n).IsPos ∧
    (Behavior.positiveOr n "speed" 5).IsPos ∧ (Behavior.positiveOr n "speed" 10).IsPos ∧
    (Behavior.positiveOr n "turnSpeed" 90).IsPos ∧
    (Behavior.nonNegativeOr n "interactionRange" 5).IsNonNeg ∧
    (Behavior.nonNegativeOr n "dockingRange" 20).IsNonNeg := by
  have hvolume : ((n.number? (Node.paramPaths "volume")).getD one).isNaN = false := by
    cases h : n.number? (Node.paramPaths "volume") with
    | none =>
      rw [Option.getD_none]
      exact isNaN_of_isFinite isFinite_one
    | some x => exact isNaN_of_isFinite (Node.number?_isFinite h)
  have hclamp := clampAssert_of_le ((n.number? (Node.paramPaths "volume")).getD one)
    isPos_one.isNonNeg.2
  refine ⟨InventoryParams.ofNode_inRange n, MineableParams.maxYield_isPos n,
    WeaponParams.ofNode_inRange n, PortalParams.cooldownTime_isNonNeg n,
    TradingParams.ofNode_inRange n, ⟨_, hclamp, inUnit_clamp hvolume⟩,
    positive?_getD (fun _ => Node.number?_isFinite) isPos_one,
    positive?_getD (fun _ => Node.number?_isFinite) (isPos_ofNat (by decide) (by decide)), ?_⟩
  exact ⟨Behavior.positiveOr_isPos n _ (by decide) (by decide),
    Behavior.positiveOr_isPos n _ (by decide) (by decide),
    Behavior.positiveOr_isPos n _ (by decide) (by decide),
    Behavior.nonNegativeOr_isNonNeg n _ (by decide), Behavior.nonNegativeOr_isNonNeg n _ (by decide)⟩

end SceneScript
