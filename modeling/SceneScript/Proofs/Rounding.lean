import Mathlib
import SceneScript.Number.Binary64

/-!
# Rounding stays below a datum

`Binary64.ofRatio` rounds a quotient of natural numbers to the nearest datum. A bound of
`K * 2^j` units with `K < 2^53` is a datum itself, and rounding to nearest does not pass a
datum: a quotient of at most that many units rounds to a finite datum of at most that many
units (`ofRatio_units_le`). The proof bounds the binary exponent that `ofRatio` estimates, then
the significand it rounds, then the datum it writes.

The rest of the module works in the unit interval, `InUnit`, with the standard's order, which
on finite data is the order of their signed units. A clamp of anything but NaN lands between
finite ordered bounds, products and quotients of finite data are never NaN, and a datum between
zero and a positive divisor divides into the unit interval.
-/

namespace SceneScript

namespace Binary64

theorem pow2_eq (k : Nat) : pow2 k = 2 ^ k := rfl

theorem pow2_add (a b : Nat) : pow2 (a + b) = pow2 a * pow2 b := Nat.pow_add 2 a b

/-! ## One rounding -/

theorem roundHalfEven_le {n d K : Nat} (hd : 0 < d) (h : n ≤ K * d) : roundHalfEven n d ≤ K := by
  have hdiv := Nat.div_add_mod n d
  unfold roundHalfEven
  generalize n / d = q at *
  generalize n % d = r at *
  have hq : q ≤ K := Nat.le_of_mul_le_mul_left (by rw [Nat.mul_comm d K]; omega) hd
  dsimp only
  rcases Nat.lt_or_ge q K with hlt | hge
  · split_ifs <;> omega
  · obtain rfl : q = K := by omega
    have hr : r = 0 := by rw [Nat.mul_comm] at h; omega
    split_ifs <;> omega

theorem floorLog2Ratio_le {n d : Nat} (c : Nat) (hn : n ≠ 0)
    (h : n < d * 2 ^ (c + 1)) : floorLog2Ratio n d ≤ c := by
  have hlog : n.log2 < d.log2 + (c + 2) := by
    rw [Nat.log2_lt hn]
    calc n < d * 2 ^ (c + 1) := h
      _ < 2 ^ (d.log2 + 1) * 2 ^ (c + 1) :=
        Nat.mul_lt_mul_of_pos_right Nat.lt_log2_self (by positivity)
      _ = 2 ^ (d.log2 + (c + 2)) := by rw [← Nat.pow_add]; congr 1; omega
  unfold floorLog2Ratio
  simp only [pow2_eq]
  split
  · split
    · rename_i hreached
      have hlt : 2 ^ ((n.log2 : Int) - d.log2).toNat < 2 ^ (c + 1) :=
        Nat.lt_of_mul_lt_mul_left (lt_of_le_of_lt (of_decide_eq_true hreached) h)
      rw [Nat.pow_lt_pow_iff_right (by norm_num)] at hlt
      omega
    · omega
  · split <;> omega

theorem unitsOf_zero_exp (f : Fin (pow2 52)) : unitsOf 0 f = f.val := by
  simp [unitsOf, significandOf, stepOf, pow2_eq]

theorem unitsOf_succ_exp {q : Nat} (hq : q + 1 < 2047) (f : Fin (pow2 52)) :
    unitsOf ⟨q + 1, hq⟩ f = (hidden + f.val) * pow2 q := by
  simp [unitsOf, significandOf, stepOf]

theorem encode_units_le {m q B : Nat} (hq : q + 1 < 2047) (h : m * pow2 q ≤ B) :
    ∃ e f, encode false m q = finite false e f ∧ unitsOf e f ≤ B := by
  have hpos : 0 < pow2 q := pow2_pos q
  unfold encode
  split
  · rename_i hm
    refine ⟨_, _, rfl, ?_⟩
    rw [unitsOf_zero_exp]
    exact le_trans (Nat.le_mul_of_pos_right m hpos) h
  · rename_i hm
    refine ⟨_, _, rfl, ?_⟩
    rw [unitsOf_succ_exp]
    have hlow : (m - hidden) % pow2 52 ≤ m - hidden := Nat.mod_le _ _
    calc (hidden + (m - hidden) % pow2 52) * pow2 q ≤ m * pow2 q :=
          Nat.mul_le_mul_right _ (by omega)
      _ ≤ B := h

theorem ofRatio_units_le {n d K j : Nat} (hd : 0 < d) (hK : K < pow2 53) (hj : j ≤ 2044)
    (h : n ≤ d * (K * pow2 j)) :
    ∃ e f, ofRatio false n d = finite false e f ∧ unitsOf e f ≤ K * pow2 j := by
  unfold ofRatio
  split
  · exact ⟨_, _, rfl, by simp [unitsOf_zero_exp]⟩
  · rename_i hnd
    have hn : n ≠ 0 := fun h0 => hnd (Or.inl h0)
    dsimp only
    have hlt : n < d * 2 ^ (52 + j + 1) := by
      calc n ≤ d * (K * 2 ^ j) := h
        _ < d * (2 ^ 53 * 2 ^ j) :=
          Nat.mul_lt_mul_of_pos_left (Nat.mul_lt_mul_of_pos_right hK (by positivity)) hd
        _ = d * 2 ^ (52 + j + 1) := by rw [← Nat.pow_add]; congr 2; omega
    have hL := floorLog2Ratio_le (52 + j) hn hlt
    generalize hq : (floorLog2Ratio n d - 52).toNat = q
    have hqj : q ≤ j := by omega
    have hsplit : pow2 j = pow2 (j - q) * pow2 q := by
      rw [pow2_eq, pow2_eq, pow2_eq, ← Nat.pow_add, Nat.sub_add_cancel hqj]
    have hm : roundHalfEven n (d * pow2 q) ≤ K * pow2 (j - q) := by
      apply roundHalfEven_le (Nat.mul_pos hd (pow2_pos q))
      calc n ≤ d * (K * pow2 j) := h
        _ = K * pow2 (j - q) * (d * pow2 q) := by rw [hsplit]; ring
    have hmq : roundHalfEven n (d * pow2 q) * pow2 q ≤ K * pow2 j := by
      calc roundHalfEven n (d * pow2 q) * pow2 q ≤ K * pow2 (j - q) * pow2 q :=
            Nat.mul_le_mul_right _ hm
        _ = K * pow2 j := by rw [hsplit]; ring
    split
    · rename_i htop
      apply encode_units_le (by omega)
      rw [htop] at hmq
      calc hidden * pow2 (q + 1) = pow2 53 * pow2 q := by
            simp only [hidden, pow2_eq, Nat.pow_succ]; ring
        _ ≤ K * pow2 j := hmq
    · exact encode_units_le (by omega) hmq

/-! ## The order of finite data -/

theorem zero_eq : zero = finite false 0 ⟨0, pow2_pos 52⟩ := rfl

theorem one_eq : one = finite false ⟨1022 + 1, by decide⟩ ⟨0, pow2_pos 52⟩ := by decide +kernel

theorem unitsOf_one : unitsOf ⟨1022 + 1, by decide⟩ ⟨0, pow2_pos 52⟩ = pow2 1074 := by
  simp only [unitsOf_succ_exp, hidden, Nat.add_zero, ← pow2_add]

theorem ofNat_255_eq :
    ofNat 255 = finite false ⟨1029 + 1, by decide⟩ ⟨127 * pow2 45, by decide⟩ := by
  decide +kernel

theorem unitsOf_ofNat_255 :
    unitsOf ⟨1029 + 1, by decide⟩ ⟨127 * pow2 45, by decide⟩ = 255 * pow2 1074 := by
  have h52 : pow2 52 = 128 * pow2 45 := by rw [show 52 = 7 + 45 from rfl, pow2_add]; rfl
  have h1074 : pow2 1074 = pow2 45 * pow2 1029 := by rw [← pow2_add]
  simp only [unitsOf_succ_exp, hidden, h52, h1074]
  generalize pow2 45 = a
  generalize pow2 1029 = b
  ring

theorem le_finite (s t : Bool) (e e' : Fin 2047) (f f' : Fin (pow2 52)) :
    (finite s e f).le (finite t e' f') =
      decide (signedUnits s (unitsOf e f) ≤ signedUnits t (unitsOf e' f')) := by
  simp [le, lt, eq, le_iff_lt_or_eq]

theorem lt_finite (s t : Bool) (e e' : Fin 2047) (f f' : Fin (pow2 52)) :
    (finite s e f).lt (finite t e' f') =
      decide (signedUnits s (unitsOf e f) < signedUnits t (unitsOf e' f')) := rfl

theorem exists_of_isFinite {x : Binary64} (h : x.isFinite = true) :
    ∃ s e f, x = finite s e f := by
  cases x with
  | finite s e f => exact ⟨s, e, f, rfl⟩
  | _ => cases h

/-! ## The unit interval -/

/-- A finite datum in `[0, 1]` by the standard's order, which puts a negative zero there too. -/
def InUnit (x : Binary64) : Prop :=
  x.isFinite = true ∧ zero.le x = true ∧ x.le one = true

instance (x : Binary64) : Decidable x.InUnit :=
  inferInstanceAs (Decidable (_ ∧ _ ∧ _))

theorem inUnit_finite_iff (s : Bool) (e : Fin 2047) (f : Fin (pow2 52)) :
    (finite s e f).InUnit ↔
      0 ≤ signedUnits s (unitsOf e f) ∧ signedUnits s (unitsOf e f) ≤ pow2 1074 := by
  simp only [InUnit, isFinite, zero_eq, one_eq, le_finite, unitsOf_zero_exp, unitsOf_one,
    decide_eq_true_eq, true_and]
  simp only [signedUnits, Bool.false_eq_true, ↓reduceIte, Nat.cast_zero]

theorem inUnit_one : one.InUnit := by
  rw [one_eq, inUnit_finite_iff, unitsOf_one]
  simp only [signedUnits, Bool.false_eq_true, ↓reduceIte]
  omega

theorem clamp_between {x lo hi : Binary64} (hx : x.isNaN = false) (hlo : lo.isFinite = true)
    (hhi : hi.isFinite = true) (hle : lo.le hi = true) :
    (x.clamp lo hi).isFinite = true ∧ lo.le (x.clamp lo hi) = true ∧
      (x.clamp lo hi).le hi = true := by
  obtain ⟨s, e, f, rfl⟩ := exists_of_isFinite hlo
  obtain ⟨t, e', f', rfl⟩ := exists_of_isFinite hhi
  have hbounds := of_decide_eq_true ((le_finite _ _ _ _ _ _).symm.trans hle)
  cases x with
  | nan => cases hx
  | infinite neg =>
    cases neg <;> simp [clamp, lt, le_finite, isFinite, hbounds]
  | finite r e'' f'' =>
    unfold clamp
    rw [lt_finite, lt_finite]
    by_cases hlow : signedUnits r (unitsOf e'' f'') < signedUnits s (unitsOf e f)
    · simp [hlow, le_finite, isFinite, hbounds]
    · by_cases hhigh : signedUnits t (unitsOf e' f') < signedUnits r (unitsOf e'' f'')
      · simp [hlow, hhigh, le_finite, isFinite, hbounds]
      · simp only [hlow, hhigh, decide_false, Bool.false_eq_true, if_false, le_finite,
          isFinite, decide_eq_true_eq, true_and]
        omega

theorem inUnit_clamp {x : Binary64} (hx : x.isNaN = false) : (x.clamp zero one).InUnit :=
  clamp_between hx rfl inUnit_one.1 inUnit_one.2.1

theorem isNaN_encode (neg : Bool) (m q : Nat) : (encode neg m q).isNaN = false := by
  unfold encode
  split_ifs <;> rfl

theorem isNaN_ofRatio (neg : Bool) (n d : Nat) : (ofRatio neg n d).isNaN = false := by
  unfold ofRatio
  split
  · rfl
  · dsimp only
    split <;> exact isNaN_encode _ _ _

theorem isNaN_mul {x y : Binary64} (hx : x.isFinite = true) (hy : y.isFinite = true) :
    (x * y).isNaN = false := by
  obtain ⟨s, e, f, rfl⟩ := exists_of_isFinite hx
  obtain ⟨t, e', f', rfl⟩ := exists_of_isFinite hy
  exact isNaN_ofRatio _ _ _

theorem isNaN_div {x y : Binary64} (hx : x.isFinite = true) (hy : y.isFinite = true)
    (hy0 : y.isZero = false) : (x / y).isNaN = false := by
  obtain ⟨s, e, f, rfl⟩ := exists_of_isFinite hx
  obtain ⟨t, e', f', rfl⟩ := exists_of_isFinite hy
  simp only [isZero, decide_eq_false_iff_not] at hy0
  show (div _ _).isNaN = false
  simp only [div, hy0, if_false]
  exact isNaN_ofRatio _ _ _

theorem inUnit_ofRatio {n d : Nat} (hd : 0 < d) (h : n ≤ d) :
    (ofRatio false (n * pow2 unitShift) d).InUnit := by
  obtain ⟨e, f, heq, hunits⟩ := ofRatio_units_le (n := n * pow2 unitShift) (K := 1)
    (j := unitShift) hd (by decide) (by decide)
    (by rw [Nat.one_mul]; exact Nat.mul_le_mul_right _ h)
  rw [heq, inUnit_finite_iff]
  simp only [signedUnits, Bool.false_eq_true, if_false]
  rw [Nat.one_mul] at hunits
  simp only [unitShift] at hunits
  exact ⟨Int.natCast_nonneg _, Int.ofNat_le.2 hunits⟩

theorem inUnit_div {x y : Binary64} (hx : x.isFinite = true) (h0 : zero.le x = true)
    (hxy : x.le y = true) (hy : y.isFinite = true) (hy0 : zero.lt y = true) : (x / y).InUnit := by
  obtain ⟨s, e, f, rfl⟩ := exists_of_isFinite hx
  obtain ⟨t, e', f', rfl⟩ := exists_of_isFinite hy
  rw [zero_eq, le_finite, unitsOf_zero_exp, decide_eq_true_eq] at h0
  rw [zero_eq, lt_finite, unitsOf_zero_exp, decide_eq_true_eq] at hy0
  rw [le_finite, decide_eq_true_eq] at hxy
  obtain rfl : t = false := by
    cases t
    · rfl
    · simp only [signedUnits, Nat.cast_zero, Bool.false_eq_true, if_false, if_true] at hy0
      omega
  have hu' : 0 < unitsOf e' f' := by simpa [signedUnits] using hy0
  show (div _ _).InUnit
  simp only [div, Nat.pos_iff_ne_zero.1 hu', if_false, Bool.bne_false]
  cases s
  · have hle : unitsOf e f ≤ unitsOf e' f' := by simpa [signedUnits] using hxy
    exact inUnit_ofRatio hu' hle
  · have hu : unitsOf e f = 0 := by simp [signedUnits] at h0; omega
    rw [hu, Nat.zero_mul]
    show (signedZero true).InUnit
    rw [signedZero, inUnit_finite_iff, unitsOf_zero_exp]
    simp only [signedUnits, if_true]
    exact ⟨le_refl _, by omega⟩

theorem ofNat_between {n : Nat} (h : n ≤ 255) :
    (ofNat n).isFinite = true ∧ zero.le (ofNat n) = true ∧ (ofNat n).le (ofNat 255) = true := by
  obtain ⟨e, f, heq, hunits⟩ := ofRatio_units_le (n := n * pow2 unitShift) (d := 1) (K := 255)
    (j := unitShift) Nat.one_pos (by decide) (by decide)
    (by rw [Nat.one_mul]; exact Nat.mul_le_mul_right _ h)
  have hn : ofNat n = finite false e f := heq
  refine ⟨by rw [hn]; rfl, by rw [hn, zero_eq, le_finite, unitsOf_zero_exp]; simp [signedUnits], ?_⟩
  rw [hn, ofNat_255_eq, le_finite, unitsOf_ofNat_255, decide_eq_true_eq]
  simp only [signedUnits, Bool.false_eq_true, if_false]
  simp only [unitShift] at hunits
  exact Int.ofNat_le.2 hunits

theorem zero_lt_ofNat_255 : zero.lt (ofNat 255) = true := by
  rw [ofNat_255_eq, zero_eq, lt_finite, unitsOf_ofNat_255, unitsOf_zero_exp, decide_eq_true_eq]
  simp only [signedUnits, Bool.false_eq_true, if_false, Nat.cast_zero]
  exact Int.ofNat_lt.2 (Nat.mul_pos (by decide) (pow2_pos 1074))

theorem isFinite_ofNat_255 : (ofNat 255).isFinite = true := by
  rw [ofNat_255_eq]
  rfl

theorem inUnit_div_ofNat_255 {x : Binary64} (hx : x.isFinite = true) (h0 : zero.le x = true)
    (h : x.le (ofNat 255) = true) : (x / ofNat 255).InUnit :=
  inUnit_div hx h0 h isFinite_ofNat_255 zero_lt_ofNat_255

end Binary64

end SceneScript
