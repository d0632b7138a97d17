import SceneScript.Proofs.NearestDatum

/-!
# The shortest decimal lies in the datum's interval

`Decimal.shortestOfFields` picks the decimal with the fewest digits in the interval of a
positive datum. Every comparison it makes is one of `c * 10^s` with a number of half-units, so
it is a comparison of `c * gridNum s` with `b * gridDen s` (`compareHalfUnits_eq`), and whether
a decimal lies in the interval depends on its value only (`holds_iff`, `holds_shift`).

The search never falls back: the leading-digit exponent `floorLog10Units` estimates is never
above the true one (`floorLog10Units_spec`), so the grid of seventeen-digit decimals is finer
than the interval is wide, and of the two grid points around the datum one lies in the interval
(`contains_of_grid`). The decimal returned is one a candidate found, with its trailing zeros
dropped, so it lies in the interval (`shortestOfFields_holds`).
-/

namespace SceneScript

namespace Decimal

open Binary64

/-! ## Decimals as half-units -/

def gridNum (s : Int) : Nat :=
  if 0 ≤ s then pow10 s.toNat * pow2 1075 else pow2 1075

def gridDen (s : Int) : Nat :=
  if 0 ≤ s then 1 else pow10 (-s).toNat

theorem pow10_pos (k : Nat) : 0 < pow10 k :=
  Nat.pow_pos (by norm_num)

theorem pow10_le_pow10 {a b : Nat} (h : a ≤ b) : pow10 a ≤ pow10 b :=
  Nat.pow_le_pow_right (by norm_num) h

theorem pow2_le_pow2 {a b : Nat} (h : a ≤ b) : pow2 a ≤ pow2 b :=
  Nat.pow_le_pow_right (by norm_num) h

theorem pow10_add (a b : Nat) : pow10 (a + b) = pow10 a * pow10 b := Nat.pow_add 10 a b

theorem gridNum_pos (s : Int) : 0 < gridNum s := by
  unfold gridNum
  split
  · exact Nat.mul_pos (pow10_pos _) (pow2_pos _)
  · exact pow2_pos _

theorem gridDen_pos (s : Int) : 0 < gridDen s := by
  unfold gridDen
  split
  · exact Nat.one_pos
  · exact pow10_pos _

theorem compareHalfUnits_eq (c : Nat) (s : Int) (b : Nat) :
    compareHalfUnits c s b = compare (c * gridNum s) (b * gridDen s) := by
  unfold compareHalfUnits gridNum gridDen
  split <;> simp [Nat.mul_assoc]

theorem gridNum_shift (s : Int) (k : Nat) :
    gridNum (s + k) * gridDen s = pow10 k * gridNum s * gridDen (s + k) := by
  unfold gridNum gridDen
  by_cases hs : 0 ≤ s
  · have hsk : 0 ≤ s + k := by omega
    simp only [if_pos hs, if_pos hsk]
    rw [show (s + k).toNat = k + s.toNat by omega, pow10_add]
    ring
  · by_cases hsk : 0 ≤ s + k
    · simp only [if_neg hs, if_pos hsk]
      have hsplit : k = (s + k).toNat + (-s).toNat := by omega
      conv_rhs => rw [hsplit, pow10_add]
      ring
    · simp only [if_neg hs, if_neg hsk]
      have hsplit : (-s).toNat = k + (-(s + k)).toNat := by omega
      rw [hsplit, pow10_add]
      ring

/-! ## Lying in the interval depends on the value only -/

theorem contains_mul {iv : RoundingInterval} {N D k : Nat} (hk : 0 < k) :
    iv.Contains (N * k) (D * k) ↔ iv.Contains N D := by
  unfold RoundingInterval.Contains
  rw [← Nat.mul_assoc, ← Nat.mul_assoc, Nat.mul_lt_mul_right hk, Nat.mul_lt_mul_right hk,
    Nat.mul_right_cancel_iff hk, Nat.mul_right_cancel_iff hk]

theorem holds_iff (iv : RoundingInterval) (c : Nat) (s : Int) :
    iv.holds c s = true ↔ iv.Contains (c * gridNum s) (gridDen s) := by
  unfold RoundingInterval.holds RoundingInterval.Contains
  rw [compareHalfUnits_eq, compareHalfUnits_eq]
  rcases hlow : compare (c * gridNum s) (iv.low * gridDen s) <;>
    rcases hhigh : compare (c * gridNum s) (iv.high * gridDen s) <;>
    simp only [Nat.compare_eq_lt, Nat.compare_eq_eq, Nat.compare_eq_gt] at hlow hhigh <;>
    cases iv.inclusive <;> simp <;> omega

theorem holds_shift (iv : RoundingInterval) (c : Nat) (s : Int) (k : Nat) :
    iv.holds (c * pow10 k) (s - k) = iv.holds c s := by
  have hshift := gridNum_shift (s - k) k
  rw [show s - k + k = s by omega] at hshift
  have hN : c * pow10 k * gridNum (s - k) * gridDen s = c * gridNum s * gridDen (s - k) := by
    rw [show c * pow10 k * gridNum (s - k) * gridDen s =
      c * (pow10 k * gridNum (s - k) * gridDen s) by ring, ← hshift]
    ring
  have hleft := @contains_mul iv (c * pow10 k * gridNum (s - k)) (gridDen (s - k)) _
    (gridDen_pos s)
  have hright := @contains_mul iv (c * gridNum s) (gridDen s) _ (gridDen_pos (s - k))
  rw [hN, Nat.mul_comm (gridDen (s - k)) (gridDen s)] at hleft
  apply Bool.eq_iff_iff.2
  rw [holds_iff, holds_iff, ← hleft, hright]

theorem holds_normalizeAux (iv : RoundingInterval) (fuel d : Nat) (e : Int) :
    iv.holds (normalizeAux fuel d e).digits (normalizeAux fuel d e).exp = iv.holds d e := by
  induction fuel generalizing d e with
  | zero => rfl
  | succ fuel ih =>
      unfold normalizeAux
      split
      · rename_i h
        rw [ih, ← holds_shift iv (d / 10) (e + 1) 1]
        congr 1
        · simp only [pow10]
          exact Nat.div_mul_cancel (Nat.dvd_of_mod_eq_zero h.2)
        · omega
      · rfl

theorem holds_normalize (iv : RoundingInterval) (d : Decimal) :
    iv.holds d.normalize.digits d.normalize.exp = iv.holds d.digits d.exp :=
  holds_normalizeAux iv _ _ _

/-! ## The leading digit -/

def log10Estimate (L : Nat) : Int := ((L : Int) - 1074) * 1233 / 4096

theorem log10Estimate_le : ∀ L < 2098,
    compareHalfUnits 1 (log10Estimate L - 2) (2 * pow2 L) ≠ .gt := by
  decide +kernel

theorem compareHalfUnits_ne_gt_mono {c : Nat} {s : Int} {b b' : Nat}
    (h : compareHalfUnits c s b ≠ .gt) (hb : b ≤ b') : compareHalfUnits c s b' ≠ .gt := by
  rw [compareHalfUnits_eq, Nat.compare_ne_gt] at h ⊢
  exact le_trans h (Nat.mul_le_mul_right _ hb)

theorem floorLog10Units_spec {u : Nat} (hu : 0 < u) (hL : u.log2 < 2098) :
    compareHalfUnits 1 (floorLog10Units u) (2 * u) ≠ .gt := by
  have hatLeast : compareHalfUnits 1 (log10Estimate u.log2 - 2) (2 * u) ≠ .gt :=
    compareHalfUnits_ne_gt_mono (log10Estimate_le _ hL)
      (Nat.mul_le_mul_left 2 (Nat.log2_self_le (by omega)))
  unfold floorLog10Units
  dsimp only
  split
  · rename_i k hk
    simpa using List.find?_some hk
  · rename_i hnone
    have := List.find?_eq_none.1 hnone (log10Estimate u.log2 - 2) (by simp [log10Estimate])
    simp [hatLeast] at this

/-! ## One of two grid points lies in the interval -/

theorem contains_of_grid {iv : RoundingInterval} {below N D X : Nat} (hD : 0 < D)
    (hlow : iv.low < X) (hhigh : X < iv.high) (hbelow : below * N ≤ X * D)
    (habove : X * D < (below + 1) * N) (hwidth : N < (iv.high - iv.low) * D) :
    iv.Contains (below * N) D ∨ iv.Contains ((below + 1) * N) D := by
  have hXD : X * D < iv.high * D := Nat.mul_lt_mul_of_pos_right hhigh hD
  have hlowD : iv.low * D < X * D := Nat.mul_lt_mul_of_pos_right hlow hD
  have hspan : (iv.high - iv.low) * D + iv.low * D = iv.high * D := by
    rw [← Nat.add_mul, Nat.sub_add_cancel (by omega)]
  by_cases hin : iv.low * D < below * N
  · exact Or.inl ⟨Or.inl hin, Or.inl (by omega)⟩
  · refine Or.inr ⟨Or.inl (by omega), Or.inl ?_⟩
    rw [Nat.add_mul, one_mul]
    omega

theorem div_bounds (a : Nat) {b : Nat} (hb : 0 < b) : a / b * b ≤ a ∧ a < (a / b + 1) * b := by
  have hdiv := Nat.div_add_mod a b
  have hmod := Nat.mod_lt a hb
  constructor
  · exact Nat.div_mul_le_self a b
  · rw [Nat.add_mul, one_mul, Nat.mul_comm]
    omega

theorem pow2_1075 : pow2 1075 = 2 * pow2 1074 := by
  decide +kernel

def gridBelow (u : Nat) (s : Int) : Nat :=
  if 0 ≤ s then u / (pow10 s.toNat * pow2 1074) else u * pow10 (-s).toNat / pow2 1074

theorem gridBelow_bounds (u : Nat) (s : Int) :
    gridBelow u s * gridNum s ≤ 2 * u * gridDen s ∧
      2 * u * gridDen s < (gridBelow u s + 1) * gridNum s := by
  unfold gridBelow gridNum gridDen
  by_cases hs : 0 ≤ s
  · simp only [if_pos hs]
    obtain ⟨hle, hlt⟩ := div_bounds u (Nat.mul_pos (pow10_pos s.toNat) (pow2_pos 1074))
    rw [pow2_1075]
    constructor <;> nlinarith
  · simp only [if_neg hs]
    obtain ⟨hle, hlt⟩ := div_bounds (u * pow10 (-s).toNat) (pow2_pos 1074)
    rw [pow2_1075]
    constructor <;> nlinarith

/-! ## Candidates -/

theorem candidate_cases (tie : DecimalTie) (iv : RoundingInterval) (u : Nat) (top : Int)
    (n : Nat) {d : Decimal} (h : candidate tie iv u top n = some d) :
    iv.holds d.digits d.exp = true := by
  unfold candidate at h
  simp only [← gridBelow.eq_1] at h
  generalize gridBelow u (top - n + 1) = below at h
  generalize top - n + 1 = s at h
  by_cases hboth : (iv.holds below s && iv.holds (below + 1) s) = true
  · rw [if_pos hboth] at h
    rw [Bool.and_eq_true] at hboth
    split at h
    · cases h; exact hboth.1
    · cases h; exact hboth.2
    · split at h
      · split_ifs at h <;> cases h
        · exact hboth.1
        · exact hboth.2
      · cases h; exact hboth.2
  · rw [if_neg hboth] at h
    by_cases hbelow : iv.holds below s = true
    · rw [if_pos hbelow] at h
      cases h; exact hbelow
    · rw [if_neg hbelow] at h
      by_cases habove : iv.holds (below + 1) s = true
      · rw [if_pos habove] at h
        cases h; exact habove
      · rw [if_neg habove] at h
        cases h

theorem candidate_isSome (tie : DecimalTie) (iv : RoundingInterval) (u : Nat) (top : Int)
    (n : Nat)
    (h : iv.holds (gridBelow u (top - n + 1)) (top - n + 1) = true ∨
      iv.holds (gridBelow u (top - n + 1) + 1) (top - n + 1) = true) :
    (candidate tie iv u top n).isSome := by
  unfold candidate
  simp only [← gridBelow.eq_1]
  generalize gridBelow u (top - n + 1) = below at h ⊢
  generalize top - n + 1 = s at h ⊢
  by_cases hboth : (iv.holds below s && iv.holds (below + 1) s) = true
  · rw [if_pos hboth]
    split
    · rfl
    · rfl
    · split
      · split_ifs <;> rfl
      · rfl
  · rw [if_neg hboth]
    rcases h with h | h
    · rw [if_pos h]; rfl
    · by_cases hbelow : iv.holds below s = true
      · rw [if_pos hbelow]; rfl
      · rw [if_neg hbelow, if_pos h]; rfl

/-! ## The interval is wider than a seventeen-digit grid step -/

theorem twice_units_lt_width {E : Fin 2047} {F : Fin (pow2 52)} (hu : 0 < unitsOf E F) :
    2 * unitsOf E F <
      pow10 16 * ((roundingInterval E F).high - (roundingInterval E F).low) := by
  have hMlt := significandOf_lt E F
  have hT := pow2_pos (stepOf E)
  simp only [roundingInterval, unitsOf] at hu ⊢
  have h53 : pow2 53 < pow10 16 := by decide
  by_cases hleast : F.val = 0 ∧ 1 < E.val
  · have hM : significandOf E F = pow2 52 := by
      simp only [significandOf, Binary64.hidden, if_neg (show ¬ E.val = 0 by omega), hleast.1,
        Nat.add_zero]
    rw [if_pos hleast, hM]
    have hhalf : pow2 (stepOf E) / 2 ≤ pow2 (stepOf E) := Nat.div_le_self _ _
    have hwidth : pow2 (stepOf E) ≤
        2 * (pow2 52 * pow2 (stepOf E)) + pow2 (stepOf E) -
          (2 * (pow2 52 * pow2 (stepOf E)) - pow2 (stepOf E) / 2) := by omega
    have h52 : 2 * pow2 52 < pow10 16 := by decide
    calc 2 * (pow2 52 * pow2 (stepOf E)) = 2 * pow2 52 * pow2 (stepOf E) := by ring
      _ < pow10 16 * pow2 (stepOf E) := Nat.mul_lt_mul_of_pos_right h52 hT
      _ ≤ _ := Nat.mul_le_mul_left _ hwidth
  · rw [if_neg hleast]
    generalize significandOf E F = M at *
    have hTM : pow2 (stepOf E) ≤ M * pow2 (stepOf E) :=
      Nat.le_mul_of_pos_left _ (Nat.pos_of_mul_pos_right hu)
    have hwidth : 2 * pow2 (stepOf E) ≤
        2 * (M * pow2 (stepOf E)) + pow2 (stepOf E) -
          (2 * (M * pow2 (stepOf E)) - pow2 (stepOf E)) := by omega
    calc 2 * (M * pow2 (stepOf E)) < pow10 16 * (2 * pow2 (stepOf E)) := by nlinarith
      _ ≤ _ := Nat.mul_le_mul_left _ hwidth

theorem low_lt_twice_units {E : Fin 2047} {F : Fin (pow2 52)} (hu : 0 < unitsOf E F) :
    (roundingInterval E F).low < 2 * unitsOf E F := by
  have hT := pow2_pos (stepOf E)
  simp only [roundingInterval]
  split
  · rename_i hleast
    have htwo : 2 ≤ pow2 (stepOf E) := by
      have : 1 ≤ stepOf E := by simp only [stepOf]; omega
      calc 2 = pow2 1 := rfl
        _ ≤ pow2 (stepOf E) := pow2_le_pow2 this
    have : 1 ≤ pow2 (stepOf E) / 2 := by omega
    omega
  · omega

theorem twice_units_lt_high (E : Fin 2047) (F : Fin (pow2 52)) :
    2 * unitsOf E F < (roundingInterval E F).high := by
  have hT := pow2_pos (stepOf E)
  simp only [roundingInterval]
  omega

theorem log2_units_lt {E : Fin 2047} {F : Fin (pow2 52)} (hu : 0 < unitsOf E F) :
    (unitsOf E F).log2 < 2098 := by
  have hQ : stepOf E ≤ 2045 := by simp only [stepOf]; omega
  have hlt : unitsOf E F < 2 ^ (53 + stepOf E) := by
    rw [Nat.pow_add]
    exact Nat.mul_lt_mul_of_pos_right (significandOf_lt E F) (pow2_pos _)
  have := (Nat.log2_lt (by omega)).2 hlt
  omega

theorem gridNum_lt_width {E : Fin 2047} {F : Fin (pow2 52)} (hu : 0 < unitsOf E F) :
    gridNum (floorLog10Units (unitsOf E F) - 17 + 1) <
      ((roundingInterval E F).high - (roundingInterval E F).low) *
        gridDen (floorLog10Units (unitsOf E F) - 17 + 1) := by
  have htop := floorLog10Units_spec hu (log2_units_lt hu)
  have hwidth := twice_units_lt_width hu
  generalize floorLog10Units (unitsOf E F) = top at htop ⊢
  generalize (roundingInterval E F).high - (roundingInterval E F).low = W at hwidth ⊢
  generalize unitsOf E F = u at htop hwidth
  rw [compareHalfUnits_eq, Nat.compare_ne_gt, one_mul] at htop
  have hshift := gridNum_shift (top - 17 + 1) 16
  rw [show top - 17 + 1 + (16 : Nat) = top by omega] at hshift
  have hstep : pow10 16 * gridNum (top - 17 + 1) ≤ 2 * u * gridDen (top - 17 + 1) := by
    have hmul : pow10 16 * gridNum (top - 17 + 1) * gridDen top ≤
        2 * u * gridDen (top - 17 + 1) * gridDen top := by
      rw [← hshift]
      calc gridNum top * gridDen (top - 17 + 1) ≤ 2 * u * gridDen top * gridDen (top - 17 + 1) :=
            Nat.mul_le_mul_right _ htop
        _ = 2 * u * gridDen (top - 17 + 1) * gridDen top := by ring
    exact Nat.le_of_mul_le_mul_right hmul (gridDen_pos top)
  have hlt : pow10 16 * gridNum (top - 17 + 1) < pow10 16 * (W * gridDen (top - 17 + 1)) := by
    calc pow10 16 * gridNum (top - 17 + 1) ≤ 2 * u * gridDen (top - 17 + 1) := hstep
      _ < pow10 16 * W * gridDen (top - 17 + 1) :=
          Nat.mul_lt_mul_of_pos_right hwidth (gridDen_pos _)
      _ = pow10 16 * (W * gridDen (top - 17 + 1)) := by ring
  exact Nat.lt_of_mul_lt_mul_left hlt

/-! ## The shortest decimal -/

theorem shortestOfFields_holds (tie : DecimalTie) {E : Fin 2047} {F : Fin (pow2 52)}
    (hu : 0 < unitsOf E F) :
    (roundingInterval E F).holds (shortestOfFields tie E F).digits
      (shortestOfFields tie E F).exp = true := by
  have h17 : (candidate tie (roundingInterval E F) (unitsOf E F)
      (floorLog10Units (unitsOf E F)) 17).isSome := by
    apply candidate_isSome
    obtain ⟨hbelow, habove⟩ := gridBelow_bounds (unitsOf E F) (floorLog10Units (unitsOf E F) - 17 + 1)
    rcases contains_of_grid (gridDen_pos _) (low_lt_twice_units hu) (twice_units_lt_high E F)
      hbelow habove (gridNum_lt_width hu) with h | h
    · exact Or.inl ((holds_iff _ _ _).2 h)
    · exact Or.inr ((holds_iff _ _ _).2 h)
  unfold shortestOfFields
  rw [if_neg (by omega)]
  dsimp only
  cases hfound : (List.range 17).findSome? fun i =>
      candidate tie (roundingInterval E F) (unitsOf E F) (floorLog10Units (unitsOf E F)) (i + 1) with
  | none =>
      have := List.findSome?_eq_none_iff.1 hfound 16 (by simp)
      simp [this] at h17
  | some d =>
      obtain ⟨i, -, hi⟩ := List.exists_of_findSome?_eq_some hfound
      dsimp only
      rw [holds_normalize]
      exact candidate_cases _ _ _ _ _ hi

/-! ## Reading a decimal of the interval back -/

theorem decimalLength_bounds {c : Nat} (hc : c ≠ 0) :
    pow10 (decimalLength c - 1) ≤ c ∧ c < pow10 (decimalLength c) := by
  have hpos : 0 < decimalLength c := Nat.length_toDigits_pos
  have hlt : c < pow10 (decimalLength c) :=
    (Nat.length_toDigits_le_iff (by norm_num) hpos).1 le_rfl
  refine ⟨?_, hlt⟩
  by_cases hone : decimalLength c = 1
  · rw [hone]
    exact Nat.one_le_iff_ne_zero.2 hc
  · have hnot := mt (Nat.length_toDigits_le_iff (b := 10) (n := c) (by norm_num)
      (show 0 < decimalLength c - 1 by omega)).2
    exact Nat.le_of_not_lt (hnot (show ¬ decimalLength c ≤ decimalLength c - 1 by omega))

theorem low_pos {E : Fin 2047} {F : Fin (pow2 52)} (hu : 0 < unitsOf E F) :
    0 < (roundingInterval E F).low := by
  have hT := pow2_pos (stepOf E)
  have hTu : pow2 (stepOf E) ≤ unitsOf E F :=
    Nat.le_mul_of_pos_left _ (Nat.pos_of_mul_pos_right hu)
  simp only [roundingInterval]
  split
  · have := Nat.div_le_self (pow2 (stepOf E)) 2
    omega
  · omega

theorem high_lt (E : Fin 2047) (F : Fin (pow2 52)) :
    (roundingInterval E F).high < pow10 310 * pow2 1075 := by
  have hQ : stepOf E ≤ 2045 := by simp only [stepOf]; omega
  have hT : pow2 (stepOf E) ≤ pow2 2045 := pow2_le_pow2 hQ
  have hu : unitsOf E F < pow2 53 * pow2 2045 :=
    calc unitsOf E F < pow2 53 * pow2 (stepOf E) :=
          Nat.mul_lt_mul_of_pos_right (significandOf_lt E F) (pow2_pos _)
      _ ≤ pow2 53 * pow2 2045 := Nat.mul_le_mul_left _ hT
  have hbig : 2 * (pow2 53 * pow2 2045) + pow2 2045 ≤ pow10 310 * pow2 1075 := by
    decide +kernel
  simp only [roundingInterval]
  omega

theorem ofDecimal_of_holds (neg : Bool) {E : Fin 2047} {F : Fin (pow2 52)} (hu : 0 < unitsOf E F)
    {c : Nat} {s : Int} (h : (roundingInterval E F).holds c s = true) :
    ofDecimal neg c s = finite neg E F := by
  rw [holds_iff] at h
  have hlow := RoundingInterval.low_le_of_contains h
  have hhigh : c * gridNum s ≤ (roundingInterval E F).high * gridDen s := by
    rcases h.2 with h | ⟨-, h⟩ <;> omega
  have hc : c ≠ 0 := by
    rintro rfl
    have := Nat.mul_pos (low_pos hu) (gridDen_pos s)
    omega
  obtain ⟨hlen₁, hlen₂⟩ := decimalLength_bounds hc
  unfold ofDecimal
  rw [if_neg hc]
  dsimp only
  rw [if_neg, if_neg]
  · have hsplit := pow2_1075
    unfold unitShift
    split
    · rename_i hs
      apply ofRatio_of_contains neg hu Nat.one_pos
      have hN : 2 * (c * pow10 s.toNat * pow2 1074) = c * gridNum s := by
        simp only [gridNum, if_pos hs, hsplit]; ring
      have hD : gridDen s = 1 := by simp [gridDen, hs]
      rwa [hN, ← hD]
    · rename_i hs
      apply ofRatio_of_contains neg hu (pow10_pos _)
      have hN : 2 * (c * pow2 1074) = c * gridNum s := by
        simp only [gridNum, if_neg hs, hsplit]; ring
      have hD : gridDen s = pow10 (-s).toNat := by simp [gridDen, hs]
      rwa [hN, ← hD]
  · intro htop
    have hshift := gridNum_shift s (decimalLength c)
    have hneg : ¬ 0 ≤ s + (decimalLength c : Int) := by omega
    rw [show gridNum (s + (decimalLength c : Int)) = pow2 1075 from if_neg hneg,
      show gridDen (s + (decimalLength c : Int)) = pow10 (-(s + (decimalLength c : Int))).toNat
        from if_neg hneg] at hshift
    generalize hK : pow10 (-(s + (decimalLength c : Int))).toNat = K at hshift
    have hK326 : pow10 326 ≤ K := hK ▸ pow10_le_pow10 (by omega)
    have hsmall : pow2 1075 < pow10 326 := by decide +kernel
    have hbelow : (roundingInterval E F).low * gridDen s * K < pow2 1075 * gridDen s := by
      calc (roundingInterval E F).low * gridDen s * K ≤ c * gridNum s * K :=
            Nat.mul_le_mul_right _ hlow
        _ < pow10 (decimalLength c) * gridNum s * K := by
            apply Nat.mul_lt_mul_of_pos_right
              (Nat.mul_lt_mul_of_pos_right hlen₂ (gridNum_pos s)) (by omega)
        _ = pow2 1075 * gridDen s := hshift.symm
    have hlowK : (roundingInterval E F).low * K < pow2 1075 := by
      apply Nat.lt_of_mul_lt_mul_right (a := gridDen s)
      calc (roundingInterval E F).low * K * gridDen s =
          (roundingInterval E F).low * gridDen s * K := by ring
        _ < pow2 1075 * gridDen s := hbelow
    have := Nat.mul_le_mul (low_pos hu) hK326
    omega
  · intro htop
    have hshift := gridNum_shift s (decimalLength c - 1)
    have hnonneg : 0 ≤ s + ((decimalLength c - 1 : Nat) : Int) := by omega
    rw [show gridNum (s + ((decimalLength c - 1 : Nat) : Int)) =
        pow10 (s + ((decimalLength c - 1 : Nat) : Int)).toNat * pow2 1075 from if_pos hnonneg,
      show gridDen (s + ((decimalLength c - 1 : Nat) : Int)) = 1 from if_pos hnonneg,
      Nat.mul_one] at hshift
    have h310 : pow10 310 ≤ pow10 (s + ((decimalLength c - 1 : Nat) : Int)).toNat :=
      pow10_le_pow10 (by omega)
    have habove : (roundingInterval E F).high * gridDen s < c * gridNum s := by
      calc (roundingInterval E F).high * gridDen s < pow10 310 * pow2 1075 * gridDen s :=
            Nat.mul_lt_mul_of_pos_right (high_lt E F) (gridDen_pos s)
        _ ≤ pow10 (s + ((decimalLength c - 1 : Nat) : Int)).toNat * pow2 1075 * gridDen s :=
            Nat.mul_le_mul_right _ (Nat.mul_le_mul_right _ h310)
        _ = pow10 (decimalLength c - 1) * gridNum s := hshift
        _ ≤ c * gridNum s := Nat.mul_le_mul_right _ hlen₁
    omega

end Decimal

end SceneScript
