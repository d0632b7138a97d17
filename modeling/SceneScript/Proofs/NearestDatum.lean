import SceneScript.Proofs.Rounding
import SceneScript.Number.Shortest

/-!
# Rounding a quotient inside a datum's interval

A positive finite datum stands for the interval of reals that round to it
(`Decimal.roundingInterval`): half-way to each neighbouring datum, the ends included exactly
when its significand is even. `Binary64.ofRatio` rounds correctly: a quotient of units that
lies in the interval of a datum rounds to that datum (`ofRatio_of_contains`). With the
interval in half-units, the proof reads the step `ofRatio` estimates off the quotient's binary
exponent, then rounds the significand to the datum's; the one quotient that needs the finer
step is just below a power of two, where the datum below is twice as close.
-/

namespace SceneScript

namespace Decimal.RoundingInterval

/-- Whether the quotient `N / D` of half-units lies in the interval. -/
def Contains (iv : RoundingInterval) (N D : Nat) : Prop :=
  (iv.low * D < N ∨ (iv.inclusive = true ∧ iv.low * D = N)) ∧
    (N < iv.high * D ∨ (iv.inclusive = true ∧ N = iv.high * D))

theorem low_le_of_contains {iv : RoundingInterval} {N D : Nat} (h : iv.Contains N D) :
    iv.low * D ≤ N := by
  rcases h.1 with h | ⟨-, h⟩ <;> omega

end Decimal.RoundingInterval

theorem Decimal.roundingInterval_low_of_least {E : Fin 2047} {F : Fin (pow2 52)} (hF : F.val = 0)
    (hE : 1 < E.val) :
    (roundingInterval E F).low = 2 * Binary64.unitsOf E F - pow2 (Binary64.stepOf E) / 2 := by
  simp [roundingInterval, hF, hE]

namespace Binary64

/-! ## The datum of a significand and a step -/

theorem significandOf_lt (E : Fin 2047) (F : Fin (pow2 52)) : significandOf E F < pow2 53 := by
  have hF := F.isLt
  simp only [significandOf, hidden, pow2_eq] at hF ⊢
  split <;> omega

theorem encode_significand (neg : Bool) (E : Fin 2047) (F : Fin (pow2 52)) :
    encode neg (significandOf E F) (stepOf E) = finite neg E F := by
  have hF : F.val < hidden := F.isLt
  by_cases hE : E.val = 0
  · have hsig : significandOf E F = F.val := by simp [significandOf, hE]
    have hE' : E = 0 := Fin.ext hE
    rw [hsig]
    unfold encode
    rw [dif_pos hF, hE']
  · have hsig : significandOf E F = hidden + F.val := by simp [significandOf, hE]
    have hstep : stepOf E + 1 = E.val := by simp only [stepOf]; omega
    rw [hsig]
    unfold encode
    have hnot : ¬ hidden + F.val < hidden := by omega
    have hfield : stepOf E + 1 < 2047 := by omega
    simp only [hnot, hfield, dif_neg, dif_pos, not_false_eq_true]
    have hfrac : (hidden + F.val - hidden) % pow2 52 = F.val := by
      rw [Nat.add_sub_cancel_left]
      exact Nat.mod_eq_of_lt hF
    exact congr (congrArg (finite neg) (Fin.ext hstep)) (Fin.ext hfrac)

/-! ## The binary exponent of a quotient -/

theorem le_floorLog2Ratio {n d : Nat} (c : Nat) (hd : d ≠ 0) (h : d * 2 ^ c ≤ n) :
    (c : Int) ≤ floorLog2Ratio n d := by
  have hn : n ≠ 0 := by
    have : 0 < d * 2 ^ c := Nat.mul_pos (Nat.pos_of_ne_zero hd) (by positivity)
    omega
  have hlog : d.log2 + c ≤ n.log2 := by
    rw [Nat.le_log2 hn, Nat.pow_add]
    exact le_trans (Nat.mul_le_mul_right _ (Nat.log2_self_le hd)) h
  unfold floorLog2Ratio
  simp only [pow2_eq]
  split
  · split
    · omega
    · rename_i hnot
      have hne : ((n.log2 : Int) - d.log2).toNat ≠ c := by
        intro heq
        rw [heq] at hnot
        exact hnot (decide_eq_true h)
      omega
  · omega

/-! ## Rounding the significand -/

theorem roundHalfEven_eq {n D M : Nat} (hD : 0 < D) (hM : 0 < M)
    (hlo : (2 * M - 1) * D ≤ 2 * n) (hhi : 2 * n ≤ (2 * M + 1) * D)
    (hloTie : (2 * M - 1) * D = 2 * n → M % 2 = 0)
    (hhiTie : 2 * n = (2 * M + 1) * D → M % 2 = 0) : roundHalfEven n D = M := by
  obtain ⟨K, rfl⟩ : ∃ K, M = K + 1 := ⟨M - 1, by omega⟩
  rw [show 2 * (K + 1) - 1 = 2 * K + 1 by omega] at hlo hloTie
  have hdiv := Nat.div_add_mod n D
  have hr := Nat.mod_lt n hD
  unfold roundHalfEven
  generalize n / D = q at *
  generalize n % D = r at *
  subst hdiv
  have hqM : q ≤ K + 1 := by
    by_contra hgt
    have := Nat.mul_le_mul_left D (show K + 2 ≤ q by omega)
    nlinarith
  have hMq : K ≤ q := by
    by_contra hgt
    have := Nat.mul_le_mul_left D (show q + 1 ≤ K by omega)
    nlinarith
  dsimp only
  rcases Nat.eq_or_lt_of_le hqM with rfl | hlt
  · have h2r : 2 * r ≤ D := by nlinarith
    split_ifs <;> first | rfl | omega | (have htie := hhiTie (by nlinarith); omega)
  · obtain rfl : q = K := by omega
    have h2r : D ≤ 2 * r := by nlinarith
    split_ifs <;> first | omega | (have htie := hloTie (by nlinarith); omega)

/-! ## A quotient in the interval -/

/-- The interval of a datum with significand `M` and step `2^Q`, in half-units: it reaches at
least half a step below the datum and exactly half a step above it, and an end is reached only
when `M` is even. -/
theorem contains_bounds {E : Fin 2047} {F : Fin (pow2 52)} {N d : Nat}
    (h : (Decimal.roundingInterval E F).Contains N d) :
    (2 * significandOf E F - 1) * pow2 (stepOf E) * d ≤ N ∧
      N ≤ (2 * significandOf E F + 1) * pow2 (stepOf E) * d ∧
      ((2 * significandOf E F - 1) * pow2 (stepOf E) * d = N → significandOf E F % 2 = 0) ∧
      (N = (2 * significandOf E F + 1) * pow2 (stepOf E) * d → significandOf E F % 2 = 0) := by
  obtain ⟨hlow, hhigh⟩ := h
  simp only [Decimal.roundingInterval, unitsOf, decide_eq_true_eq] at hlow hhigh
  generalize significandOf E F = M at *
  generalize pow2 (stepOf E) = T at *
  have hgap : (2 * M - 1) * T ≤ 2 * (M * T) - (if F.val = 0 ∧ 1 < E.val then T / 2 else T) := by
    have hle : (if F.val = 0 ∧ 1 < E.val then T / 2 else T) ≤ T := by split <;> omega
    have hsub : (2 * M - 1) * T = 2 * (M * T) - T := by
      rw [Nat.sub_mul, one_mul, Nat.mul_assoc]
    omega
  have hgapd := Nat.mul_le_mul_right d hgap
  have hhighEq : (2 * (M * T) + T) * d = (2 * M + 1) * T * d := by ring
  rw [hhighEq] at hhigh
  refine ⟨?_, ?_, ?_, ?_⟩
  · rcases hlow with hlt | ⟨-, heq⟩ <;> omega
  · rcases hhigh with hlt | ⟨-, heq⟩ <;> omega
  · intro htie
    rcases hlow with hlt | ⟨hincl, -⟩
    · omega
    · exact hincl
  · intro htie
    rcases hhigh with hlt | ⟨hincl, -⟩
    · omega
    · exact hincl

theorem estimatedStep_eq {n d : Nat} (c : Nat) (hd : d ≠ 0) (hge : d * 2 ^ (52 + c) ≤ n)
    (hlt : n < d * 2 ^ (52 + c + 1)) : (floorLog2Ratio n d - 52).toNat = c := by
  have hn : n ≠ 0 := by
    have : 0 < d * 2 ^ (52 + c) := Nat.mul_pos (Nat.pos_of_ne_zero hd) (by positivity)
    omega
  have hlo := le_floorLog2Ratio (52 + c) hd hge
  have hhi := floorLog2Ratio_le (52 + c) hn hlt
  omega

theorem ofRatio_of_round (neg : Bool) {n d q m : Nat} (hn : 0 < n) (hd : 0 < d)
    (hq : (floorLog2Ratio n d - 52).toNat = q) (hm : roundHalfEven n (d * pow2 q) = m) :
    ofRatio neg n d = if m = pow2 53 then encode neg hidden (q + 1) else encode neg m q := by
  unfold ofRatio
  rw [if_neg (by omega)]
  dsimp only
  rw [hq, hm]

section Contains

variable (neg : Bool) {E : Fin 2047} {F : Fin (pow2 52)} {n d : Nat}

theorem ofRatio_of_contains_at_step (hu : 0 < unitsOf E F) (hn : 0 < n) (hd : 0 < d)
    (h : (Decimal.roundingInterval E F).Contains (2 * n) d)
    (hq : (floorLog2Ratio n d - 52).toNat = stepOf E) :
    ofRatio neg n d = finite neg E F := by
  obtain ⟨hlo, hhi, hloTie, hhiTie⟩ := contains_bounds h
  have hMlt := significandOf_lt E F
  have hMpos : 0 < significandOf E F := Nat.pos_of_mul_pos_right hu
  have hT : 0 < pow2 (stepOf E) := pow2_pos _
  generalize hM : significandOf E F = M at *
  generalize hQ : stepOf E = Q at *
  have hm : roundHalfEven n (d * pow2 Q) = M := by
    apply roundHalfEven_eq (Nat.mul_pos hd hT) hMpos
    · linarith [Nat.mul_comm d (pow2 Q), Nat.mul_assoc (2 * M - 1) (pow2 Q) d]
    · linarith [Nat.mul_comm d (pow2 Q), Nat.mul_assoc (2 * M + 1) (pow2 Q) d]
    · intro htie
      exact hloTie (by rw [← htie]; ring)
    · intro htie
      exact hhiTie (by rw [htie]; ring)
  rw [ofRatio_of_round neg hn hd hq hm, if_neg (by omega), ← hM, ← hQ, encode_significand]

theorem least_of_contains_below (h : (Decimal.roundingInterval E F).Contains (2 * n) d)
    (hQ : stepOf E ≠ 0)
    (hlt : n < d * 2 ^ (52 + stepOf E)) :
    1 < E.val ∧ F.val = 0 := by
  obtain ⟨hlo, -, -, -⟩ := contains_bounds h
  have hE : 1 < E.val := by simp only [stepOf] at hQ; omega
  have hnormal : significandOf E F = hidden + F.val := by simp [significandOf]; omega
  have hMle : 2 * significandOf E F - 1 < 2 * pow2 52 := by
    have hmul : (2 * significandOf E F - 1) * (pow2 (stepOf E) * d) <
        2 * pow2 52 * (pow2 (stepOf E) * d) :=
      calc (2 * significandOf E F - 1) * (pow2 (stepOf E) * d) ≤ 2 * n := by
            rw [← Nat.mul_assoc]
            exact hlo
        _ < 2 * (d * 2 ^ (52 + stepOf E)) := by omega
        _ = 2 * pow2 52 * (pow2 (stepOf E) * d) := by
            simp only [pow2_eq, Nat.pow_add]
            ring
    exact Nat.lt_of_mul_lt_mul_right hmul
  refine ⟨hE, ?_⟩
  simp only [hidden] at hnormal
  omega

theorem ofRatio_of_contains_least (hE : 1 < E.val) (hF0 : F.val = 0) (hn : 0 < n) (hd : 0 < d)
    (h : (Decimal.roundingInterval E F).Contains (2 * n) d)
    (hlt : n < d * 2 ^ (52 + stepOf E)) :
    ofRatio neg n d = finite neg E F := by
  have hM : significandOf E F = hidden := by simp [significandOf, hF0, show E.val ≠ 0 by omega]
  obtain ⟨Q', hQ⟩ : ∃ Q', stepOf E = Q' + 1 := ⟨stepOf E - 1, by simp only [stepOf]; omega⟩
  have hsplit : pow2 (Q' + 1) = 2 * pow2 Q' := by simp only [pow2_eq, Nat.pow_succ]; ring
  rw [hQ] at hlt
  have hlow := (Decimal.roundingInterval E F).low_le_of_contains h
  rw [Decimal.roundingInterval_low_of_least hF0 hE, unitsOf, hM, hQ, hsplit,
    Nat.mul_div_cancel_left _ (by norm_num)] at hlow
  have hlow' : (2 * pow2 53 - 1) * (d * pow2 Q') ≤ 2 * n := by
    have : 2 * pow2 53 - 1 = 4 * hidden - 1 := by simp only [hidden, pow2_eq]; norm_num
    rw [this]
    have : (2 * (hidden * (2 * pow2 Q')) - pow2 Q') = (4 * hidden - 1) * pow2 Q' := by
      rw [Nat.sub_mul, one_mul]; ring_nf
    rw [this] at hlow
    linarith [Nat.mul_comm d (pow2 Q')]
  have hge : d * 2 ^ (52 + Q') ≤ n := by
    have : d * 2 ^ (52 + Q') = hidden * pow2 Q' * d := by
      simp only [hidden, pow2_eq, Nat.pow_add]; ring
    rw [this]
    have hk : 2 * hidden ≤ 2 * pow2 53 - 1 := by simp only [hidden, pow2_eq]; norm_num
    have := Nat.mul_le_mul_right (d * pow2 Q') hk
    linarith
  have hq : (floorLog2Ratio n d - 52).toNat = Q' :=
    estimatedStep_eq Q' (by omega) hge (by rwa [show 52 + Q' + 1 = 52 + (Q' + 1) by omega])
  have hm : roundHalfEven n (d * pow2 Q') = pow2 53 := by
    apply roundHalfEven_eq (Nat.mul_pos hd (pow2_pos _)) (pow2_pos _) hlow'
    · have : d * 2 ^ (52 + (Q' + 1)) = pow2 53 * (d * pow2 Q') := by
        simp only [pow2_eq, Nat.pow_add, Nat.pow_succ]; ring
      rw [this] at hlt
      nlinarith
    · intro _; simp [pow2_eq, Nat.pow_succ]
    · intro _; simp [pow2_eq, Nat.pow_succ]
  rw [ofRatio_of_round neg hn hd hq hm, if_pos rfl, ← hM, ← hQ, encode_significand]

theorem ofRatio_of_contains (hu : 0 < unitsOf E F) (hd : 0 < d)
    (h : (Decimal.roundingInterval E F).Contains (2 * n) d) :
    ofRatio neg n d = finite neg E F := by
  obtain ⟨hlo, hhi, -, -⟩ := contains_bounds h
  have hMlt := significandOf_lt E F
  have hMpos : 0 < significandOf E F := Nat.pos_of_mul_pos_right hu
  have hT : 0 < pow2 (stepOf E) := pow2_pos _
  have hn : 0 < n := by
    have : 0 < (2 * significandOf E F - 1) * pow2 (stepOf E) * d :=
      Nat.mul_pos (Nat.mul_pos (by omega) hT) hd
    omega
  have hbelow : n < d * 2 ^ (52 + stepOf E + 1) := by
    have h53 : 2 * significandOf E F + 1 < 2 * pow2 53 := by omega
    have : (2 * significandOf E F + 1) * pow2 (stepOf E) * d <
        2 * pow2 53 * pow2 (stepOf E) * d :=
      Nat.mul_lt_mul_of_pos_right (Nat.mul_lt_mul_of_pos_right h53 hT) hd
    rw [show 2 * pow2 53 * pow2 (stepOf E) * d = 2 * (d * 2 ^ (52 + stepOf E + 1)) by
      simp only [pow2_eq, Nat.pow_add, Nat.pow_succ]; ring] at this
    omega
  by_cases hstep : d * 2 ^ (52 + stepOf E) ≤ n
  · exact ofRatio_of_contains_at_step neg hu hn hd h
      (estimatedStep_eq _ (by omega) hstep hbelow)
  by_cases hQ : stepOf E = 0
  · have hup := floorLog2Ratio_le (52 + stepOf E) (by omega) hbelow
    exact ofRatio_of_contains_at_step neg hu hn hd h (by omega)
  · obtain ⟨hE, hF0⟩ := least_of_contains_below h hQ (by omega)
    exact ofRatio_of_contains_least neg hE hF0 hn hd h (by omega)

end Contains

end Binary64

end SceneScript
