import Mathlib
import SceneScript.Compile.Event
import SceneScript.Proofs.ColorNotations

/-!
# The delay of a timer

A timer event fires every `interval` seconds: the interval is the positive number at the node's
`interval` parameter, or one, and the delay written into `setInterval` is the product
`interval * 1000` as `Script.number` writes it.

The interval is positive and finite, so the product is positive: rounding a quotient of at
least one unit never gives zero. When the product is finite its text is a positive decimal
with no sign. But the product can overflow: `Script.number` writes every non-finite datum as
`0`, so an interval near the top of the range gives a timer with no delay at all.
-/

namespace SceneScript

namespace Binary64

/-! ## Rounding keeps a positive quotient positive -/

theorem roundHalfEven_pos {n d : Nat} (hd : 0 < d) (h : d ≤ n) : 0 < roundHalfEven n d := by
  have hq : 0 < n / d := Nat.div_pos h hd
  unfold roundHalfEven
  dsimp only
  split_ifs <;> omega

theorem encode_units_pos {neg s : Bool} {m q : Nat} {E : Fin 2047} {F : Fin (pow2 52)}
    (hm : 0 < m) (h : encode neg m q = finite s E F) : 0 < unitsOf E F := by
  unfold encode at h
  split_ifs at h with hsub hnormal
  · obtain ⟨-, rfl, rfl⟩ := finite.inj h
    rw [unitsOf_zero_exp]
    exact hm
  · obtain ⟨-, rfl, rfl⟩ := finite.inj h
    rw [unitsOf_succ_exp]
    exact Nat.mul_pos (Nat.add_pos_left (pow2_pos 52) _) (pow2_pos q)

theorem encode_sign {neg s : Bool} {m q : Nat} {E : Fin 2047} {F : Fin (pow2 52)}
    (h : encode neg m q = finite s E F) : s = neg := by
  unfold encode at h
  split_ifs at h
  · exact (finite.inj h).1.symm
  · exact (finite.inj h).1.symm

theorem step_le {n d : Nat} (hn : n ≠ 0) (h : d ≤ n) :
    d * pow2 (floorLog2Ratio n d - 52).toNat ≤ n := by
  generalize hq : (floorLog2Ratio n d - 52).toNat = q
  by_contra hle
  have hlt := Nat.lt_of_not_le hle
  cases q with
  | zero =>
    rw [show pow2 0 = 1 from rfl, Nat.mul_one] at hlt
    omega
  | succ k =>
    have hle := floorLog2Ratio_le k hn (by rw [← pow2_eq]; exact hlt)
    omega

theorem ofRatio_units_pos {neg s : Bool} {n d : Nat} {E : Fin 2047} {F : Fin (pow2 52)}
    (hd : 0 < d) (h : d ≤ n) (hx : ofRatio neg n d = finite s E F) : 0 < unitsOf E F := by
  have hn : 0 < n := lt_of_lt_of_le hd h
  have hstep := step_le (Nat.pos_iff_ne_zero.1 hn) h
  generalize hq : (floorLog2Ratio n d - 52).toNat = q at hstep
  have hm := roundHalfEven_pos (Nat.mul_pos hd (pow2_pos q)) hstep
  rw [ofRatio_of_round neg hn hd hq rfl] at hx
  split_ifs at hx
  · exact encode_units_pos (pow2_pos 52) hx
  · exact encode_units_pos hm hx

theorem ofRatio_sign {neg s : Bool} {n d : Nat} {E : Fin 2047} {F : Fin (pow2 52)}
    (hx : ofRatio neg n d = finite s E F) : s = neg := by
  unfold ofRatio at hx
  split at hx
  · exact (finite.inj hx).1.symm
  · dsimp only at hx
    split_ifs at hx
    · exact encode_sign hx
    · exact encode_sign hx

theorem mul_ofNat_pos {E : Fin 2047} {F : Fin (pow2 52)} {k : Nat} {s : Bool} {E' : Fin 2047}
    {F' : Fin (pow2 52)} (hu : 0 < unitsOf E F) (hk : 0 < k) (hk53 : k < pow2 53)
    (h : finite false E F * ofNat k = finite s E' F') : s = false ∧ 0 < unitsOf E' F' := by
  obtain ⟨Ek, Fk, hek, hunits⟩ := ofNat_exact hk53
  rw [hek] at h
  change ofRatio (false != false) (unitsOf E F * unitsOf Ek Fk) (pow2 unitShift) = _ at h
  rw [hunits] at h
  have hle : pow2 unitShift ≤ unitsOf E F * (k * pow2 unitShift) := by
    calc pow2 unitShift = 1 * (1 * pow2 unitShift) := by rw [Nat.one_mul, Nat.one_mul]
      _ ≤ unitsOf E F * (k * pow2 unitShift) :=
        Nat.mul_le_mul hu (Nat.mul_le_mul_right _ hk)
  exact ⟨ofRatio_sign h, ofRatio_units_pos (pow2_pos _) hle h⟩

theorem pos_of_zero_lt {s : Bool} {E : Fin 2047} {F : Fin (pow2 52)}
    (h : zero.lt (finite s E F) = true) : s = false ∧ 0 < unitsOf E F := by
  rw [zero_eq, lt_finite, unitsOf_zero_exp, decide_eq_true_eq] at h
  cases s
  · simp only [signedUnits, Bool.false_eq_true, if_false, Nat.cast_zero] at h
    exact ⟨rfl, by exact_mod_cast h⟩
  · simp only [signedUnits, if_true, Nat.cast_zero] at h
    omega

theorem zero_lt_one_eq : zero.lt one = true := by
  rw [one_eq, zero_eq, lt_finite, unitsOf_one, unitsOf_zero_exp, decide_eq_true_eq]
  simp only [signedUnits, Bool.false_eq_true, if_false, Nat.cast_zero]
  exact Int.ofNat_lt.2 (pow2_pos 1074)

theorem add_zero_of_pos {E : Fin 2047} {F : Fin (pow2 52)} (hu : 0 < unitsOf E F) :
    finite false E F + zero = finite false E F := by
  have hcontains : (Decimal.roundingInterval E F).Contains (2 * unitsOf E F) 1 := by
    have hgap : 0 < (if F.val = 0 ∧ 1 < E.val then pow2 (stepOf E) / 2 else pow2 (stepOf E)) := by
      split_ifs with h
      · have hstep : 2 ≤ pow2 (stepOf E) :=
          Decimal.pow2_le_pow2 (a := 1) (by unfold stepOf; omega)
        omega
      · exact pow2_pos _
    have hstep := pow2_pos (stepOf E)
    refine ⟨Or.inl ?_, Or.inl ?_⟩ <;> simp only [Decimal.roundingInterval] <;> omega
  rw [zero_eq]
  show add (finite false E F) (finite false 0 ⟨0, pow2_pos 52⟩) = _
  simp only [add, signedUnits, Bool.false_eq_true, if_false, unitsOf_zero_exp, Nat.cast_zero,
    add_zero, Nat.cast_eq_zero, Nat.pos_iff_ne_zero.1 hu, Int.natAbs_natCast]
  have hsign : decide ((unitsOf E F : Int) < 0) = false := by simp
  rw [hsign]
  exact ofRatio_of_contains false hu Nat.one_pos hcontains

end Binary64

namespace NumberLayout

theorem mem_plainText {layout : NumberLayout} {ds : List Char} {s : Int} {c : Char}
    (h : c ∈ (layout.plainText ds s).toList) : c ∈ ds ∨ c = '0' ∨ c = '.' := by
  unfold plainText at h
  dsimp only at h
  split_ifs at h
  · simp [zeros] at h
    tauto
  · simp only [String.toList_append, String.toList_ofList, List.mem_append] at h
    rcases h with (h | h) | h
    · exact Or.inl (List.mem_of_mem_take h)
    · exact Or.inr (Or.inr (by simpa using h))
    · exact Or.inl (List.mem_of_mem_drop h)
  all_goals
    simp [zeros] at h
    tauto

theorem mem_plainText_of_mem {layout : NumberLayout} {ds : List Char} {s : Int} {c : Char}
    (h : c ∈ ds) : c ∈ (layout.plainText ds s).toList := by
  unfold plainText
  dsimp only
  split_ifs
  · simp [h]
  · rw [← List.take_append_drop ((ds.length : Int) + s).toNat ds] at h
    rcases List.mem_append.1 h with h | h <;> simp [h]
  all_goals simp [h]

end NumberLayout

namespace Script

theorem number_of_not_finite {x : Binary64} (h : x.isFinite = false) : number x = "0" := by
  simp [number, h]

theorem number_of_pos {E : Fin 2047} {F : Fin (pow2 52)} (hu : 0 < Binary64.unitsOf E F) :
    number (.finite false E F) =
        NumberLayout.script.plainText (Nat.toDigits 10 (Decimal.shortestOfFields .up E F).digits)
          (Decimal.shortestOfFields .up E F).exp ∧
      (Decimal.shortestOfFields .up E F).digits ≠ 0 := by
  have hd := Json.digits_ne_zero_of_holds hu (Decimal.shortestOfFields_holds .up hu)
  refine ⟨?_, hd⟩
  unfold number
  rw [if_pos (show (Binary64.finite false E F).isFinite = true from rfl),
    Binary64.add_zero_of_pos hu]
  have htie : NumberLayout.script.tie = .up := rfl
  have hplain : ∀ top, NumberLayout.script.isPlain top = true := fun _ => rfl
  simp only [NumberLayout.render, Bool.false_eq_true, if_false, NumberLayout.decimalText, htie,
    if_neg hd, hplain, if_true, String.empty_append]

theorem number_of_pos_text {E : Fin 2047} {F : Fin (pow2 52)} (hu : 0 < Binary64.unitsOf E F) :
    '-' ∉ (number (.finite false E F)).toList ∧
      ∃ c ∈ (number (.finite false E F)).toList, c.isDigit = true ∧ c ≠ '0' := by
  obtain ⟨heq, hd⟩ := number_of_pos hu
  rw [heq]
  constructor
  · intro hm
    rcases NumberLayout.mem_plainText hm with h | h | h
    · exact absurd (Json.isDigit_of_mem_toDigits h) (by decide)
    · exact absurd h (by decide)
    · exact absurd h (by decide)
  · obtain ⟨c, cs, hcs⟩ := List.exists_cons_of_ne_nil (Nat.toDigits_ne_nil (n := _) (b := 10))
    have hhead := Json.head?_toDigits_ne_zero hd
    rw [hcs] at hhead
    have hc : c ∈ Nat.toDigits 10 (Decimal.shortestOfFields .up E F).digits := by
      rw [hcs]
      exact List.mem_cons_self
    exact ⟨c, NumberLayout.mem_plainText_of_mem hc, Json.isDigit_of_mem_toDigits hc,
      fun h => hhead (by rw [h]; rfl)⟩

theorem number_ne_zero_of_pos {E : Fin 2047} {F : Fin (pow2 52)} (hu : 0 < Binary64.unitsOf E F) :
    number (.finite false E F) ≠ "0" := by
  obtain ⟨-, c, hc, -, hc0⟩ := number_of_pos_text hu
  intro h
  rw [h] at hc
  exact hc0 (List.mem_singleton.1 hc)

end Script

namespace Binary64

theorem positive?_getD_one {x? : Option Binary64} (hx : ∀ x, x? = some x → x.isFinite = true) :
    zero.lt ((positive? x?).getD one) = true ∧ ((positive? x?).getD one).isFinite = true := by
  -- rewrite to `one` before using its facts, never unfolding it
  cases x? with
  | none =>
    simp only [positive?, Option.filter_none, Option.getD_none]
    exact ⟨zero_lt_one_eq, isFinite_one⟩
  | some x =>
    unfold positive?
    rw [Option.filter_some]
    by_cases h : zero.lt x = true
    · rw [if_pos h, Option.getD_some]
      exact ⟨h, hx x rfl⟩
    · rw [if_neg h, Option.getD_none]
      exact ⟨zero_lt_one_eq, isFinite_one⟩

end Binary64

namespace EventScript

open Binary64 in
/-- The delay of every timer. The interval is positive and finite, and the statement written is
`setInterval` with the delay `interval * 1000` as `Script.number` writes it. That text is `0`
exactly when the product overflows; otherwise the product is positive and its text has no sign
and a digit other than zero. -/
theorem timer_delay_is_zero_only_on_overflow (n : Node) (id : String) :
    let interval := (positive? (n.number? (Node.paramPaths "interval"))).getD one
    let millis := interval * ofNat 1000
    zero.lt interval = true ∧ interval.isFinite = true ∧
    hook n id .timer = Script.block [
      "const handle = setInterval(function () \x7b",
      "    runActions(actions);",
      "\x7d, " ++ Script.number millis ++ ");",
      "app.once(\"destroy\", function () \x7b",
      "    clearInterval(handle);",
      "\x7d);"] ∧
    (Script.number millis = "0" ↔ millis.isFinite = false) ∧
    (millis.isFinite = true → zero.lt millis = true ∧ '-' ∉ (Script.number millis).toList ∧
      ∃ c ∈ (Script.number millis).toList, c.isDigit = true ∧ c ≠ '0') := by
  intro interval millis
  have hread : ∀ x, n.number? (Node.paramPaths "interval") = some x → x.isFinite = true := by
    intro x hx
    obtain ⟨v, -, hv⟩ := Option.bind_eq_some_iff.1 hx
    exact Json.toNumber?_isFinite hv
  obtain ⟨hpos, hfin⟩ : zero.lt interval = true ∧ interval.isFinite = true :=
    positive?_getD_one hread
  refine ⟨hpos, hfin, rfl, ?_⟩
  have hmillis : millis = interval * ofNat 1000 := rfl
  clear_value millis interval
  obtain ⟨s, E, F, rfl⟩ := exists_of_isFinite hfin
  obtain ⟨rfl, hu⟩ := pos_of_zero_lt hpos
  have hprod :
      millis.isFinite = true → ∃ E' F', millis = finite false E' F' ∧ 0 < unitsOf E' F' := by
    intro hm
    obtain ⟨s', E', F', hm'⟩ := exists_of_isFinite hm
    obtain ⟨rfl, hu'⟩ := mul_ofNat_pos (k := 1000) hu (by decide) (by decide) (hmillis ▸ hm')
    exact ⟨E', F', hm', hu'⟩
  refine ⟨⟨fun h0 => ?_, Script.number_of_not_finite⟩, fun hm => ?_⟩
  · by_contra hm
    obtain ⟨E', F', hm', hu'⟩ := hprod (Bool.not_eq_false _ ▸ hm)
    exact Script.number_ne_zero_of_pos hu' (hm' ▸ h0)
  · obtain ⟨E', F', hm', hu'⟩ := hprod hm
    rw [hm']
    refine ⟨?_, Script.number_of_pos_text hu'⟩
    rw [zero_eq, lt_finite, unitsOf_zero_exp]
    simpa [signedUnits] using hu'

/-- A timer with no interval waits a positive delay. -/
theorem timer_without_interval_has_positive_delay :
    ((Binary64.positive? ((⟨none, .obj []⟩ : Node).number? (Node.paramPaths "interval"))).getD
        Binary64.one * Binary64.ofNat 1000).isFinite = true ∧
      Binary64.zero.lt ((Binary64.positive? ((⟨none, .obj []⟩ : Node).number?
        (Node.paramPaths "interval"))).getD Binary64.one * Binary64.ofNat 1000) = true :=
  ⟨by decide +kernel,
    ((timer_delay_is_zero_only_on_overflow ⟨none, .obj []⟩ "t").2.2.2.2 (by decide +kernel)).1⟩

/-- A timer every `1e306` seconds: the delay `1e309` milliseconds overflows, and the timer is
written with the delay `0`. -/
theorem timer_of_huge_interval_has_no_delay :
    let n : Node := ⟨some "t", .obj [("eventType", .str "timer"),
      ("interval", .float (Binary64.ofDecimal false 1 306))]⟩
    n.eventKind = .timer ∧
      hook n "t" .timer = Script.block [
        "const handle = setInterval(function () \x7b",
        "    runActions(actions);",
        "\x7d, 0);",
        "app.once(\"destroy\", function () \x7b",
        "    clearInterval(handle);",
        "\x7d);"] := by
  decide +kernel

end EventScript

end SceneScript
