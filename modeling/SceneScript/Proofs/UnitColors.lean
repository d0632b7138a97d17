import Mathlib
import SceneScript.Proofs.Rounding
import SceneScript.Proofs.OutputLines

/-!
# Colours in the unit cube

Every colour the compilers write into a script lies in the unit cube: each channel is a finite
datum in `[0, 1]`. That holds of the colour of a render component, of a space's background and
ambient colours, of a light's colour, and of the ambient light's colour scaled by the light's
intensity.

Each reader of `Color.normalize` gives only such colours, by what its data can be:

* the hexadecimal forms give bytes, and a byte divided by 255 lies in `[0, 1]`;
* an `rgb(...)` numeral is written with a minus sign, a point and decimal digits, so it never
  spells the word `nan`: it reads as a number or an infinity, which the clamp to `[0, 255]`
  makes finite before the division by 255;
* an object's channels are finite numbers, and neither dividing them by 255 nor clamping them
  to `[0, 1]` gives NaN.

Scaling multiplies finite data, which never gives NaN, and clamps again, so the sign of the
factor does not matter.
-/

namespace SceneScript

open Binary64

/-! ## Reading a number -/

namespace Binary64

theorem isFinite_one : one.isFinite = true := inUnit_one.1

theorem isNaN_of_isFinite {x : Binary64} (h : x.isFinite = true) : x.isNaN = false := by
  cases x with
  | finite => rfl
  | _ => cases h

theorem isZero_ofNat_255 : (ofNat 255).isZero = false := by
  rw [ofNat_255_eq]
  simp only [isZero, unitsOf_ofNat_255, decide_eq_false_iff_not]
  exact Nat.ne_of_gt (Nat.mul_pos (by decide) (pow2_pos _))

theorem isNaN_ofDecimal (neg : Bool) (digits : Nat) (exp10 : Int) :
    (ofDecimal neg digits exp10).isNaN = false := by
  unfold ofDecimal
  dsimp only
  split_ifs
  · rfl
  · rfl
  · rfl
  · exact isNaN_ofRatio _ _ _
  · exact isNaN_ofRatio _ _ _

theorem isNaN_readUnsignedDecimal? {neg : Bool} {cs : List Char} {x : Binary64}
    (h : readUnsignedDecimal? neg cs = some x) : x.isNaN = false := by
  unfold readUnsignedDecimal? at h
  split at h
  split at h
  split_ifs at h
  obtain ⟨e, -, rfl⟩ := Option.map_eq_some_iff.1 h
  exact isNaN_ofDecimal _ _ _

theorem lowerWord_cons (c : Char) (cs : List Char) :
    lowerWord (c :: cs) =
      (if 'A' ≤ c ∧ c ≤ 'Z' then Char.ofNat (c.toNat + 32) else c) :: lowerWord cs := rfl

theorem eq_n_of_lower_eq_n {c : Char}
    (h : (if 'A' ≤ c ∧ c ≤ 'Z' then Char.ofNat (c.toNat + 32) else c) = 'n') :
    c = 'n' ∨ c = 'N' := by
  split_ifs at h with hc
  · right
    have hcode := congrArg Char.toNat h
    rw [Char.toNat_ofNat] at hcode
    split at hcode
    · apply Char.toNat_inj.1
      simp only [Char.le_def] at hc
      have hn : 'n'.toNat = 110 := rfl
      have hN : 'N'.toNat = 78 := rfl
      omega
    · cases hcode
  · exact Or.inl h

theorem mem_of_ofText?_eq_nan {s : String} (h : ofText? s = some nan) :
    'n' ∈ s.toList ∨ 'N' ∈ s.toList := by
  unfold ofText? at h
  split at h
  rename_i neg cs hsign
  have hsub : ∀ c ∈ cs, c ∈ s.toList := by
    intro c hc
    split at hsign <;> rename_i hs <;> cases hsign <;> simp [hs, hc]
  split_ifs at h with hempty
  split at h
  · rename_i x hx
    cases h
    simpa [isNaN] using isNaN_readUnsignedDecimal? hx
  · dsimp only at h
    split_ifs at h with hinf hnan
    · cases h
    cases cs with
    | nil => cases hnan
    | cons c rest =>
      rw [lowerWord_cons] at hnan
      rcases eq_n_of_lower_eq_n (List.cons.inj hnan).1 with rfl | rfl
      · exact Or.inl (hsub _ List.mem_cons_self)
      · exact Or.inr (hsub _ List.mem_cons_self)

end Binary64

theorem Json.toNumber?_isFinite {v : Json} {x : Binary64} (h : v.toNumber? = some x) :
    x.isFinite = true := by
  cases v with
  | num n =>
    simp only [Json.toNumber?] at h
    split_ifs at h with hx
    cases h
    exact hx
  | str s =>
    simp only [Json.toNumber?] at h
    split_ifs at h
    split at h
    · split_ifs at h with hx
      cases h
      exact hx
    · cases h
  | bool b =>
    cases b <;> simp only [Json.toNumber?, Option.some.injEq, Bool.false_eq_true, ↓reduceIte] at h
      <;> subst h
    · rfl
    · exact isFinite_one
  | _ => cases h

theorem Text.toNat_of_isDecimalDigit {c : Char} (h : Text.isDecimalDigit c = true) :
    c.toNat ≤ 0x39 ∨ 0x660 ≤ c.toNat := by
  obtain ⟨r, hr, hc⟩ := List.any_eq_true.1 h
  have hranges : ∀ r ∈ Text.decimalDigitRanges, r.2 ≤ 0x39 ∨ 0x660 ≤ r.1 := by decide
  have := hranges r hr
  simp only [decide_eq_true_eq] at hc
  omega

/-! ## The unit cube -/

namespace Rgb

/-- Every channel a finite datum in `[0, 1]`. -/
def InUnitCube (c : Rgb) : Prop :=
  c.r.InUnit ∧ c.g.InUnit ∧ c.b.InUnit

instance (c : Rgb) : Decidable c.InUnitCube :=
  inferInstanceAs (Decidable (_ ∧ _ ∧ _))

theorem inUnitCube_white : white.InUnitCube := by
  simp only [InUnitCube, white]
  exact ⟨inUnit_one, inUnit_one, inUnit_one⟩

theorem inUnit_byteChannel {n : Nat} (h : n < 256) : (byteChannel n).InUnit := by
  obtain ⟨hfin, hzero, hle⟩ := ofNat_between (n := n) (by omega)
  exact inUnit_div_ofNat_255 hfin hzero hle

theorem inUnitCube_ofBytes {r g b : Nat} (hr : r < 256) (hg : g < 256) (hb : b < 256) :
    (ofBytes r g b).InUnitCube :=
  ⟨inUnit_byteChannel hr, inUnit_byteChannel hg, inUnit_byteChannel hb⟩

theorem clamped_inUnitCube {c : Rgb} (hr : c.r.isNaN = false) (hg : c.g.isNaN = false)
    (hb : c.b.isNaN = false) : ∃ c', c.clamped = .ok c' ∧ c'.InUnitCube :=
  ⟨_, clamped_eq c, inUnit_clamp hr, inUnit_clamp hg, inUnit_clamp hb⟩

theorem scaled_inUnitCube {c : Rgb} (hc : c.InUnitCube) {f : Binary64} (hf : f.isFinite = true) :
    ∃ c', c.scaled f = .ok c' ∧ c'.InUnitCube := by
  obtain ⟨hr, hg, hb⟩ := hc
  rw [scaled_eq]
  exact ⟨_, rfl, inUnit_clamp (isNaN_mul hr.1 hf), inUnit_clamp (isNaN_mul hg.1 hf),
    inUnit_clamp (isNaN_mul hb.1 hf)⟩

end Rgb

/-! ## The readers of a colour

Each reader is total (`Faultless`); here, every colour it reads lies in the unit cube. -/

namespace Color

theorem byteOfHex?_lt {cs : List Char} {v : Nat} (h : byteOfHex? cs = some v) : v < 256 := by
  unfold byteOfHex? at h
  split at h <;> dsimp only at h <;> split at h
  · cases h
  · exact of_decide_eq_true (Option.filter_eq_some_iff.1 h).2
  · cases h
  · exact of_decide_eq_true (Option.filter_eq_some_iff.1 h).2

theorem ofHexPairs_inUnitCube {ds : List Char} {c : Rgb} (h : ofHexPairs ds = .ok (some c)) :
    c.InUnitCube := by
  unfold ofHexPairs at h
  obtain ⟨rs, -, h⟩ := bind_eq_ok.1 h
  split at h
  · rename_i r hr
    obtain ⟨gs, -, h⟩ := bind_eq_ok.1 h
    split at h
    · rename_i g hg
      obtain ⟨bs, -, h⟩ := bind_eq_ok.1 h
      split at h
      · rename_i b hb
        obtain rfl := Option.some.inj (Except.ok.inj h)
        exact Rgb.inUnitCube_ofBytes (byteOfHex?_lt hr) (byteOfHex?_lt hg) (byteOfHex?_lt hb)
      · cases h
    · cases h
  · cases h

theorem byte_lt {n m : Nat} (h : Fault.byte n = .ok m) : m < 256 := by
  unfold Fault.byte at h
  split_ifs at h with hn
  cases h
  exact hn

theorem shortChannel_lt {c : Char} {v : Nat} (h : shortChannel c = .ok (some v)) : v < 256 := by
  unfold shortChannel at h
  split at h
  · cases h
  · obtain ⟨high, -, h⟩ := bind_eq_ok.1 h
    obtain ⟨byte, hbyte, h⟩ := bind_eq_ok.1 h
    obtain rfl := Option.some.inj (Except.ok.inj h)
    exact byte_lt hbyte

theorem ofShortOrFullHex_inUnitCube {cs : List Char} {c : Rgb}
    (h : ofShortOrFullHex cs = .ok (some c)) : c.InUnitCube := by
  unfold ofShortOrFullHex at h
  split at h
  · cases h
  · split at h
    · split at h
      · obtain ⟨ro, hr, h⟩ := bind_eq_ok.1 h
        split at h
        · obtain ⟨go, hg, h⟩ := bind_eq_ok.1 h
          split at h
          · obtain ⟨bo, hb, h⟩ := bind_eq_ok.1 h
            split at h
            · obtain rfl := Option.some.inj (Except.ok.inj h)
              exact Rgb.inUnitCube_ofBytes (shortChannel_lt hr) (shortChannel_lt hg)
                (shortChannel_lt hb)
            · cases h
          · cases h
        · cases h
      · cases h
    · exact ofHexPairs_inUnitCube h

theorem ofAlphaHex_inUnitCube {cs : List Char} {c : Rgb} (h : ofAlphaHex cs = .ok (some c)) :
    c.InUnitCube := by
  unfold ofAlphaHex at h
  split at h
  · cases h
  · obtain ⟨ds, -, h⟩ := bind_eq_ok.1 h
    exact ofHexPairs_inUnitCube h

/-- The characters a channel numeral is written with: a minus sign, a point and decimal digits
of any script. -/
def NumeralChar (c : Char) : Prop :=
  c = '-' ∨ c = '.' ∨ Text.isDecimalDigit c = true

theorem NumeralChar.ne_n {c : Char} (h : NumeralChar c) : c ≠ 'n' ∧ c ≠ 'N' := by
  rcases h with rfl | rfl | hd
  · decide
  · decide
  · have := Text.toNat_of_isDecimalDigit hd
    constructor <;> rintro rfl <;> simp at this

theorem spanDigits_fst {cs : List Char} :
    ∀ c ∈ (spanDigits cs).1, Text.isDecimalDigit c = true := by
  intro c hc
  rw [spanDigits, List.span_eq_takeWhile_dropWhile] at hc
  exact List.mem_takeWhile_imp hc

theorem matchFraction_chars {cs f rest : List Char} (h : matchFraction cs = some (f, rest)) :
    ∀ c ∈ f, c = '.' ∨ Text.isDecimalDigit c = true := by
  unfold matchFraction at h
  split at h
  · split at h
    · cases h
    · rename_i ds r _ hspan
      cases h
      intro c hc
      rcases List.mem_cons.1 hc with rfl | hc
      · exact Or.inl rfl
      · exact Or.inr (spanDigits_fst c (by rw [hspan]; exact hc))
  · cases h
    simp

theorem matchChannel_chars {cs numeral rest : List Char}
    (h : matchChannel cs = some (numeral, rest)) : ∀ c ∈ numeral, NumeralChar c := by
  unfold matchChannel at h
  split at h
  rename_i sign cs' hsign
  split at h
  · cases h
  · rename_i ds r _ hspan
    obtain ⟨⟨f, r'⟩, hf, h⟩ := Option.map_eq_some_iff.1 h
    cases h
    have hsign' : ∀ c ∈ sign, c = '-' := by
      split at hsign <;> cases hsign <;> simp
    intro c hc
    simp only [List.mem_append] at hc
    rcases hc with (hc | hc) | hc
    · exact Or.inl (hsign' c hc)
    · exact Or.inr (Or.inr (spanDigits_fst c (by rw [hspan]; exact hc)))
    · rcases matchFraction_chars hf c hc with h | h
      · exact Or.inr (Or.inl h)
      · exact Or.inr (Or.inr h)

theorem matchChannelThen_chars {sep : Char} {cs numeral rest : List Char}
    (h : matchChannelThen sep cs = some (numeral, rest)) : ∀ c ∈ numeral, NumeralChar c := by
  unfold matchChannelThen at h
  split at h
  · cases h
  · rename_i ch r hch
    split at h
    · split_ifs at h
      cases h
      exact matchChannel_chars hch
    · cases h

theorem matchFunctional_chars {cs r g b : List Char} (h : matchFunctional cs = some (r, g, b)) :
    (∀ c ∈ r, NumeralChar c) ∧ (∀ c ∈ g, NumeralChar c) ∧ ∀ c ∈ b, NumeralChar c := by
  unfold matchFunctional at h
  split at h <;> simp only [Option.bind_eq_bind, Option.bind_some, Option.bind_none,
    Option.bind_eq_some_iff, Prod.exists, reduceCtorEq] at h
  all_goals
    obtain ⟨r', rest₁, hr, g', rest₂, hg, h⟩ := h
    split at h
    · rename_i b' rest₃ hb
      obtain ⟨tail, -, h⟩ := Option.bind_eq_some_iff.1 h
      split at h
      · cases h
        exact ⟨matchChannelThen_chars hr, matchChannelThen_chars hg, matchChannel_chars hb⟩
      · cases h
    · cases h

theorem functionalChannel_inUnit {numeral : List Char} {x : Binary64}
    (hn : ∀ c ∈ numeral, NumeralChar c) (h : functionalChannel numeral = .ok (some x)) :
    x.InUnit := by
  unfold functionalChannel at h
  split at h
  · cases h
  · rename_i v hv
    have hnan : v.isNaN = false := by
      cases v with
      | nan =>
        rcases mem_of_ofText?_eq_nan hv with hmem | hmem <;> rw [String.toList_ofList] at hmem
        · exact absurd rfl (hn _ hmem).ne_n.1
        · exact absurd rfl (hn _ hmem).ne_n.2
      | _ => rfl
    rw [clampAssert_of_le _ (zero_le_ofNat 255), ok_bind] at h
    obtain rfl := Option.some.inj (Except.ok.inj h)
    obtain ⟨hfin, hlo, hhi⟩ := clamp_between hnan rfl isFinite_ofNat_255 (zero_le_ofNat 255)
    exact inUnit_div_ofNat_255 hfin hlo hhi

theorem ofFunctional_inUnitCube {cs : List Char} {c : Rgb} (h : ofFunctional cs = .ok (some c)) :
    c.InUnitCube := by
  unfold ofFunctional at h
  split at h
  · cases h
  · rename_i r g b hm
    obtain ⟨hr, hg, hb⟩ := matchFunctional_chars hm
    obtain ⟨ro, hro, h⟩ := bind_eq_ok.1 h
    split at h
    · obtain ⟨go, hgo, h⟩ := bind_eq_ok.1 h
      split at h
      · obtain ⟨bo, hbo, h⟩ := bind_eq_ok.1 h
        split at h
        · obtain rfl := Option.some.inj (Except.ok.inj h)
          exact ⟨functionalChannel_inUnit hr hro, functionalChannel_inUnit hg hgo,
            functionalChannel_inUnit hb hbo⟩
        · cases h
      · cases h
    · cases h

theorem objectChannels?_not_nan {v : Json} {c : Rgb} (h : objectChannels? v = some c) :
    c.r.isNaN = false ∧ c.g.isNaN = false ∧ c.b.isNaN = false := by
  unfold objectChannels? at h
  simp only [Option.bind_eq_bind, Option.bind_eq_some_iff] at h
  obtain ⟨-, -, r, ⟨_, -, hr⟩, g, ⟨_, -, hg⟩, b, ⟨_, -, hb⟩, h⟩ := h
  have hr := Json.toNumber?_isFinite hr
  have hg := Json.toNumber?_isFinite hg
  have hb := Json.toNumber?_isFinite hb
  split_ifs at h
  · obtain rfl := Option.some.inj h
    exact ⟨isNaN_div hr isFinite_ofNat_255 isZero_ofNat_255,
      isNaN_div hg isFinite_ofNat_255 isZero_ofNat_255,
      isNaN_div hb isFinite_ofNat_255 isZero_ofNat_255⟩
  · obtain rfl := Option.some.inj h
    exact ⟨isNaN_of_isFinite hr, isNaN_of_isFinite hg, isNaN_of_isFinite hb⟩

theorem ofObject_inUnitCube {v : Json} {c : Rgb} (h : ofObject v = .ok (some c)) :
    c.InUnitCube := by
  unfold ofObject at h
  split at h
  · cases h
  · rename_i c₀ hc₀
    obtain ⟨hr, hg, hb⟩ := objectChannels?_not_nan hc₀
    obtain ⟨c', hc', hcube⟩ := Rgb.clamped_inUnitCube hr hg hb
    rw [hc'] at h
    obtain rfl := Option.some.inj (Except.ok.inj h)
    exact hcube

theorem getD_white_inUnitCube {o : Option Rgb} (h : ∀ c, o = some c → c.InUnitCube) :
    (o.getD Rgb.white).InUnitCube := by
  cases o with
  | none => exact Rgb.inUnitCube_white
  | some c => exact h c rfl

theorem normalize_inUnitCube (raw : Option Json) :
    ∃ c, normalize raw = .ok c ∧ c.InUnitCube := by
  obtain ⟨c, hc⟩ := normalize_ok raw
  refine ⟨c, hc, ?_⟩
  unfold normalize at hc
  split at hc
  · obtain rfl := Except.ok.inj hc
    exact Rgb.inUnitCube_white
  · obtain ⟨short, hshort, hc⟩ := bind_eq_ok.1 hc
    split at hc
    · obtain rfl := Except.ok.inj hc
      exact ofShortOrFullHex_inUnitCube hshort
    · obtain ⟨alpha, halpha, hc⟩ := bind_eq_ok.1 hc
      split at hc
      · obtain rfl := Except.ok.inj hc
        exact ofAlphaHex_inUnitCube halpha
      · obtain ⟨o, ho, hc⟩ := bind_eq_ok.1 hc
        obtain rfl := Except.ok.inj hc
        exact getD_white_inUnitCube fun c hc => ofFunctional_inUnitCube (hc ▸ ho)
  · obtain ⟨o, ho, hc⟩ := bind_eq_ok.1 hc
    obtain rfl := Except.ok.inj hc
    exact getD_white_inUnitCube fun c hc => ofObject_inUnitCube (hc ▸ ho)

theorem resolve_inUnitCube (bag : Json) : ∃ c, resolve bag = .ok c ∧ c.InUnitCube :=
  normalize_inUnitCube _

end Color

/-! ## Where colours are written -/

namespace RenderParams

theorem ofNode_color_inUnitCube (n : Node) : ∃ p, ofNode n = .ok p ∧ p.color.InUnitCube := by
  obtain ⟨c, hc, hcube⟩ := Color.resolve_inUnitCube n.data
  simp only [ofNode, hc, ok_bind]
  exact ⟨_, rfl, hcube⟩

end RenderParams

namespace SpaceSettings

theorem defaultBackground_inUnitCube : defaultBackground.InUnitCube := by
  unfold defaultBackground
  exact Rgb.inUnitCube_ofBytes (by decide) (by decide) (by decide)

theorem ofDecimal_two_tenths :
    ofDecimal false 2 (-1) = ofRatio false (2 * pow2 unitShift) (pow10 1) := by
  decide +kernel

theorem defaultAmbient_inUnitCube : defaultAmbient.InUnitCube := by
  have hc : (ofDecimal false 2 (-1)).InUnit := by
    rw [ofDecimal_two_tenths]
    exact inUnit_ofRatio (by decide) (by decide)
  simp only [defaultAmbient, Rgb.InUnitCube]
  exact ⟨hc, hc, hc⟩

theorem colorOr_inUnitCube (n : Node) (paths : List (List String)) {dflt : Rgb}
    (hd : dflt.InUnitCube) : ∃ c, colorOr n paths dflt = .ok c ∧ c.InUnitCube := by
  unfold colorOr
  split
  · exact Color.normalize_inUnitCube _
  · exact ⟨_, rfl, hd⟩

theorem ofNode_colors_inUnitCube (n : Node) (fallback : String) :
    ∃ s, ofNode n fallback = .ok s ∧ s.background.InUnitCube ∧ s.ambient.InUnitCube := by
  obtain ⟨background, hb, hbcube⟩ :=
    colorOr_inUnitCube n backgroundPaths defaultBackground_inUnitCube
  obtain ⟨ambient, ha, hacube⟩ :=
    colorOr_inUnitCube n (Node.paramPaths "ambientColor") defaultAmbient_inUnitCube
  simp only [ofNode, hb, ha, ok_bind]
  exact ⟨_, rfl, hbcube, hacube⟩

end SpaceSettings

namespace LightScript

theorem intensity_finite_nonneg (n : Node) :
    (intensity n).isFinite = true ∧ zero.le (intensity n) = true := by
  unfold intensity nonNegative?
  cases h : (n.number? (Node.paramPaths "intensity")).filter (zero.le ·) with
  | none =>
    rw [Option.getD_none]
    exact ⟨isFinite_one, inUnit_one.2.1⟩
  | some x =>
    rw [Option.getD_some]
    obtain ⟨hx, hle⟩ := Option.filter_eq_some_iff.1 h
    obtain ⟨v, -, hv⟩ := Option.bind_eq_some_iff.1 hx
    exact ⟨Json.toNumber?_isFinite hv, hle⟩

end LightScript

/-- Every colour written into a script lies in the unit cube: whatever raw value a colour is
normalized from; scaled by any finite factor; as a render component's colour; as a space's
background and ambient colours; and as a light's colour, with its intensity finite and at
least zero, and that colour scaled by the intensity for an ambient light. -/
theorem script_colours_lie_in_the_unit_cube :
    (∀ raw : Json, ∃ c, Color.normalize (some raw) = .ok c ∧ c.InUnitCube) ∧
    (∀ (c : Rgb) (f : Binary64), c.InUnitCube → f.isFinite = true →
      ∃ c', c.scaled f = .ok c' ∧ c'.InUnitCube) ∧
    (∀ n : Node, ∃ p, RenderParams.ofNode n = .ok p ∧ p.color.InUnitCube) ∧
    (∀ (n : Node) (fallback : String), ∃ s, SpaceSettings.ofNode n fallback = .ok s ∧
      s.background.InUnitCube ∧ s.ambient.InUnitCube) ∧
    (∀ n : Node, ∃ c, Color.resolve n.data = .ok c ∧ c.InUnitCube ∧
      (LightScript.intensity n).isFinite = true ∧ zero.le (LightScript.intensity n) = true ∧
      ∃ a, c.scaled (LightScript.intensity n) = .ok a ∧ a.InUnitCube) := by
  refine ⟨fun raw => Color.normalize_inUnitCube (some raw),
    fun c f hc hf => Rgb.scaled_inUnitCube hc hf, RenderParams.ofNode_color_inUnitCube,
    SpaceSettings.ofNode_colors_inUnitCube, fun n => ?light⟩
  case light =>
    obtain ⟨c, hc, hcube⟩ := Color.resolve_inUnitCube n.data
    obtain ⟨hfin, hnonneg⟩ := LightScript.intensity_finite_nonneg n
    exact ⟨c, hc, hcube, hfin, hnonneg, Rgb.scaled_inUnitCube hcube hfin⟩

end SceneScript
