import Mathlib
import SceneScript.Proofs.NearestDatum
import SceneScript.Proofs.NumberTokens
import SceneScript.Proofs.SpawnPoint
import SceneScript.Proofs.UnitColors

/-!
# Colour notations agree

The notations of a colour that `Color.normalize` reads give bit for bit the same channels:

* `#rrggbb` in either case reads the bytes of its three pairs, `Rgb.ofBytes r g b`;
* `#rrggbbaa` reads the same bytes, whatever its alpha pair;
* `rgb(r, g, b)` and `rgba(r, g, b, a)`, for any alpha numeral `a`, read the decimal numerals
  as numbers, which the clamp to `[0, 255]` keeps, and divide them by 255 as a byte is;
* an object `{r, g, b}` whose largest channel exceeds one is read on the byte scale, and the
  clamp to `[0, 1]` keeps its channels;
* `#xyz` reads as `#xxyyzz`: a doubled digit is the byte `16 v + v`.

The reading of a text does not depend on its ASCII case, since every hexadecimal digit has one
value in both cases and the functional form is lowercased first, nor on blanks around it, which
trimming removes.

Comparing the byte scale needs the datum of a small natural number exactly: below `2^53` a
natural number is a datum, and `Binary64.ofNat` rounds it to itself (`Binary64.ofNat_exact`).
-/

namespace SceneScript

namespace Binary64

/-! ## Small natural numbers are data -/

theorem significand_bounds {n : Nat} (hn : n ≠ 0) (h : n < pow2 53) :
    n.log2 ≤ 52 ∧ pow2 52 ≤ n * pow2 (52 - n.log2) ∧ n * pow2 (52 - n.log2) < pow2 53 := by
  have hk : n.log2 < 53 := (Nat.log2_lt hn).2 h
  have hlo : 2 ^ n.log2 ≤ n := Nat.log2_self_le hn
  have hhi : n < 2 ^ (n.log2 + 1) := Nat.lt_log2_self
  have h52 : pow2 52 = 2 ^ n.log2 * pow2 (52 - n.log2) := by
    rw [pow2_eq, pow2_eq, ← Nat.pow_add]
    congr 1
    omega
  have h53 : pow2 53 = 2 ^ (n.log2 + 1) * pow2 (52 - n.log2) := by
    rw [pow2_eq, pow2_eq, ← Nat.pow_add]
    congr 1
    omega
  refine ⟨by omega, ?_, ?_⟩
  · rw [h52]
    exact Nat.mul_le_mul_right _ hlo
  · rw [h53]
    exact Nat.mul_lt_mul_of_pos_right hhi (pow2_pos _)

theorem ofNat_exact {n : Nat} (h : n < pow2 53) :
    ∃ E F, ofNat n = finite false E F ∧ unitsOf E F = n * pow2 unitShift := by
  rcases Nat.eq_zero_or_pos n with rfl | hn
  · refine ⟨0, ⟨0, pow2_pos 52⟩, ?_, by simp [unitsOf_zero_exp]⟩
    unfold ofNat ofRatio
    rw [if_pos (Or.inl (Nat.zero_mul _))]
    rfl
  obtain ⟨hk, hM52, hM53⟩ := significand_bounds (Nat.pos_iff_ne_zero.1 hn) h
  generalize hk' : n.log2 = k at hk hM52 hM53
  generalize hM : n * pow2 (52 - k) = M at hM52 hM53
  let E : Fin 2047 := ⟨1022 + k + 1, by omega⟩
  let F : Fin (pow2 52) := ⟨M - pow2 52, by rw [pow2_eq] at *; omega⟩
  have hunits : unitsOf E F = n * pow2 unitShift := by
    have hsum : hidden + F.val = M := by simp only [hidden, F]; omega
    have hexp : 52 - k + (1022 + k) = unitShift := by simp only [unitShift]; omega
    rw [unitsOf_succ_exp, hsum, ← hM, Nat.mul_assoc, ← pow2_add, hexp]
  have hstep : 0 < pow2 (stepOf E) := pow2_pos _
  have hu : 0 < unitsOf E F := by rw [hunits]; exact Nat.mul_pos hn (pow2_pos _)
  refine ⟨E, F, ?_, hunits⟩
  apply ofRatio_of_contains false hu Nat.one_pos
  have hgap : 0 < (if F.val = 0 ∧ 1 < E.val then pow2 (stepOf E) / 2 else pow2 (stepOf E)) := by
    have hE : stepOf E = 1022 + k := by simp [E, stepOf]
    have h2 : 2 ≤ pow2 (stepOf E) := by
      rw [hE, pow2_eq]
      calc 2 = 2 ^ 1 := rfl
        _ ≤ 2 ^ (1022 + k) := Nat.pow_le_pow_right (by norm_num) (by omega)
    split <;> omega
  simp only [Decimal.RoundingInterval.Contains, Decimal.roundingInterval, ← hunits, Nat.mul_one]
  omega

theorem ofNat_zero : ofNat 0 = zero := by
  unfold ofNat ofRatio
  rw [if_pos (Or.inl (Nat.zero_mul _))]
  rfl

theorem ofNat_lt_ofNat {a b : Nat} (ha : a < pow2 53) (hb : b < pow2 53) :
    (ofNat a).lt (ofNat b) = decide (a < b) := by
  obtain ⟨E, F, hae, hau⟩ := ofNat_exact ha
  obtain ⟨E', F', hbe, hbu⟩ := ofNat_exact hb
  rw [hae, hbe, lt_finite, hau, hbu]
  simp only [signedUnits, Bool.false_eq_true, if_false, Nat.cast_lt, decide_eq_decide]
  exact Nat.mul_lt_mul_right (pow2_pos _)

theorem ofInt_natCast (n : Nat) : ofInt n = ofNat n := by
  have hsign : decide ((n : Int) < 0) = false := by simp
  simp [ofInt, ofNat, hsign]

theorem lt_eq_false_of_le {x y : Binary64} (hx : x.isFinite = true) (hy : y.isFinite = true)
    (h : x.le y = true) : y.lt x = false := by
  obtain ⟨s, e, f, rfl⟩ := exists_of_isFinite hx
  obtain ⟨t, e', f', rfl⟩ := exists_of_isFinite hy
  rw [le_finite, decide_eq_true_eq] at h
  rw [lt_finite, decide_eq_false_iff_not]
  omega

theorem clamp_eq_self {x lo hi : Binary64} (hx : x.isFinite = true) (hlo : lo.isFinite = true)
    (hhi : hi.isFinite = true) (h1 : lo.le x = true) (h2 : x.le hi = true) :
    x.clamp lo hi = x := by
  rw [clamp, lt_eq_false_of_le hlo hx h1, lt_eq_false_of_le hx hhi h2]
  rfl

/-! ## Reading a decimal numeral -/

theorem readUnsignedDecimal?_digits (neg : Bool) {ds : List Char}
    (hds : ∀ c ∈ ds, c.isDigit = true) (hne : ds ≠ []) :
    readUnsignedDecimal? neg ds = some (ofDecimal neg (digitsValue ds) 0) := by
  simp [readUnsignedDecimal?, List.takeWhile_eq_self_iff.2 hds, List.dropWhile_eq_nil_iff.2 hds,
    hne]

theorem ofDecimal_nat {n : Nat} (h : decimalLength n ≤ 310) : ofDecimal false n 0 = ofNat n := by
  unfold ofDecimal
  by_cases h0 : n = 0
  · rw [if_pos h0, h0, ofNat_zero]
    rfl
  · rw [if_neg h0]
    dsimp only
    rw [if_neg (by omega), if_neg (by omega), if_pos le_rfl]
    simp [pow10, ofNat]

theorem ofText?_toDigits {n : Nat} (h : decimalLength n ≤ 310) :
    ofText? (String.ofList (Nat.toDigits 10 n)) = some (ofNat n) := by
  have hdigits : ∀ c ∈ Nat.toDigits 10 n, c.isDigit = true := fun c hc => Json.isDigit_of_mem_toDigits hc
  obtain ⟨d, ds, hds⟩ := List.exists_cons_of_ne_nil (Nat.toDigits_ne_nil (b := 10) (n := n))
  have hd := hdigits d (by rw [hds]; exact List.mem_cons_self)
  have hminus : d ≠ '-' := by rintro rfl; cases hd
  have hplus : d ≠ '+' := by rintro rfl; cases hd
  unfold ofText?
  rw [String.toList_ofList]
  split
  rename_i neg cs hsign
  obtain ⟨rfl, rfl⟩ : neg = false ∧ cs = d :: ds := by
    rw [hds] at hsign
    split at hsign <;> simp_all
  rw [← hds, readUnsignedDecimal?_digits false hdigits Nat.toDigits_ne_nil, digitsValue_toDigits,
    ofDecimal_nat h]
  simp

end Binary64

/-! ## Hexadecimal notations -/

namespace Text

theorem isBlank_of_printable {c : Char} (h1 : 33 ≤ c.toNat) (h2 : c.toNat ≤ 126) :
    isBlank c = false := by
  simp only [isBlank, inRanges, blankRanges, List.any_cons, List.any_nil, Bool.or_false,
    Bool.or_eq_false_iff, decide_eq_false_iff_not]
  omega

theorem isBlank_of_isDecimalDigit {c : Char} (h : isDecimalDigit c = true) : isBlank c = false := by
  obtain ⟨r, hr, hc⟩ := List.any_eq_true.1 h
  have hdisjoint : ∀ r ∈ decimalDigitRanges, ∀ q ∈ blankRanges, r.2 < q.1 ∨ q.2 < r.1 := by
    decide +kernel
  simp only [decide_eq_true_eq] at hc
  rw [isBlank, inRanges, List.any_eq_false]
  intro q hq
  have := hdisjoint r hr q hq
  simp only [decide_eq_true_eq]
  omega

end Text

namespace Color

theorem hexDigit?_printable {c : Char} {v : Nat} (h : hexDigit? c = some v) :
    48 ≤ c.toNat ∧ c.toNat ≤ 102 := by
  unfold hexDigit? at h
  simp only [Char.le_def] at h
  split_ifs at h with h1 h2 h3 <;> cases h
  all_goals
    simp only [Char.toNat, UInt32.le_iff_toNat_le] at *
    constructor <;> simp at * <;> omega

theorem isBlank_of_hexDigit? {c : Char} {v : Nat} (h : hexDigit? c = some v) :
    Text.isBlank c = false :=
  Text.isBlank_of_printable (by have := hexDigit?_printable h; omega)
    (by have := hexDigit?_printable h; omega)

theorem isHexDigit_of_hexDigit? {c : Char} {v : Nat} (h : hexDigit? c = some v) :
    isHexDigit c = true := by
  simp [isHexDigit, h]

theorem byteOfHex?_pair {hi lo : Char} {a b : Nat} (ha : hexDigit? hi = some a)
    (hb : hexDigit? lo = some b) : byteOfHex? [hi, lo] = some (a * 16 + b) := by
  have ha16 := (hexDigit?_spec ha).1
  have hb16 := (hexDigit?_spec hb).1
  have hplus : hi ≠ '+' := by
    rintro rfl
    simp [hexDigit?] at ha
  simp [byteOfHex?, hplus, ha, hb, List.foldlM]
  omega

/-- `p` is two hexadecimal digits that read as the byte `v`. -/
structure HexPair (p : List Char) (v : Nat) : Prop where
  length : p.length = 2
  digits : ∀ c ∈ p, isHexDigit c = true
  value : byteOfHex? p = some v

theorem hexPair_of_digits {hi lo : Char} {a b : Nat} (ha : hexDigit? hi = some a)
    (hb : hexDigit? lo = some b) : HexPair [hi, lo] (a * 16 + b) where
  length := rfl
  digits := by
    intro c hc
    rcases List.mem_pair.1 hc with rfl | rfl
    · exact isHexDigit_of_hexDigit? ha
    · exact isHexDigit_of_hexDigit? hb
  value := byteOfHex?_pair ha hb

theorem hexPairs_digits {p q t : List Char} {r g b : Nat} (hp : HexPair p r) (hq : HexPair q g)
    (ht : HexPair t b) : ∀ c ∈ p ++ q ++ t, isHexDigit c = true := by
  intro c hc
  simp only [List.mem_append] at hc
  rcases hc with (hc | hc) | hc
  · exact hp.digits c hc
  · exact hq.digits c hc
  · exact ht.digits c hc

theorem ofHexPairs_of_pairs {p q t : List Char} {r g b : Nat} (hp : HexPair p r)
    (hq : HexPair q g) (ht : HexPair t b) :
    ofHexPairs (p ++ q ++ t) = .ok (some (Rgb.ofBytes r g b)) := by
  have hascii : ∀ c ∈ p ++ q ++ t, c.utf8Size = 1 :=
    fun c hc => isHexDigit_utf8Size (hexPairs_digits hp hq ht c hc)
  have hlen : (p ++ q ++ t).length = 6 := by simp [hp.length, hq.length, ht.length]
  simp only [ofHexPairs, Text.sliceBytes_ascii _ hascii (Nat.zero_le 2) (by omega),
    Text.sliceBytes_ascii _ hascii (by omega : 2 ≤ 4) (by omega),
    Text.sliceBytes_ascii _ hascii (by omega : 4 ≤ 6) (by omega), ok_bind]
  have hcut₁ : ((p ++ q ++ t).drop 0).take (2 - 0) = p := by
    simp only [List.drop_zero, List.append_assoc, Nat.sub_zero, List.take_left' hp.length]
  have hcut₂ : ((p ++ q ++ t).drop 2).take (4 - 2) = q := by
    simp only [List.append_assoc, List.drop_left' hp.length, show 4 - 2 = 2 from rfl,
      List.take_left' hq.length]
  have hcut₃ : ((p ++ q ++ t).drop 4).take (6 - 4) = t := by
    have hpq : (p ++ q).length = 4 := by simp [hp.length, hq.length]
    rw [List.drop_left' hpq, show 6 - 4 = t.length from ht.length.symm, List.take_length]
  rw [hcut₁, hcut₂, hcut₃, hp.value, hq.value, ht.value]
  rfl

theorem shortChannel_of_hexDigit? {c : Char} {v : Nat} (h : hexDigit? c = some v) :
    shortChannel c = .ok (some (v * 16 + v)) := by
  have hv := (hexDigit?_spec h).1
  have h1 : v * 16 < 256 := by omega
  have h2 : v * 16 + v < 256 := by omega
  simp [shortChannel, h, Fault.byte, h1, h2]

theorem ofShortOrFullHex_pairs {p q t : List Char} {r g b : Nat} (hp : HexPair p r)
    (hq : HexPair q g) (ht : HexPair t b) :
    ofShortOrFullHex ('#' :: (p ++ q ++ t)) = .ok (some (Rgb.ofBytes r g b)) := by
  have hdigits := hexPairs_digits hp hq ht
  have hlen : (p ++ q ++ t).length = 6 := by simp [hp.length, hq.length, ht.length]
  have hbytes : Text.byteLength (p ++ q ++ t) = 6 := by
    rw [Text.byteLength_ascii _ fun c hc => isHexDigit_utf8Size (hdigits c hc), hlen]
  have hmatch : shortOrFullDigits? ('#' :: (p ++ q ++ t)) = some (p ++ q ++ t) := by
    simp only [shortOrFullDigits?, hlen, List.all_eq_true.2 hdigits]
    rfl
  simp only [ofShortOrFullHex, hmatch, hbytes]
  exact ofHexPairs_of_pairs hp hq ht

theorem ofShortOrFullHex_three {x y z : Char} {a b c : Nat} (hx : hexDigit? x = some a)
    (hy : hexDigit? y = some b) (hz : hexDigit? z = some c) :
    ofShortOrFullHex ['#', x, y, z] =
      .ok (some (Rgb.ofBytes (a * 16 + a) (b * 16 + b) (c * 16 + c))) := by
  have hdigits : ∀ d ∈ [x, y, z], isHexDigit d = true := by
    simp [isHexDigit_of_hexDigit? hx, isHexDigit_of_hexDigit? hy, isHexDigit_of_hexDigit? hz]
  have hbytes : Text.byteLength [x, y, z] = 3 :=
    Text.byteLength_ascii _ fun d hd => isHexDigit_utf8Size (hdigits d hd)
  have hmatch : shortOrFullDigits? ['#', x, y, z] = some [x, y, z] := by
    simp [shortOrFullDigits?, List.all_eq_true.2 hdigits]
  simp only [ofShortOrFullHex, hmatch, hbytes, shortChannel_of_hexDigit? hx,
    shortChannel_of_hexDigit? hy, shortChannel_of_hexDigit? hz, ok_bind, if_true]
  rfl

theorem ofShortOrFullHex_eight {ds : List Char} (h : ds.length = 8) :
    ofShortOrFullHex ('#' :: ds) = .ok none := by
  simp [ofShortOrFullHex, shortOrFullDigits?, h]
  rfl

theorem ofAlphaHex_pairs {p q t a : List Char} {r g b x : Nat} (hp : HexPair p r)
    (hq : HexPair q g) (ht : HexPair t b) (ha : HexPair a x) :
    ofAlphaHex ('#' :: (p ++ q ++ t ++ a)) = .ok (some (Rgb.ofBytes r g b)) := by
  have hdigits : ∀ c ∈ p ++ q ++ t ++ a, isHexDigit c = true := by
    intro c hc
    rcases List.mem_append.1 hc with hc | hc
    · exact hexPairs_digits hp hq ht c hc
    · exact ha.digits c hc
  have hsix : (p ++ q ++ t).length = 6 := by simp [hp.length, hq.length, ht.length]
  have hlen : (p ++ q ++ t ++ a).length = 8 := by rw [List.length_append, hsix, ha.length]
  have hmatch : alphaDigits? ('#' :: (p ++ q ++ t ++ a)) = some (p ++ q ++ t ++ a) := by
    simp only [alphaDigits?, hlen, List.all_eq_true.2 hdigits]
    rfl
  have hcut : Text.sliceBytes (p ++ q ++ t ++ a) 0 6 = .ok (p ++ q ++ t) := by
    rw [Text.sliceBytes_ascii _ (fun c hc => isHexDigit_utf8Size (hdigits c hc)) (Nat.zero_le 6)
      (by omega), List.drop_zero, Nat.sub_zero, List.take_left' hsix]
  simp only [ofAlphaHex, hmatch, hcut, ok_bind]
  exact ofHexPairs_of_pairs hp hq ht

/-! ## What `normalize` does with a text -/

theorem normalize_of_short {s : String} {c : Rgb}
    (h : ofShortOrFullHex (Text.trimChars s.toList) = .ok (some c)) :
    normalize (some (.str s)) = .ok c := by
  simp only [normalize, h, ok_bind]
  rfl

theorem normalize_of_alpha {s : String} {c : Rgb}
    (h₁ : ofShortOrFullHex (Text.trimChars s.toList) = .ok none)
    (h₂ : ofAlphaHex (Text.trimChars s.toList) = .ok (some c)) :
    normalize (some (.str s)) = .ok c := by
  simp only [normalize, h₁, h₂, ok_bind]
  rfl

theorem normalize_of_functional {s : String} {c : Rgb}
    (h₁ : ofShortOrFullHex (Text.trimChars s.toList) = .ok none)
    (h₂ : ofAlphaHex (Text.trimChars s.toList) = .ok none)
    (h₃ : ofFunctional (Text.trimChars s.toList) = .ok (some c)) :
    normalize (some (.str s)) = .ok c := by
  simp only [normalize, h₁, h₂, h₃, ok_bind]
  rfl

theorem trimChars_of_not_blank {cs : List Char} (h : ∀ c ∈ cs, Text.isBlank c = false) :
    Text.trimChars cs = cs :=
  Text.trimChars_of_ends (fun c hc => h c (List.mem_of_mem_head? hc))
    (fun c hc => h c (List.mem_of_getLast? hc))

theorem trimChars_hash {ds : List Char} (h : ∀ c ∈ ds, isHexDigit c = true) :
    Text.trimChars ('#' :: ds) = '#' :: ds := by
  apply trimChars_of_not_blank
  intro c hc
  rcases List.mem_cons.1 hc with rfl | hc
  · rfl
  · obtain ⟨v, hv⟩ := Option.isSome_iff_exists.1 (h c hc)
    exact isBlank_of_hexDigit? hv

/-! ## Bytes in hexadecimal -/

def hexDigitChars : List Char :=
  ['0', '1', '2', '3', '4', '5', '6', '7', '8', '9', 'a', 'b', 'c', 'd', 'e', 'f',
   'A', 'B', 'C', 'D', 'E', 'F']

theorem hexDigit?_of_mem : ∀ c ∈ hexDigitChars, (hexDigit? c).isSome = true := by
  intro c hc
  fin_cases hc <;> rfl

def hexDigitIn (upper : Bool) (v : Nat) : Char :=
  if upper then (Nat.digitChar v).toUpper else Nat.digitChar v

def hexByte (upper : Bool) (n : Nat) : List Char :=
  [hexDigitIn upper (n / 16), hexDigitIn upper (n % 16)]

def hexNotation (upper : Bool) (bytes : List Nat) : String :=
  String.ofList ('#' :: bytes.flatMap (hexByte upper))

theorem hexDigit?_hexDigitIn (upper : Bool) {v : Nat} (h : v < 16) :
    hexDigit? (hexDigitIn upper v) = some v := by
  cases upper <;> interval_cases v <;> rfl

theorem hexPair_hexByte (upper : Bool) {n : Nat} (h : n < 256) : HexPair (hexByte upper n) n := by
  have hpair := hexPair_of_digits (hexDigit?_hexDigitIn upper (show n / 16 < 16 by omega))
    (hexDigit?_hexDigitIn upper (show n % 16 < 16 by omega))
  rwa [Nat.div_add_mod'] at hpair

section Bytes

variable (upper : Bool) {r g b : Nat} (hr : r < 256) (hg : g < 256) (hb : b < 256)
include hr hg hb

theorem normalize_hex_rgb :
    normalize (some (.str (hexNotation upper [r, g, b]))) = .ok (Rgb.ofBytes r g b) := by
  have hp := hexPair_hexByte upper hr
  have hq := hexPair_hexByte upper hg
  have ht := hexPair_hexByte upper hb
  have htext : (hexNotation upper [r, g, b]).toList =
      '#' :: (hexByte upper r ++ hexByte upper g ++ hexByte upper b) := by
    simp [hexNotation]
  apply normalize_of_short
  rw [htext, trimChars_hash (hexPairs_digits hp hq ht)]
  exact ofShortOrFullHex_pairs hp hq ht

theorem normalize_hex_rgba {a : Nat} (ha : a < 256) :
    normalize (some (.str (hexNotation upper [r, g, b, a]))) = .ok (Rgb.ofBytes r g b) := by
  have hp := hexPair_hexByte upper hr
  have hq := hexPair_hexByte upper hg
  have ht := hexPair_hexByte upper hb
  have hα := hexPair_hexByte upper ha
  have htext : (hexNotation upper [r, g, b, a]).toList =
      '#' :: (hexByte upper r ++ hexByte upper g ++ hexByte upper b ++ hexByte upper a) := by
    simp [hexNotation]
  have hdigits : ∀ c ∈ hexByte upper r ++ hexByte upper g ++ hexByte upper b ++ hexByte upper a,
      isHexDigit c = true := by
    intro c hc
    rcases List.mem_append.1 hc with hc | hc
    · exact hexPairs_digits hp hq ht c hc
    · exact hα.digits c hc
  apply normalize_of_alpha
  · rw [htext, trimChars_hash hdigits]
    exact ofShortOrFullHex_eight (by simp [hp.length, hq.length, ht.length, hα.length])
  · rw [htext, trimChars_hash hdigits]
    exact ofAlphaHex_pairs hp hq ht hα

end Bytes

theorem normalize_short_hex {x y z : Char} (hx : x ∈ hexDigitChars) (hy : y ∈ hexDigitChars)
    (hz : z ∈ hexDigitChars) :
    normalize (some (.str (String.ofList ['#', x, y, z]))) =
      normalize (some (.str (String.ofList ['#', x, x, y, y, z, z]))) := by
  obtain ⟨a, ha⟩ := Option.isSome_iff_exists.1 (hexDigit?_of_mem x hx)
  obtain ⟨b, hb⟩ := Option.isSome_iff_exists.1 (hexDigit?_of_mem y hy)
  obtain ⟨c, hc⟩ := Option.isSome_iff_exists.1 (hexDigit?_of_mem z hz)
  have hp := hexPair_of_digits ha ha
  have hq := hexPair_of_digits hb hb
  have ht := hexPair_of_digits hc hc
  have hshort : normalize (some (.str (String.ofList ['#', x, y, z]))) =
      .ok (Rgb.ofBytes (a * 16 + a) (b * 16 + b) (c * 16 + c)) := by
    apply normalize_of_short
    rw [String.toList_ofList, trimChars_hash (by
      simp [isHexDigit_of_hexDigit? ha, isHexDigit_of_hexDigit? hb, isHexDigit_of_hexDigit? hc])]
    exact ofShortOrFullHex_three ha hb hc
  have hfull : normalize (some (.str (String.ofList ['#', x, x, y, y, z, z]))) =
      .ok (Rgb.ofBytes (a * 16 + a) (b * 16 + b) (c * 16 + c)) := by
    apply normalize_of_short
    have htext : (String.ofList ['#', x, x, y, y, z, z]).toList =
        '#' :: ([x, x] ++ [y, y] ++ [z, z]) := by
      rw [String.toList_ofList]
      rfl
    rw [htext, trimChars_hash (hexPairs_digits hp hq ht)]
    exact ofShortOrFullHex_pairs hp hq ht
  rw [hshort, hfull]

/-! ## The functional notation -/

theorem functionalChannel_toDigits {n : Nat} (h : n < 256) :
    functionalChannel (Nat.toDigits 10 n) = .ok (some (Rgb.byteChannel n)) := by
  have hlen : Binary64.decimalLength n ≤ 310 :=
    (Nat.toDigits_length 10 n 3 (by norm_num) (by norm_num; omega)).trans (by norm_num)
  obtain ⟨hfin, hlo, hhi⟩ := Binary64.ofNat_between (n := n) (by omega)
  have hclamp : (Binary64.ofNat n).clamp Binary64.zero (Binary64.ofNat 255) = Binary64.ofNat n :=
    Binary64.clamp_eq_self hfin rfl Binary64.isFinite_ofNat_255 hlo hhi
  simp only [functionalChannel, Binary64.ofText?_toDigits hlen,
    Binary64.clampAssert_of_le _ (Binary64.zero_le_ofNat 255), hclamp, ok_bind]
  rfl

/-- An alpha numeral of `rgba(...)` by its parts: a minus sign or none, the digits before the
point, and the digits after it (none when there is no point). -/
structure AlphaNumeral where
  negative : Bool
  whole : List Char
  fraction : List Char

namespace AlphaNumeral

def chars (a : AlphaNumeral) : List Char :=
  (if a.negative then ['-'] else []) ++ a.whole ++
    (if a.fraction = [] then [] else '.' :: a.fraction)

structure WellFormed (a : AlphaNumeral) : Prop where
  whole_digits : ∀ c ∈ a.whole, Text.isDecimalDigit c = true
  fraction_digits : ∀ c ∈ a.fraction, Text.isDecimalDigit c = true

end AlphaNumeral

def rgbNotation (r g b : Nat) : String :=
  "rgb(" ++ toString r ++ ", " ++ toString g ++ ", " ++ toString b ++ ")"

def rgbaNotation (r g b : Nat) (a : AlphaNumeral) : String :=
  "rgba(" ++ toString r ++ ", " ++ toString g ++ ", " ++ toString b ++ ", " ++
    String.ofList a.chars ++ ")"

theorem rgbNotation_toList (r g b : Nat) : (rgbNotation r g b).toList =
    'r' :: 'g' :: 'b' :: '(' :: (Nat.toDigits 10 r ++ ',' :: ' ' :: (Nat.toDigits 10 g ++
      ',' :: ' ' :: (Nat.toDigits 10 b ++ [')']))) := by
  simp [rgbNotation, Nat.repr]

theorem rgbaNotation_toList (r g b : Nat) (a : AlphaNumeral) : (rgbaNotation r g b a).toList =
    'r' :: 'g' :: 'b' :: 'a' :: '(' :: (Nat.toDigits 10 r ++ ',' :: ' ' :: (Nat.toDigits 10 g ++
      ',' :: ' ' :: (Nat.toDigits 10 b ++ ',' :: ' ' :: (a.chars ++ [')'])))) := by
  simp [rgbaNotation, Nat.repr]

theorem skipBlanks_space (cs : List Char) : skipBlanks (' ' :: cs) = skipBlanks cs :=
  List.dropWhile_cons_of_pos rfl

theorem skipBlanks_cons {c : Char} (h : Text.isBlank c = false) (cs : List Char) :
    skipBlanks (c :: cs) = c :: cs :=
  List.dropWhile_cons_of_neg (by simp [h])

theorem skipBlanks_of_head {cs : List Char} (h : ∀ c ∈ cs.head?, Text.isBlank c = false) :
    skipBlanks cs = cs :=
  Text.dropWhile_isBlank_of_head? h

theorem spanDigits_append {ds rest : List Char} (hds : ∀ c ∈ ds, Text.isDecimalDigit c = true)
    (hrest : ∀ c ∈ rest.head?, Text.isDecimalDigit c = false) :
    spanDigits (ds ++ rest) = (ds, rest) := by
  rw [spanDigits, List.span_eq_takeWhile_dropWhile, List.takeWhile_append_of_pos hds,
    List.dropWhile_append_of_pos hds]
  cases rest with
  | nil => simp
  | cons c r => simp [hrest c rfl]

theorem matchFraction_of_head {cs : List Char} (h : ∀ c ∈ cs.head?, c ≠ '.') :
    matchFraction cs = some ([], cs) := by
  unfold matchFraction
  split
  · exact absurd rfl (h '.' rfl)
  · rfl

theorem matchFraction_point {ds rest : List Char} (hds : ∀ c ∈ ds, Text.isDecimalDigit c = true)
    (hne : ds ≠ []) (hrest : ∀ c ∈ rest.head?, Text.isDecimalDigit c = false) :
    matchFraction ('.' :: (ds ++ rest)) = some ('.' :: ds, rest) := by
  obtain ⟨d, ds', rfl⟩ := List.exists_cons_of_ne_nil hne
  simp only [matchFraction, spanDigits_append hds hrest]

theorem matchChannel_digits {ds rest : List Char} {c : Char} (hds : ∀ d ∈ ds, d.isDigit = true)
    (hne : ds ≠ []) (hc : Text.isDecimalDigit c = false) (hdot : c ≠ '.') :
    matchChannel (ds ++ c :: rest) = some (ds, c :: rest) := by
  have hdec : ∀ d ∈ ds, Text.isDecimalDigit d = true :=
    fun d hd => Text.isDecimalDigit_of_isDigit d (hds d hd)
  obtain ⟨d, ds', rfl⟩ := List.exists_cons_of_ne_nil hne
  have hminus : d ≠ '-' := by
    intro hd
    have := hds d List.mem_cons_self
    rw [hd] at this
    cases this
  unfold matchChannel
  split
  rename_i sign cs hsign
  obtain ⟨rfl, rfl⟩ : sign = [] ∧ cs = d :: ds' ++ c :: rest := by
    split at hsign <;> simp_all
  have hfrac : matchFraction (c :: rest) = some ([], c :: rest) :=
    matchFraction_of_head (by simpa using hdot)
  rw [spanDigits_append hdec (by simpa using hc)]
  simp [hfrac]

theorem matchChannelThen_digits {sep : Char} {ds rest : List Char}
    (hds : ∀ d ∈ ds, d.isDigit = true) (hne : ds ≠ []) (hsep : Text.isDecimalDigit sep = false)
    (hdot : sep ≠ '.') (hblank : Text.isBlank sep = false) :
    matchChannelThen sep (ds ++ sep :: rest) = some (ds, rest) := by
  obtain ⟨d, ds', rfl⟩ := List.exists_cons_of_ne_nil hne
  have hd : Text.isBlank d = false :=
    Text.isBlank_of_isDecimalDigit (Text.isDecimalDigit_of_isDigit d (hds d List.mem_cons_self))
  have hskip : skipBlanks (d :: ds' ++ sep :: rest) = d :: ds' ++ sep :: rest :=
    skipBlanks_of_head (by simpa using hd)
  have hskip' : skipBlanks (sep :: rest) = sep :: rest := skipBlanks_of_head (by simpa using hblank)
  simp only [matchChannelThen, hskip, matchChannel_digits hds hne hsep hdot, hskip', if_pos]

theorem matchAlpha_close : matchAlpha [')'] = some [')'] := by
  decide

theorem matchAlpha_numeral {a : AlphaNumeral} (ha : a.WellFormed) :
    matchAlpha (',' :: ' ' :: (a.chars ++ [')'])) = some [')'] := by
  let tail : List Char := (if a.fraction = [] then [] else '.' :: a.fraction) ++ [')']
  have hchars : a.chars ++ [')'] = (if a.negative then ['-'] else []) ++ (a.whole ++ tail) := by
    simp [AlphaNumeral.chars, tail]
  have htailHead : tail.head? = some (if a.fraction = [] then ')' else '.') := by
    by_cases hf : a.fraction = [] <;> simp [tail, hf]
  have htailDigit : ∀ c ∈ tail.head?, Text.isDecimalDigit c = false := by
    rw [htailHead]
    intro c hc
    rw [← Option.mem_def.1 hc |> Option.some.inj]
    split <;> decide
  have hbody : ∀ c ∈ (a.whole ++ tail).head?, c ≠ '-' ∧ Text.isBlank c = false := by
    cases hw : a.whole with
    | nil =>
      rw [List.nil_append, htailHead]
      intro c hc
      rw [← Option.mem_def.1 hc |> Option.some.inj]
      split <;> decide
    | cons d ws =>
      have hd := ha.whole_digits d (by rw [hw]; exact List.mem_cons_self)
      intro c hc
      obtain rfl : d = c := by simpa using hc
      refine ⟨fun h => ?_, Text.isBlank_of_isDecimalDigit hd⟩
      rw [h] at hd
      exact absurd hd (by decide)
  have hrest : (matchFraction (spanDigits (a.whole ++ tail)).2).map (fun x => skipBlanks x.2) =
      some [')'] := by
    have hclose : Text.isDecimalDigit ')' = false := by decide
    rw [spanDigits_append ha.whole_digits htailDigit]
    dsimp only
    by_cases hf : a.fraction = []
    · have htail : tail = [')'] := by simp [tail, hf]
      rw [htail, matchFraction_of_head (by simp)]
      rfl
    · have htail : tail = '.' :: (a.fraction ++ [')']) := by simp [tail, hf]
      rw [htail, matchFraction_point ha.fraction_digits hf (by simpa using hclose)]
      rfl
  unfold matchAlpha
  rw [skipBlanks_cons (by decide)]
  split
  · rename_i rest hsplit
    obtain rfl := (List.cons.inj hsplit).2
    rw [skipBlanks_space, hchars]
    cases hneg : a.negative
    · rw [if_neg (by simp), List.nil_append, skipBlanks_of_head fun c hc => (hbody c hc).2]
      dsimp only
      split
      · rename_i r' hr'
        exact ((hbody '-' (by rw [hr']; rfl)).1 rfl).elim
      · exact hrest
    · rw [if_pos rfl, List.singleton_append, skipBlanks_cons (by decide)]
      dsimp only
      split
      · rename_i r' hr'
        obtain rfl := (List.cons.inj hr').2
        exact hrest
      · rename_i hne
        exact absurd rfl (hne (a.whole ++ tail))
  · rename_i hne
    exact absurd rfl (hne _)

theorem matchChannelThen_space (sep : Char) (cs : List Char) :
    matchChannelThen sep (' ' :: cs) = matchChannelThen sep cs := by
  simp only [matchChannelThen, skipBlanks_space]

section Functional

variable (r g b : Nat)

theorem matchChannels {c : Char} (alpha : List Char) (hc : Text.isDecimalDigit c = false)
    (hdot : c ≠ '.') :
    let ds := Nat.toDigits 10
    matchChannelThen ',' (ds r ++ ',' :: ' ' :: (ds g ++ ',' :: ' ' :: (ds b ++ c :: alpha))) =
        some (ds r, ' ' :: (ds g ++ ',' :: ' ' :: (ds b ++ c :: alpha))) ∧
      matchChannelThen ',' (' ' :: (ds g ++ ',' :: ' ' :: (ds b ++ c :: alpha))) =
        some (ds g, ' ' :: (ds b ++ c :: alpha)) ∧
      matchChannel (skipBlanks (' ' :: (ds b ++ c :: alpha))) = some (ds b, c :: alpha) := by
  intro ds
  have hdigits : ∀ n, ∀ d ∈ ds n, d.isDigit = true := fun n d hd => Json.isDigit_of_mem_toDigits hd
  have hcomma : Text.isDecimalDigit ',' = false := by decide
  have hblank : ∀ n, ∀ d ∈ (ds n ++ c :: alpha).head?, Text.isBlank d = false := by
    intro n d hd
    obtain ⟨e, es, he⟩ := List.exists_cons_of_ne_nil (Nat.toDigits_ne_nil (b := 10) (n := n))
    simp only [ds, he, List.cons_append, List.head?_cons, Option.mem_def, Option.some.injEq] at hd
    subst hd
    exact Text.isBlank_of_isDecimalDigit (Text.isDecimalDigit_of_isDigit _
      (hdigits n _ (by simp [ds, he])))
  refine ⟨matchChannelThen_digits (hdigits r) Nat.toDigits_ne_nil hcomma (by decide) (by decide),
    ?_, ?_⟩
  · rw [matchChannelThen_space]
    exact matchChannelThen_digits (hdigits g) Nat.toDigits_ne_nil hcomma (by decide) (by decide)
  · rw [skipBlanks_space, skipBlanks_of_head (hblank b)]
    exact matchChannel_digits (hdigits b) Nat.toDigits_ne_nil hc hdot

theorem matchFunctional_rgb :
    matchFunctional (rgbNotation r g b).toList =
      some (Nat.toDigits 10 r, Nat.toDigits 10 g, Nat.toDigits 10 b) := by
  obtain ⟨h₁, h₂, h₃⟩ := matchChannels r g b [] (c := ')') (by decide) (by decide)
  rw [rgbNotation_toList]
  simp only [matchFunctional, Option.bind_eq_bind, Option.bind_some, h₁, h₂, h₃,
    matchAlpha_close]

theorem matchFunctional_rgba {a : AlphaNumeral} (ha : a.WellFormed) :
    matchFunctional (rgbaNotation r g b a).toList =
      some (Nat.toDigits 10 r, Nat.toDigits 10 g, Nat.toDigits 10 b) := by
  obtain ⟨h₁, h₂, h₃⟩ := matchChannels r g b (' ' :: (a.chars ++ [')'])) (c := ',') (by decide)
    (by decide)
  rw [rgbaNotation_toList]
  simp only [matchFunctional, Option.bind_eq_bind, Option.bind_some, h₁, h₂, h₃,
    matchAlpha_numeral ha]

end Functional

theorem asciiLowerChar_eq_self {c : Char} (h : c.toNat < 65 ∨ 90 < c.toNat) :
    Text.asciiLowerChar c = c := by
  unfold Text.asciiLowerChar
  rw [if_neg]
  rintro ⟨h1, h2⟩
  simp only [Char.le_def, UInt32.le_iff_toNat_le] at h1 h2
  simp at h1 h2
  have hval : c.toNat = c.val.toNat := rfl
  omega

theorem asciiLowerChar_of_isDecimalDigit {c : Char} (h : Text.isDecimalDigit c = true) :
    Text.asciiLowerChar c = c :=
  asciiLowerChar_eq_self (by have := Text.toNat_of_isDecimalDigit h; omega)

theorem AlphaNumeral.WellFormed.lower {a : AlphaNumeral} (ha : a.WellFormed) :
    ∀ c ∈ a.chars, Text.asciiLowerChar c = c := by
  intro c hc
  simp only [AlphaNumeral.chars, List.mem_append] at hc
  rcases hc with (hc | hc) | hc
  · split at hc
    · rw [List.mem_singleton.1 hc]
      rfl
    · cases hc
  · exact asciiLowerChar_of_isDecimalDigit (ha.whole_digits c hc)
  · split at hc
    · cases hc
    · rcases List.mem_cons.1 hc with rfl | hc
      · rfl
      · exact asciiLowerChar_of_isDecimalDigit (ha.fraction_digits c hc)

theorem toDigits_lower (n : Nat) :
    (Nat.toDigits 10 n).all (fun c => decide (Text.asciiLowerChar c = c)) = true :=
  List.all_eq_true.2 fun c hc => decide_eq_true (asciiLowerChar_of_isDecimalDigit
    (Text.isDecimalDigit_of_isDigit c (Json.isDigit_of_mem_toDigits hc)))

theorem ofShortOrFullHex_of_head {c : Char} (h : c ≠ '#') (cs : List Char) :
    ofShortOrFullHex (c :: cs) = .ok none := by
  simp [ofShortOrFullHex, shortOrFullDigits?, h]
  rfl

theorem ofAlphaHex_of_head {c : Char} (h : c ≠ '#') (cs : List Char) :
    ofAlphaHex (c :: cs) = .ok none := by
  simp [ofAlphaHex, alphaDigits?, h]
  rfl

theorem ofFunctional_of_channels {cs : List Char} {r g b : Nat} (hr : r < 256) (hg : g < 256)
    (hb : b < 256) (hlower : cs.all (fun c => decide (Text.asciiLowerChar c = c)) = true)
    (hmatch : matchFunctional cs = some (Nat.toDigits 10 r, Nat.toDigits 10 g, Nat.toDigits 10 b)) :
    ofFunctional cs = .ok (some (Rgb.ofBytes r g b)) := by
  have hmap : cs.map Text.asciiLowerChar = cs := by
    rw [List.map_congr_left fun c hc => of_decide_eq_true (List.all_eq_true.1 hlower c hc),
      List.map_id']
  simp only [ofFunctional, hmap, hmatch, functionalChannel_toDigits hr, functionalChannel_toDigits hg,
    functionalChannel_toDigits hb, ok_bind]
  rfl

section Functional

variable {r g b : Nat} (hr : r < 256) (hg : g < 256) (hb : b < 256)
include hr hg hb

theorem normalize_rgb : normalize (some (.str (rgbNotation r g b))) = .ok (Rgb.ofBytes r g b) := by
  have htrim : Text.trimChars (rgbNotation r g b).toList = (rgbNotation r g b).toList := by
    apply Text.trimChars_of_ends
    · simp only [rgbNotation_toList, List.head?_cons, Option.mem_def, Option.some.injEq]
      rintro c rfl
      decide
    · have hend : (rgbNotation r g b).toList =
          ("rgb(" ++ toString r ++ ", " ++ toString g ++ ", " ++ toString b).toList ++ [')'] := by
        simp [rgbNotation]
      rw [hend, List.getLast?_concat]
      rintro c ⟨⟩
      decide
  have hlower : (rgbNotation r g b).toList.all (fun c => decide (Text.asciiLowerChar c = c)) =
      true := by
    simp only [rgbNotation_toList, List.all_cons, List.all_append, List.all_nil, toDigits_lower]
    decide
  apply normalize_of_functional <;> rw [htrim]
  · rw [rgbNotation_toList]
    exact ofShortOrFullHex_of_head (by decide) _
  · rw [rgbNotation_toList]
    exact ofAlphaHex_of_head (by decide) _
  · exact ofFunctional_of_channels hr hg hb hlower (matchFunctional_rgb r g b)

theorem normalize_rgba {a : AlphaNumeral} (ha : a.WellFormed) :
    normalize (some (.str (rgbaNotation r g b a))) = .ok (Rgb.ofBytes r g b) := by
  have htrim : Text.trimChars (rgbaNotation r g b a).toList = (rgbaNotation r g b a).toList := by
    apply Text.trimChars_of_ends
    · simp only [rgbaNotation_toList, List.head?_cons, Option.mem_def, Option.some.injEq]
      rintro c rfl
      decide
    · have hend : (rgbaNotation r g b a).toList = ("rgba(" ++ toString r ++ ", " ++ toString g ++
          ", " ++ toString b ++ ", " ++ String.ofList a.chars).toList ++ [')'] := by
        simp [rgbaNotation]
      rw [hend, List.getLast?_concat]
      rintro c ⟨⟩
      decide
  have halpha : a.chars.all (fun c => decide (Text.asciiLowerChar c = c)) = true :=
    List.all_eq_true.2 fun c hc => decide_eq_true (ha.lower c hc)
  have hlower : (rgbaNotation r g b a).toList.all (fun c => decide (Text.asciiLowerChar c = c)) =
      true := by
    simp only [rgbaNotation_toList, List.all_cons, List.all_append, List.all_nil, toDigits_lower,
      halpha]
    decide
  apply normalize_of_functional <;> rw [htrim]
  · rw [rgbaNotation_toList]
    exact ofShortOrFullHex_of_head (by decide) _
  · rw [rgbaNotation_toList]
    exact ofAlphaHex_of_head (by decide) _
  · exact ofFunctional_of_channels hr hg hb hlower (matchFunctional_rgba r g b ha)

end Functional

/-! ## Objects on the byte scale -/

theorem byte_lt_pow2 {n : Nat} (h : n < 256) : n < pow2 53 :=
  lt_of_lt_of_le h (by rw [Binary64.pow2_eq]; norm_num)

theorem toNumber?_byte {n : Nat} (h : n < 256) : Json.toNumber? (.int n) = some (Binary64.ofNat n) := by
  have hfin := (Binary64.ofNat_between (n := n) (by omega)).1
  show Json.toNumber? (.num (.int n)) = _
  simp only [Json.toNumber?, JsonNumber.toBinary64, Binary64.ofInt_natCast, hfin, if_true]

theorem clamp_byteChannel {n : Nat} (h : n < 256) :
    (Rgb.byteChannel n).clamp Binary64.zero Binary64.one = Rgb.byteChannel n := by
  obtain ⟨hfin, hlo, hhi⟩ := Rgb.inUnit_byteChannel h
  exact Binary64.clamp_eq_self hfin rfl Binary64.isFinite_one hlo hhi

theorem normalize_object {fields : List (String × Json)} {r g b : Nat} (hr : r < 256)
    (hg : g < 256) (hb : b < 256) (hfr : (Json.obj fields).get? "r" = some (.int r))
    (hfg : (Json.obj fields).get? "g" = some (.int g))
    (hfb : (Json.obj fields).get? "b" = some (.int b)) (hmax : 1 < max r (max g b)) :
    normalize (some (.obj fields)) = .ok (Rgb.ofBytes r g b) := by
  have hscale : (Binary64.one.lt (Binary64.ofNat r) || Binary64.one.lt (Binary64.ofNat g) ||
      Binary64.one.lt (Binary64.ofNat b)) = true := by
    have h1 : 1 < pow2 53 := byte_lt_pow2 (by norm_num)
    simp only [Binary64.one, Binary64.ofNat_lt_ofNat h1 (byte_lt_pow2 hr),
      Binary64.ofNat_lt_ofNat h1 (byte_lt_pow2 hg), Binary64.ofNat_lt_ofNat h1 (byte_lt_pow2 hb),
      Bool.or_eq_true, decide_eq_true_eq]
    omega
  -- each step is a rewrite: the kernel would otherwise unfold the channels while comparing
  have hchannels : objectChannels? (.obj fields) = some (Rgb.ofBytes r g b) := by
    unfold objectChannels?
    rw [hfr, hfg, hfb, Json.fields?]
    simp only [Option.bind_eq_bind]
    rw [Option.bind_some, Option.bind_some, toNumber?_byte hr, Option.bind_some, Option.bind_some,
      toNumber?_byte hg, Option.bind_some, Option.bind_some, toNumber?_byte hb, Option.bind_some,
      if_pos hscale, Rgb.ofBytes]
    rfl
  have hclamped : (Rgb.ofBytes r g b).clamped = .ok (Rgb.ofBytes r g b) := by
    rw [Rgb.clamped_eq, Rgb.ofBytes]
    dsimp only
    rw [clamp_byteChannel hr, clamp_byteChannel hg, clamp_byteChannel hb]
  have hobject : ofObject (.obj fields) = .ok (some (Rgb.ofBytes r g b)) := by
    rw [ofObject, hchannels]
    dsimp only
    rw [hclamped]
    rfl
  rw [normalize.eq_def]
  dsimp only
  rw [hobject]
  rfl

end Color

end SceneScript
