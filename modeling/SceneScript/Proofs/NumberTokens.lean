import Mathlib
import SceneScript.Json.Reader
import SceneScript.Json.Writer
import SceneScript.Number.Reading
import SceneScript.Proofs.ShortestDecimal

/-!
# Number tokens read exactly

A number token of JSON text is scanned into its parts (sign, integer digits, fraction digits,
exponent) by `readNumberToken`, which follows the JSON grammar, and its value is then taken
exactly: integer text stays an integer when a 64-bit word holds it, and any other token is its
decimal value rounded once to the nearest binary64 (`Binary64.ofDecimal`). `readNumberExact`
is this exact reading, in the form the JSON reader takes its number reader.

Main statements: `readNumberToken_chars`, a well-formed token followed by text that cannot
continue it scans back as itself, and `numberText_token`, every number the JSON writer prints
for a value a JSON document can hold is the text of a well-formed token whose value is that
number. Floats take the shortest decimal of their datum, which lies in the datum's rounding
interval, so reading it back rounds to the same datum.
-/

namespace SceneScript

/-- A number a JSON document holds: an integer of a 64-bit word, signed or not, or a finite
float. -/
def JsonNumber.inRange : JsonNumber → Bool
  | .int i => decide (-(pow2 63 : Int) ≤ i ∧ i ≤ Json.wordMax)
  | .float x => x.isFinite

namespace Binary64

/-! ## Values of decimal digits -/

theorem digitsValue_eq_ofDigitChars (ds : List Char) :
    digitsValue ds = Nat.ofDigitChars 10 ds 0 := by
  unfold digitsValue Nat.ofDigitChars
  congr 1
  funext acc c
  rw [Nat.mul_comm]
  rfl

theorem digitsValue_toDigits (n : Nat) : digitsValue (Nat.toDigits 10 n) = n := by
  rw [digitsValue_eq_ofDigitChars, Nat.ofDigitChars_ten_toDigits]

theorem digitsValue_append (l m : List Char) :
    digitsValue (l ++ m) = digitsValue l * pow10 m.length + digitsValue m := by
  rw [digitsValue_eq_ofDigitChars, digitsValue_eq_ofDigitChars, digitsValue_eq_ofDigitChars,
    Nat.ofDigitChars_append, Nat.ofDigitChars_eq_ofDigitChars_zero]
  simp only [pow10, Nat.pow_eq]
  ring

theorem digitsValue_replicate_zero (k : Nat) : digitsValue (List.replicate k '0') = 0 := by
  rw [digitsValue_eq_ofDigitChars, Nat.ofDigitChars_replicate_zero, Nat.mul_zero]

theorem digitsValue_zeros_append (k : Nat) (l : List Char) :
    digitsValue (List.replicate k '0' ++ l) = digitsValue l := by
  rw [digitsValue_append, digitsValue_replicate_zero, zero_mul, zero_add]

theorem digitsValue_append_zeros (l : List Char) (k : Nat) :
    digitsValue (l ++ List.replicate k '0') = digitsValue l * pow10 k := by
  rw [digitsValue_append, digitsValue_replicate_zero, List.length_replicate, add_zero]

end Binary64

namespace Json

/-! ## Tokens and their scanner -/

/-- A number token: its sign, its integer digits, its fraction digits (none when it has no
fraction) and its exponent with the exponent's sign (`true` for negative). -/
structure NumberToken where
  negative : Bool
  whole : List Char
  fraction : List Char
  exponent : Option (Bool × List Char)

namespace NumberToken

def fractionChars (f : List Char) : List Char :=
  if f = [] then [] else '.' :: f

def exponentChars : Option (Bool × List Char) → List Char
  | none => []
  | some (neg, ds) => 'e' :: (if neg then '-' else '+') :: ds

def chars (t : NumberToken) : List Char :=
  (if t.negative then ['-'] else []) ++ t.whole ++ fractionChars t.fraction ++
    exponentChars t.exponent

structure WellFormed (t : NumberToken) : Prop where
  whole_digits : ∀ c ∈ t.whole, c.isDigit = true
  whole_ne_nil : t.whole ≠ []
  no_leading_zero : t.whole.head? = some '0' → t.whole.length = 1
  fraction_digits : ∀ c ∈ t.fraction, c.isDigit = true
  exponent_digits : ∀ e ∈ t.exponent, e.2 ≠ [] ∧ ∀ c ∈ e.2, c.isDigit = true

def exponentValue : Option (Bool × List Char) → Int
  | none => 0
  | some (neg, ds) =>
      if neg then -(Binary64.digitsValue ds : Int) else Binary64.digitsValue ds

/-- The exact value of a token. Integer text with no fraction and no exponent is an integer
when a 64-bit word holds it (a negative one down to `-2^63`), and `-0` is the negative zero;
any other token is its decimal value rounded once to the nearest binary64, ties to even. -/
def value (t : NumberToken) : JsonNumber :=
  let n := Binary64.digitsValue t.whole
  if t.fraction = [] ∧ t.exponent = none then
    if t.negative = false ∧ n ≤ wordMax then .int n
    else if t.negative = true ∧ n ≠ 0 ∧ n ≤ pow2 63 then .int (-(n : Int))
    else .float (Binary64.ofDecimal t.negative n 0)
  else
    .float (Binary64.ofDecimal t.negative (Binary64.digitsValue (t.whole ++ t.fraction))
      (exponentValue t.exponent - t.fraction.length))

end NumberToken

def readSign : List Char → Bool × List Char
  | '-' :: r => (true, r)
  | r => (false, r)

def readExponentSign : List Char → Bool × List Char
  | '+' :: r => (false, r)
  | '-' :: r => (true, r)
  | r => (false, r)

def readFraction : List Char → Option (List Char × List Char)
  | '.' :: r =>
      let (ds, rest) := r.span Char.isDigit
      if ds = [] then none else some (ds, rest)
  | r => some ([], r)

def readExponentPart : List Char → Option (Option (Bool × List Char) × List Char)
  | [] => some (none, [])
  | c :: r =>
      if c = 'e' ∨ c = 'E' then
        let (negative, r) := readExponentSign r
        let (ds, rest) := r.span Char.isDigit
        if ds = [] then none else some (some (negative, ds), rest)
      else some (none, c :: r)

/-- Reads a number token: an optional minus sign, an integer part that is a single zero or does
not start with zero, an optional fraction and an optional exponent. -/
def readNumberToken (cs : List Char) : Option (NumberToken × List Char) :=
  let (negative, cs) := readSign cs
  let (whole, cs) := cs.span Char.isDigit
  if whole = [] ∨ (whole.head? = some '0' ∧ 1 < whole.length) then none
  else
    (readFraction cs).bind fun (fraction, cs) =>
      (readExponentPart cs).map fun (exponent, cs) => (⟨negative, whole, fraction, exponent⟩, cs)

def readNumberExact (cs : List Char) : Option (JsonNumber × List Char) :=
  (readNumberToken cs).map fun r => (r.1.value, r.2)

/-- Text that cannot continue a number token: it does not start with a digit, a point or an
exponent mark. -/
def StopsNumber (r : List Char) : Prop :=
  ∀ c ∈ r.head?, c.isDigit = false ∧ c ≠ '.' ∧ c ≠ 'e' ∧ c ≠ 'E'

/-! ## Scanning a token back -/

section Scanning

open NumberToken

theorem span_isDigit_append {ds r : List Char} (hd : ∀ c ∈ ds, c.isDigit = true)
    (hr : ∀ c ∈ r.head?, c.isDigit = false) : (ds ++ r).span Char.isDigit = (ds, r) := by
  rw [List.span_eq_takeWhile_dropWhile, List.takeWhile_append_of_pos hd,
    List.dropWhile_append_of_pos hd]
  cases r with
  | nil => simp
  | cons c r =>
      have hc := hr c rfl
      simp [hc]

theorem readExponentPart_chars {e : Option (Bool × List Char)} {rest : List Char}
    (he : ∀ p ∈ e, p.2 ≠ [] ∧ ∀ c ∈ p.2, c.isDigit = true) (hr : StopsNumber rest) :
    readExponentPart (exponentChars e ++ rest) = some (e, rest) := by
  cases e with
  | none =>
      cases rest with
      | nil => rfl
      | cons c r =>
          obtain ⟨-, -, he', hE⟩ := hr c rfl
          simp [exponentChars, readExponentPart, he', hE]
  | some p =>
      obtain ⟨neg, ds⟩ := p
      obtain ⟨hne, hds⟩ : ds ≠ [] ∧ ∀ c ∈ ds, c.isDigit = true := he (neg, ds) rfl
      have hsign : readExponentSign ((if neg then '-' else '+') :: (ds ++ rest)) =
          (neg, ds ++ rest) := by
        cases neg <;> rfl
      have hspan := span_isDigit_append hds fun c hc => (hr c hc).1
      simp only [exponentChars, List.cons_append, readExponentPart, true_or, if_true, hsign,
        hspan, hne, if_false]

theorem readFraction_chars {f r : List Char} (hf : ∀ c ∈ f, c.isDigit = true)
    (hr : ∀ c ∈ r.head?, c.isDigit = false ∧ c ≠ '.') :
    readFraction (fractionChars f ++ r) = some (f, r) := by
  by_cases hnil : f = []
  · subst hnil
    cases r with
    | nil => rfl
    | cons c r =>
        obtain ⟨-, hdot⟩ := hr c rfl
        rw [fractionChars, if_pos rfl, List.nil_append, readFraction.eq_2 _ (by simpa using hdot)]
  · have hspan := span_isDigit_append hf fun c hc => (hr c hc).1
    simp only [fractionChars, hnil, if_false, List.cons_append, readFraction, hspan]

theorem head_after_whole (t : NumberToken) {rest : List Char} (hr : StopsNumber rest) :
    ∀ c ∈ (fractionChars t.fraction ++ exponentChars t.exponent ++ rest).head?,
      c.isDigit = false := by
  intro c hc
  unfold fractionChars at hc
  split_ifs at hc
  · cases he : t.exponent with
    | none => simp only [he, exponentChars, List.nil_append] at hc; exact (hr c hc).1
    | some p => simp [he, exponentChars] at hc; subst hc; rfl
  · simp at hc; subst hc; rfl

theorem readNumberToken_chars {t : NumberToken} (ht : t.WellFormed) {rest : List Char}
    (hr : StopsNumber rest) : readNumberToken (t.chars ++ rest) = some (t, rest) := by
  obtain ⟨neg, w, f, e⟩ := t
  obtain ⟨hw, hwne, hzero, hf, he⟩ := ht
  dsimp only at hw hwne hzero hf he
  obtain ⟨d, w', rfl⟩ := List.exists_cons_of_ne_nil hwne
  have hd : d.isDigit = true := hw d List.mem_cons_self
  have hsign : readSign ((if neg then ['-'] else []) ++ d :: (w' ++ fractionChars f ++
      exponentChars e ++ rest)) = (neg, d :: (w' ++ fractionChars f ++ exponentChars e ++ rest)) := by
    cases neg with
    | true => rfl
    | false =>
        have hminus : d ≠ '-' := by rintro rfl; exact absurd hd (by decide)
        exact readSign.eq_2 _ (by simp [hminus])
  have hspan := span_isDigit_append hw (head_after_whole ⟨neg, d :: w', f, e⟩ hr)
  have hexp := readExponentPart_chars he hr
  have hfrac := readFraction_chars (r := exponentChars e ++ rest) hf (by
    intro c hc
    cases e with
    | none => exact ⟨(hr c hc).1, (hr c hc).2.1⟩
    | some p => simp [exponentChars] at hc; subst hc; decide)
  have hguard : ¬((d :: w') = [] ∨ ((d :: w').head? = some '0' ∧ 1 < (d :: w').length)) := by
    rintro (h | ⟨h0, hlen⟩)
    · cases h
    · have := hzero h0
      omega
  simp only [chars, List.append_assoc, List.cons_append] at hsign hspan ⊢
  simp only [readNumberToken, hsign, hspan, hguard, if_false, hfrac, Option.bind_some, hexp,
    Option.map_some]

end Scanning

/-! ## Digits -/

section Digits

theorem isDigit_of_mem_toDigits {n : Nat} {c : Char} (h : c ∈ Nat.toDigits 10 n) :
    c.isDigit = true :=
  Nat.isDigit_of_mem_toDigits (by norm_num) (by norm_num) h

theorem head?_toDigits_ne_zero {n : Nat} (hn : n ≠ 0) : (Nat.toDigits 10 n).head? ≠ some '0' := by
  induction n using Nat.strong_induction_on with
  | _ n ih =>
      rw [Nat.toDigits_eq_if (by norm_num)]
      split_ifs with hlt
      · interval_cases n <;> simp_all
      · rw [List.head?_append_of_ne_nil _ Nat.toDigits_ne_nil]
        exact ih (n / 10) (by omega) (by omega)

theorem no_leading_zero_toDigits (n : Nat) :
    (Nat.toDigits 10 n).head? = some '0' → (Nat.toDigits 10 n).length = 1 := by
  intro h
  by_cases hn : n = 0
  · subst hn; rfl
  · exact absurd h (head?_toDigits_ne_zero hn)

end Digits

/-! ## Integers -/

section Integers

open NumberToken Binary64

def intToken (i : Int) : NumberToken :=
  ⟨decide (i < 0), Nat.toDigits 10 i.natAbs, [], none⟩

theorem intToken_wellFormed (i : Int) : (intToken i).WellFormed where
  whole_digits _ hc := isDigit_of_mem_toDigits hc
  whole_ne_nil := Nat.toDigits_ne_nil
  no_leading_zero := no_leading_zero_toDigits i.natAbs
  fraction_digits _ hc := by cases hc
  exponent_digits _ he := by cases he

theorem toString_int_chars (i : Int) : (toString i).toList = (intToken i).chars := by
  cases i with
  | ofNat n =>
      show (Nat.repr n).toList = _
      simp [intToken, chars, fractionChars, exponentChars, Nat.repr, Nat.toDigits]
  | negSucc n =>
      show ("-" ++ Nat.repr (n + 1)).toList = _
      simp [intToken, chars, fractionChars, exponentChars, Nat.repr, Nat.toDigits,
        Int.negSucc_lt_zero]

theorem intToken_value {i : Int} (hlo : -(pow2 63 : Int) ≤ i) (hhi : i ≤ wordMax) :
    (intToken i).value = .int i := by
  simp only [intToken, value, digitsValue_toDigits, and_self, if_true]
  by_cases hneg : i < 0
  · have hbound : i.natAbs ≤ pow2 63 := by omega
    simp [hneg, hbound, show i ≠ 0 by omega, abs_of_neg hneg]
  · have hbound : i.natAbs ≤ wordMax := by omega
    simp [hneg, hbound]
    omega

end Integers

/-! ## Floats -/

section Floats

open NumberToken Binary64 Decimal

structure IsDigitsOf (ds : List Char) (c : Nat) : Prop where
  digits : ∀ ch ∈ ds, ch.isDigit = true
  ne_nil : ds ≠ []
  head_ne_zero : ds.head? ≠ some '0'
  value : digitsValue ds = c

theorem isDigitsOf_toDigits {c : Nat} (hc : c ≠ 0) : IsDigitsOf (Nat.toDigits 10 c) c where
  digits _ h := isDigit_of_mem_toDigits h
  ne_nil := Nat.toDigits_ne_nil
  head_ne_zero := head?_toDigits_ne_zero hc
  value := digitsValue_toDigits c

/-- The token `t` writes the decimal `d` as a float: it has a fraction or an exponent, and its
digits are those of `d` followed by `k` zeros, with its exponent lowered by `k`. -/
structure NumberToken.WritesDecimal (t : NumberToken) (d : Decimal) : Prop where
  wellFormed : t.WellFormed
  not_integer : ¬(t.fraction = [] ∧ t.exponent = none)
  scaled : ∃ k : Nat, digitsValue (t.whole ++ t.fraction) = d.digits * pow10 k ∧
    exponentValue t.exponent - t.fraction.length = d.exp - k

theorem sign_append_toList (neg : Bool) (s : String) :
    ((if neg then "-" else "") ++ s).toList = (if neg then ['-'] else []) ++ s.toList := by
  cases neg <;> simp

theorem chars_mk (neg : Bool) (w f : List Char) (e : Option (Bool × List Char)) :
    (⟨neg, w, f, e⟩ : NumberToken).chars =
      (if neg then ['-'] else []) ++ (w ++ fractionChars f ++ exponentChars e) := by
  simp [chars, List.append_assoc]

theorem plainText_token (neg : Bool) {d : Decimal} {ds : List Char} (h : IsDigitsOf ds d.digits) :
    ∃ t : NumberToken, t.negative = neg ∧ t.WritesDecimal d ∧
      ((if neg then "-" else "") ++ NumberLayout.json.plainText ds d.exp).toList = t.chars := by
  obtain ⟨hdig, hne, hhead, hval⟩ := h
  have hlen : 0 < ds.length := List.length_pos_of_ne_nil hne
  rw [sign_append_toList]
  unfold NumberLayout.plainText
  dsimp only
  by_cases hsmall : (ds.length : Int) + d.exp ≤ 0
  · rw [if_pos hsmall]
    refine ⟨⟨neg, ['0'], List.replicate (-(ds.length + d.exp)).toNat '0' ++ ds, none⟩, rfl,
      ⟨⟨by simp, by simp, by simp, ?_, by simp⟩, by simp [hne], 0, ?_, ?_⟩, ?_⟩
    · intro ch hch
      rcases List.mem_append.1 hch with hz | hd
      · rw [List.eq_of_mem_replicate hz]; rfl
      · exact hdig ch hd
    · rw [← List.replicate_one, ← List.append_assoc, ← List.replicate_add,
        digitsValue_zeros_append, hval]
      simp [pow10]
    · simp [exponentValue]
      omega
    · rw [chars_mk]
      simp [fractionChars, exponentChars, NumberLayout.zeros, hne]
  rw [if_neg hsmall]
  by_cases hmiddle : (ds.length : Int) + d.exp < ds.length
  · rw [if_pos hmiddle]
    have hdrop : ds.drop (ds.length + d.exp).toNat ≠ [] := by
      simp only [ne_eq, List.drop_eq_nil_iff]
      omega
    refine ⟨⟨neg, ds.take (ds.length + d.exp).toNat, ds.drop (ds.length + d.exp).toNat, none⟩,
      rfl, ⟨⟨fun ch hch => hdig ch (List.mem_of_mem_take hch), ?_, ?_,
      fun ch hch => hdig ch (List.mem_of_mem_drop hch), by simp⟩, by simp [hdrop], 0, ?_, ?_⟩, ?_⟩
    · simp only [ne_eq, List.take_eq_nil_iff, not_or]
      exact ⟨by omega, hne⟩
    · intro h0
      rw [List.head?_take, if_neg (by omega)] at h0
      exact absurd h0 hhead
    · simp [hval, pow10]
    · have hpoint := Int.toNat_of_nonneg (show 0 ≤ (ds.length : Int) + d.exp by omega)
      simp [exponentValue]
      omega
    · rw [chars_mk]
      simp [fractionChars, exponentChars, hdrop]
  · rw [if_neg hmiddle, if_pos (show NumberLayout.json.pointZero = true from rfl)]
    refine ⟨⟨neg, ds ++ List.replicate d.exp.toNat '0', ['0'], none⟩, rfl,
      ⟨⟨?_, by simp [hne], ?_, by simp, by simp⟩, by simp, d.exp.toNat + 1, ?_, ?_⟩, ?_⟩
    · intro ch hch
      rcases List.mem_append.1 hch with hd | hz
      · exact hdig ch hd
      · rw [List.eq_of_mem_replicate hz]; rfl
    · intro h0
      rw [List.head?_append_of_ne_nil _ hne] at h0
      exact absurd h0 hhead
    · rw [List.append_assoc, ← List.replicate_succ', digitsValue_append_zeros, hval]
    · simp [exponentValue]
      omega
    · rw [chars_mk]
      simp [fractionChars, exponentChars, NumberLayout.zeros]

theorem scientificText_token (neg : Bool) {d : Decimal} {ds : List Char}
    (h : IsDigitsOf ds d.digits) :
    ∃ t : NumberToken, t.negative = neg ∧ t.WritesDecimal d ∧
      ((if neg then "-" else "") ++
        NumberLayout.json.scientificText ds (d.exp + ds.length - 1)).toList = t.chars := by
  obtain ⟨hdig, hne, -, hval⟩ := h
  obtain ⟨d0, rest, rfl⟩ := List.exists_cons_of_ne_nil hne
  have hd0 : d0.isDigit = true := hdig d0 List.mem_cons_self
  generalize htop : d.exp + ((d0 :: rest).length : Int) - 1 = top
  have hexp : exponentValue (some (decide (top < 0), Nat.toDigits 10 top.natAbs)) = top := by
    simp only [exponentValue, digitsValue_toDigits, decide_eq_true_eq]
    split_ifs <;> omega
  refine ⟨⟨neg, [d0], rest, some (decide (top < 0), Nat.toDigits 10 top.natAbs)⟩, rfl,
    ⟨⟨by simpa using hd0, by simp, by simp, fun ch hch => hdig ch (List.mem_cons_of_mem d0 hch),
      ?_⟩, by simp, 0, by simpa [pow10] using hval, ?_⟩, ?_⟩
  · rintro e he
    obtain rfl := Option.some.inj he.symm
    exact ⟨Nat.toDigits_ne_nil, fun ch hch => isDigit_of_mem_toDigits hch⟩
  · show exponentValue _ - (rest.length : Int) = d.exp - ((0 : Nat) : Int)
    rw [hexp]
    simp only [List.length_cons] at htop
    omega
  · rw [sign_append_toList, chars_mk]
    have hsign : (if top < 0 then "-" else if NumberLayout.json.plusExponent then "+" else "") =
        String.singleton (if decide (top < 0) then '-' else '+') := by
      by_cases hneg : top < 0 <;> simp [hneg, NumberLayout.json]
    unfold NumberLayout.scientificText
    cases rest with
    | nil =>
        simp [hsign, fractionChars, exponentChars]
    | cons r rs =>
        simp [hsign, fractionChars, exponentChars]

theorem decimalText_token (neg : Bool) {d : Decimal} (hd : d.digits ≠ 0) :
    ∃ t : NumberToken, t.negative = neg ∧ t.WritesDecimal d ∧
      ((if neg then "-" else "") ++ NumberLayout.json.decimalText d).toList = t.chars := by
  have h := isDigitsOf_toDigits hd
  unfold NumberLayout.decimalText
  rw [if_neg hd]
  dsimp only
  by_cases hplain :
      NumberLayout.json.isPlain (d.exp + ((Nat.toDigits 10 d.digits).length : Int) - 1) = true
  · rw [if_pos hplain]
    exact plainText_token neg h
  · rw [if_neg hplain]
    exact scientificText_token neg h

theorem value_of_writesDecimal {t : NumberToken} {d : Decimal} (ht : t.WritesDecimal d)
    {E : Fin 2047} {F : Fin (pow2 52)} (hu : 0 < unitsOf E F)
    (hd : (roundingInterval E F).holds d.digits d.exp = true) :
    t.value = .float (.finite t.negative E F) := by
  obtain ⟨-, hfloat, k, hdigits, hexp⟩ := ht
  have hshift : (roundingInterval E F).holds (d.digits * pow10 k) (d.exp - k) = true := by
    rw [holds_shift]
    exact hd
  simp only [value, if_neg hfloat, hdigits, hexp]
  rw [ofDecimal_of_holds t.negative hu hshift]

theorem digits_ne_zero_of_holds {E : Fin 2047} {F : Fin (pow2 52)} (hu : 0 < unitsOf E F)
    {d : Decimal} (hd : (roundingInterval E F).holds d.digits d.exp = true) : d.digits ≠ 0 := by
  intro h0
  have hlow := RoundingInterval.low_le_of_contains ((holds_iff _ _ _).1 hd)
  rw [h0, zero_mul] at hlow
  have := Nat.mul_pos (low_pos hu) (gridDen_pos d.exp)
  omega

theorem eq_signedZero_of_unitsOf {neg : Bool} {E : Fin 2047} {F : Fin (pow2 52)}
    (hu : unitsOf E F = 0) : Binary64.finite neg E F = signedZero neg := by
  have hsig : significandOf E F = 0 := by
    rcases Nat.mul_eq_zero.1 hu with h | h
    · exact h
    · exact absurd h (pow2_pos _).ne'
  unfold significandOf at hsig
  have hE : E.val = 0 := by
    by_contra hne
    rw [if_neg hne] at hsig
    have : 0 < Binary64.hidden := pow2_pos 52
    omega
  rw [if_pos hE] at hsig
  obtain rfl : E = 0 := Fin.ext hE
  obtain rfl : F = ⟨0, pow2_pos 52⟩ := Fin.ext hsig
  rfl

theorem render_token {x : Binary64} (hx : x.isFinite = true) :
    ∃ t : NumberToken, t.WellFormed ∧ (NumberLayout.json.render x).toList = t.chars ∧
      t.value = .float x := by
  cases x with
  | nan => cases hx
  | infinite => cases hx
  | finite neg E F =>
      by_cases hu : unitsOf E F = 0
      · refine ⟨⟨neg, ['0'], ['0'], none⟩, ⟨by simp, by simp, by simp, by simp, by simp⟩, ?_, ?_⟩
        · rw [NumberLayout.render, sign_append_toList, chars_mk]
          simp [shortestOfFields, hu, NumberLayout.decimalText, NumberLayout.json, fractionChars,
            exponentChars]
        · rw [eq_signedZero_of_unitsOf hu]
          have hzero : digitsValue (['0'] ++ ['0']) = 0 := by decide
          simp only [value, hzero]
          simp [ofDecimal]
      · have hpos : 0 < unitsOf E F := Nat.pos_of_ne_zero hu
        have hholds := shortestOfFields_holds .even hpos
        obtain ⟨t, hneg, ht, hchars⟩ := decimalText_token neg (digits_ne_zero_of_holds hpos hholds)
        refine ⟨t, ht.wellFormed, hchars, ?_⟩
        rw [value_of_writesDecimal ht hpos hholds, hneg]

theorem numberText_token {n : JsonNumber} (h : n.inRange = true) :
    ∃ t : NumberToken, t.WellFormed ∧ (numberText n).toList = t.chars ∧ t.value = n := by
  cases n with
  | int i =>
      simp only [JsonNumber.inRange, decide_eq_true_eq] at h
      exact ⟨intToken i, intToken_wellFormed i, toString_int_chars i, intToken_value h.1 h.2⟩
  | float x => exact render_token h

end Floats

end Json

end SceneScript
