import Mathlib
import SceneScript.Proofs.LiteralDecoding
import SceneScript.Proofs.TransformReading

/-!
# Reading compact text back

The compact text of a value, read by the program's reader, gives the value back when two things
hold. Its numbers must read back from their own texts: the reader takes a number by an
approximate rule, which can miss the float a text was written from by a unit in the last place.
And the value must nest fewer than `nestingRoom` levels, the deepest the reader accepts.

A number token is read the same way whatever follows it, as long as what follows cannot continue
it (`readNumber_append`): each part of the token, its integer digits, its fraction and its
exponent, is read the same way with or without the text after it. Strings need no condition:
every escape the writer makes is one the reader decodes.

Main statements: `readValue_render`, a value followed by text that cannot continue a number,
and `parse_render`, a whole text.
-/

namespace SceneScript

/-- A number a JSON document holds whose text the approximate reader gives back as the same
number. -/
def JsonNumber.readsBack (n : JsonNumber) : Bool :=
  n.inRange && decide (Json.readNumber (Json.numberText n).toList = some (n, []))

namespace Json

open NumberToken Script

/-! ## Number tokens under the approximate reader -/

section Tokens

theorem readExponent_append (positive : Bool) (sig : Nat) (start : Int) (neg : Bool)
    {ds : List Char} (hds : ∀ c ∈ ds, c.isDigit = true) {rest : List Char}
    (hr : ∀ c ∈ rest.head?, c.isDigit = false) :
    readExponent positive sig start ((if neg then '-' else '+') :: (ds ++ rest)) =
      (readExponent positive sig start ((if neg then '-' else '+') :: ds)).map
        fun r => (r.1, r.2 ++ rest) := by
  have hspan := span_isDigit_append hds hr
  have hspan0 : ds.span Char.isDigit = (ds, []) := by
    simpa using span_isDigit_append (r := []) hds (fun _ h => by cases h)
  cases neg
  all_goals
    simp only [readExponent, hspan, hspan0, Bool.false_eq_true, if_true, if_false]
    cases ds with
    | nil => rfl
    | cons d ds =>
      dsimp only
      cases accumulateExponent 0 (d :: ds) with
      | none => split_ifs <;> rfl
      | some e => simp [Option.map_map, Function.comp_def]

theorem readNumberTail_stop (positive : Bool) (sig : Nat) (full : Bool) (extra : Nat)
    {rest : List Char} (hr : StopsNumber rest) :
    readNumberTail positive sig full extra rest =
      (readNumberTail positive sig full extra []).map fun r => (r.1, r.2 ++ rest) := by
  have hdot : ∀ r, rest = '.' :: r → False := fun r h => by subst h; exact (hr '.' rfl).2.1 rfl
  have he : ∀ r, rest = 'e' :: r → False := fun r h => by subst h; exact (hr 'e' rfl).2.2.1 rfl
  have hE : ∀ r, rest = 'E' :: r → False := fun r h => by subst h; exact (hr 'E' rfl).2.2.2 rfl
  rw [readNumberTail.eq_4 _ _ _ _ _ hdot he hE,
    readNumberTail.eq_4 _ _ _ _ [] (fun _ h => by cases h) (fun _ h => by cases h)
      (fun _ h => by cases h)]
  split_ifs <;> simp [Option.map_map, Function.comp_def]

theorem readNumberTail_fraction_append (positive : Bool) (sig : Nat) (full : Bool) (extra : Nat)
    {f : List Char} (hf : ∀ c ∈ f, c.isDigit = true) (hne : f ≠ [])
    {e : Option (Bool × List Char)} (he : ∀ p ∈ e, p.2 ≠ [] ∧ ∀ c ∈ p.2, c.isDigit = true)
    {rest : List Char} (hr : StopsNumber rest) :
    readNumberTail positive sig full extra ('.' :: (f ++ (exponentChars e ++ rest))) =
      (readNumberTail positive sig full extra ('.' :: (f ++ exponentChars e))).map
        fun r => (r.1, r.2 ++ rest) := by
  have hafter : ∀ c ∈ (exponentChars e ++ rest).head?, c.isDigit = false := by
    intro c hc
    cases e with
    | none => exact (hr c hc).1
    | some p => simp [exponentChars] at hc; subst hc; rfl
  have hspan := span_isDigit_append hf hafter
  have hspan0 := span_isDigit_append hf (r := exponentChars e) fun c hc => by
    cases e with
    | none => cases hc
    | some p => simp [exponentChars] at hc; subst hc; rfl
  rw [readNumberTail.eq_1, readNumberTail.eq_1, hspan, hspan0]
  obtain ⟨d, f', rfl⟩ := List.exists_cons_of_ne_nil hne
  cases e with
  | none =>
    cases rest with
    | nil => simp
    | cons c r =>
      obtain ⟨-, -, hce, hcE⟩ := hr c rfl
      simp only [exponentChars, List.nil_append]
      split
      · next h => exact absurd (List.cons.inj h).1 hce
      · next h => exact absurd (List.cons.inj h).1 hcE
      · simp [Option.map_map, Function.comp_def]
  | some p =>
    obtain ⟨neg, ds⟩ := p
    simp only [exponentChars, List.cons_append]
    exact readExponent_append _ _ _ neg (he _ rfl).2 fun c hc => (hr c hc).1

theorem readNumberTail_append (positive : Bool) (sig : Nat) (full : Bool) (extra : Nat)
    {f : List Char} (hf : ∀ c ∈ f, c.isDigit = true) {e : Option (Bool × List Char)}
    (he : ∀ p ∈ e, p.2 ≠ [] ∧ ∀ c ∈ p.2, c.isDigit = true) {rest : List Char}
    (hr : StopsNumber rest) :
    readNumberTail positive sig full extra (fractionChars f ++ exponentChars e ++ rest) =
      (readNumberTail positive sig full extra (fractionChars f ++ exponentChars e)).map
        fun r => (r.1, r.2 ++ rest) := by
  by_cases hnil : f = []
  · subst hnil
    cases e with
    | none => simpa [fractionChars, exponentChars] using readNumberTail_stop positive sig full extra hr
    | some p =>
      obtain ⟨neg, ds⟩ := p
      simp only [fractionChars, exponentChars, if_pos, List.nil_append, List.cons_append]
      rw [readNumberTail.eq_2, readNumberTail.eq_2]
      exact readExponent_append _ _ _ neg (he _ rfl).2 fun c hc => (hr c hc).1
  · simp only [fractionChars, hnil, if_false, List.cons_append, List.append_assoc]
    exact readNumberTail_fraction_append positive sig full extra hf hnil he hr

theorem readNumber_chars_append {t : NumberToken} (ht : t.WellFormed) {rest : List Char}
    (hr : ∀ c ∈ (fractionChars t.fraction ++ exponentChars t.exponent ++ rest).head?,
      c.isDigit = false) :
    readNumber (t.chars ++ rest) =
      readNumberTail (!t.negative) (accumulateInteger (0, false, 0) t.whole).1
        (accumulateInteger (0, false, 0) t.whole).2.1 (accumulateInteger (0, false, 0) t.whole).2.2
        (fractionChars t.fraction ++ exponentChars t.exponent ++ rest) := by
  obtain ⟨neg, w, f, e⟩ := t
  obtain ⟨hw, hwne, hzero, -, -⟩ := ht
  dsimp only at hw hwne hzero hr ⊢
  obtain ⟨d, w', rfl⟩ := List.exists_cons_of_ne_nil hwne
  have hd : d.isDigit = true := hw d List.mem_cons_self
  have hminus : d ≠ '-' := by rintro rfl; exact absurd hd (by decide)
  have hchars : chars ⟨neg, d :: w', f, e⟩ ++ rest =
      (if neg then ['-'] else []) ++ d :: (w' ++ (fractionChars f ++ exponentChars e ++ rest)) := by
    simp [chars]
  rw [hchars]
  generalize fractionChars f ++ exponentChars e ++ rest = X at hr ⊢
  by_cases hd0 : d = '0'
  · subst hd0
    obtain rfl : w' = [] := by simpa using hzero rfl
    have hzero' : accumulateInteger (0, false, 0) ['0'] = (0, false, 0) := by decide
    rw [hzero']
    cases X with
    | nil => cases neg <;> rfl
    | cons c X =>
      have hc : c.isDigit = false := hr c rfl
      cases neg <;> simp [readNumber, hc]
  · have hspan := span_isDigit_append hw hr
    rw [List.cons_append] at hspan
    cases neg <;>
      simp only [readNumber, List.cons.injEq, hminus, hd, hspan, false_and, imp_false,
        not_false_eq_true, implies_true, if_true, if_false, Bool.false_eq_true, List.nil_append,
        List.cons_append, Bool.not_false, Bool.not_true]

theorem readNumber_append {t : NumberToken} (ht : t.WellFormed) {rest : List Char}
    (hr : StopsNumber rest) :
    readNumber (t.chars ++ rest) = (readNumber t.chars).map fun r => (r.1, r.2 ++ rest) := by
  have halone := readNumber_chars_append ht
    (head_after_whole t (show StopsNumber [] from fun _ h => by cases h))
  rw [List.append_nil, List.append_nil] at halone
  rw [readNumber_chars_append ht (head_after_whole t hr), halone]
  exact readNumberTail_append _ _ _ _ ht.fraction_digits ht.exponent_digits hr

end Tokens

/-! ## Integers -/

section Integers

open Binary64

theorem le_foldl_digits (ds : List Char) (sig : Nat) :
    sig ≤ ds.foldl (fun acc c => acc * 10 + (c.toNat - 48)) sig := by
  induction ds generalizing sig with
  | nil => exact le_refl sig
  | cons c ds ih => exact le_trans (by omega) (ih (sig * 10 + (c.toNat - 48)))

theorem accumulateInteger_of_le (ds : List Char) (sig extra : Nat)
    (h : ds.foldl (fun acc c => acc * 10 + (c.toNat - 48)) sig ≤ wordMax) :
    accumulateInteger (sig, false, extra) ds =
      (ds.foldl (fun acc c => acc * 10 + (c.toNat - 48)) sig, false, extra) := by
  induction ds generalizing sig with
  | nil => rfl
  | cons c ds ih =>
    have hnext : sig * 10 + digitValue c ≤ wordMax :=
      le_trans (le_foldl_digits ds _) h
    rw [accumulateInteger, if_neg Bool.false_ne_true, if_pos hnext]
    exact ih _ h

theorem readNumber_toString_int {i : Int} (hlo : -(pow2 63 : Int) ≤ i) (hhi : i ≤ wordMax) :
    readNumber (toString i).toList = some (.int i, []) := by
  have hread := @readNumber_chars_append _ (intToken_wellFormed i) [] (by
    intro c hc
    simp [intToken, fractionChars, exponentChars] at hc)
  have hacc : accumulateInteger (0, false, 0) (intToken i).whole = (i.natAbs, false, 0) := by
    have hvalue := digitsValue_toDigits i.natAbs
    unfold digitsValue at hvalue
    have hword : pow2 63 ≤ wordMax := by decide
    rw [intToken, accumulateInteger_of_le _ _ _ (by rw [hvalue]; omega), hvalue]
  rw [List.append_nil] at hread
  rw [toString_int_chars, hread, hacc]
  simp only [intToken, fractionChars, exponentChars, if_pos, List.append_nil]
  rw [readNumberTail.eq_4 _ _ _ _ [] (fun _ h => by cases h) (fun _ h => by cases h)
    (fun _ h => by cases h)]
  by_cases hneg : i < 0
  · have hbound : i.natAbs ≤ pow2 63 := by omega
    simp [hneg, hbound, show i.natAbs ≠ 0 by omega, abs_of_neg hneg]
  · simp [hneg]
    omega

theorem readsBack_int (i : Int) : (JsonNumber.int i).readsBack = (JsonNumber.int i).inRange := by
  cases hrange : (JsonNumber.int i).inRange with
  | false => simp [JsonNumber.readsBack, hrange]
  | true =>
    have hbounds : -(pow2 63 : Int) ≤ i ∧ i ≤ wordMax := by simpa [JsonNumber.inRange] using hrange
    have hread := readNumber_toString_int hbounds.1 hbounds.2
    simp only [JsonNumber.readsBack, hrange, numberText, hread, decide_true, Bool.and_self]

end Integers

mutual
def numbersReadBack : Json → Bool
  | num n => n.readsBack
  | arr items => itemsReadBack items
  | obj fields => fieldsReadBack fields
  | _ => true

def itemsReadBack : List Json → Bool
  | [] => true
  | v :: rest => numbersReadBack v && itemsReadBack rest

def fieldsReadBack : List (String × Json) → Bool
  | [] => true
  | (_, v) :: rest => numbersReadBack v && fieldsReadBack rest
end

/-! ## Quoted strings -/

theorem flatMap_separatorEscape_escapeChar {c : Char} (hls : c ≠ lineSeparator)
    (hps : c ≠ paragraphSeparator) : (escapeChar c).flatMap separatorEscape = escapeChar c := by
  unfold escapeChar
  split_ifs with h1 h2 h3 h4 h5 h6 h7 h8
  any_goals decide
  · have hhi := hexDigit_lt (show c.toNat / 16 < 16 by omega)
    have hlo := hexDigit_lt (show c.toNat % 16 < 16 by omega)
    exact flatMap_separatorEscape_of_lt (by simp [or_imp, forall_and]; omega)
  · simp [separatorEscape, hls, hps]

theorem readStringBody_escapeChar_plain (c : Char) (rest acc : List Char) :
    readStringBody (escapeChar c ++ rest) acc = readStringBody rest (c :: acc) := by
  by_cases hsep : c = lineSeparator ∨ c = paragraphSeparator
  · obtain ⟨hraw, hq, hb, hc⟩ : escapeChar c = [c] ∧ c ≠ '"' ∧ c ≠ '\\' ∧ 32 ≤ c.toNat := by
      rcases hsep with rfl | rfl <;> decide
    rw [hraw, List.singleton_append]
    exact readStringBody_raw hq hb hc rest acc
  · rw [not_or] at hsep
    rw [← flatMap_separatorEscape_escapeChar hsep.1 hsep.2]
    exact readStringBody_escapeChar c rest acc

theorem readStringBody_escaped (cs rest acc : List Char) :
    readStringBody (cs.flatMap escapeChar ++ '"' :: rest) acc =
      some (String.ofList (acc.reverse ++ cs), rest) := by
  induction cs generalizing acc with
  | nil => simp [readStringBody]
  | cons c cs ih =>
      rw [List.flatMap_cons, List.append_assoc, readStringBody_escapeChar_plain, ih]
      simp

/-! ## Compact text

The characters of the compact text of each kind of value.
-/

section CompactText

theorem render_str (s : String) :
    (render (str s)).toList = '"' :: (s.toList.flatMap escapeChar ++ ['"']) := by
  simp [render, quote, quoteChars]

theorem render_num (n : JsonNumber) : (render (num n)).toList = (numberText n).toList := by
  simp [render]

theorem render_arr_cons (x : Json) (xs : List Json) :
    (render (arr (x :: xs))).toList = '[' :: ((renderItems (x :: xs)).toList ++ [']']) := by
  simp [render]

theorem render_obj_cons (f : String × Json) (fs : List (String × Json)) :
    (render (obj (f :: fs))).toList = '\x7b' :: ((renderFields (f :: fs)).toList ++ ['\x7d']) := by
  simp [render]

theorem renderItems_single (x : Json) : (renderItems [x]).toList = (render x).toList := by
  rw [renderItems.eq_2]

theorem renderItems_cons_cons (x y : Json) (ys : List Json) :
    (renderItems (x :: y :: ys)).toList =
      (render x).toList ++ ',' :: (renderItems (y :: ys)).toList := by
  rw [renderItems.eq_3 _ _ (by simp)]
  simp

theorem renderFields_single (k : String) (x : Json) :
    (renderFields [(k, x)]).toList =
      '"' :: (k.toList.flatMap escapeChar ++ '"' :: ':' :: (render x).toList) := by
  rw [renderFields.eq_2]
  simp [quote, quoteChars]

theorem renderFields_cons_cons (k : String) (x : Json) (f : String × Json)
    (fs : List (String × Json)) :
    (renderFields ((k, x) :: f :: fs)).toList =
      '"' :: (k.toList.flatMap escapeChar ++ '"' :: ':' ::
        ((render x).toList ++ ',' :: (renderFields (f :: fs)).toList)) := by
  rw [renderFields.eq_3 _ _ _ (by simp)]
  simp [quote, quoteChars]

theorem renderItems_cons_text (x : Json) (xs : List Json) :
    ∃ T, (renderItems (x :: xs)).toList = (render x).toList ++ T := by
  cases xs with
  | nil => exact ⟨[], by rw [renderItems_single, List.append_nil]⟩
  | cons y ys => exact ⟨_, renderItems_cons_cons x y ys⟩

theorem renderFields_cons_text (k : String) (x : Json) (fs : List (String × Json)) :
    ∃ T, (renderFields ((k, x) :: fs)).toList = '"' :: T := by
  cases fs with
  | nil => exact ⟨_, renderFields_single k x⟩
  | cons f fs => exact ⟨_, renderFields_cons_cons k x f fs⟩

end CompactText

/-! ## Scalars -/

theorem readValue_render_num (fuel room : Nat) {n : JsonNumber} (hn : n.readsBack = true)
    {rest : List Char} (hr : StopsNumber rest) :
    readValue readNumber (fuel + 1) room ((render (num n)).toList ++ rest) = some (num n, rest) := by
  simp only [JsonNumber.readsBack, Bool.and_eq_true, decide_eq_true_eq] at hn
  obtain ⟨hrange, hback⟩ := hn
  obtain ⟨t, ht, htext, -⟩ := numberText_token hrange
  obtain ⟨c, cs, hcs, hc⟩ := chars_head ht
  have hread : readNumber (t.chars ++ rest) = some (n, rest) := by
    rw [readNumber_append ht hr, ← htext, hback]
    rfl
  rw [render_num, htext, hcs, List.cons_append, readValue_numberStart _ _ _ hc, ← List.cons_append,
    ← hcs, hread]
  rfl

theorem readValue_render_str (fuel room : Nat) (s : String) (rest : List Char) :
    readValue readNumber (fuel + 1) room ((render (str s)).toList ++ rest) = some (str s, rest) := by
  have hbody := readStringBody_escaped s.toList rest []
  simp only [List.reverse_nil, List.nil_append, String.ofList_toList] at hbody
  rw [render_str, List.cons_append, readValue.eq_2, skipSpace_cons_of_not_space rfl]
  simp [hbody]

theorem head_render (v : Json) (hv : numbersReadBack v = true) :
    ∃ c cs, (render v).toList = c :: cs ∧ isSpace c = false ∧ c ≠ ']' ∧ c ≠ '\x7d' := by
  cases v with
  | null => exact ⟨'n', _, rfl, rfl, by decide, by decide⟩
  | bool b =>
      cases b with
      | true => exact ⟨'t', _, rfl, rfl, by decide, by decide⟩
      | false => exact ⟨'f', _, rfl, rfl, by decide, by decide⟩
  | num n =>
      simp only [numbersReadBack, JsonNumber.readsBack, Bool.and_eq_true] at hv
      obtain ⟨t, ht, htext, -⟩ := numberText_token hv.1
      obtain ⟨c, cs, hcs, hc⟩ := chars_head ht
      exact ⟨c, cs, (render_num n).trans (htext.trans hcs), numberStart_facts hc⟩
  | str s => exact ⟨'"', _, render_str s, rfl, by decide, by decide⟩
  | arr items =>
      cases items with
      | nil => exact ⟨'[', _, rfl, rfl, by decide, by decide⟩
      | cons x xs => exact ⟨'[', _, render_arr_cons x xs, rfl, by decide, by decide⟩
  | obj fields =>
      cases fields with
      | nil => exact ⟨'\x7b', _, rfl, rfl, by decide, by decide⟩
      | cons f fs => exact ⟨'\x7b', _, render_obj_cons f fs, rfl, by decide, by decide⟩

theorem stopsNumber_close {close : Char} (hclose : close = ']' ∨ close = '\x7d')
    (rest : List Char) : StopsNumber (close :: rest) :=
  @stopsNumber_blank_close [] (fun _ h => by cases h) _ hclose rest

/-! ## Containers -/

mutual

/-- The compact text of a value, followed by text that cannot continue a number, reads back as
the value, given fuel for its size and nesting room above its depth. -/
theorem readValue_render :
    ∀ (v : Json) (fuel room : Nat) (rest : List Char), numbersReadBack v = true →
      readSize v ≤ fuel → depth v < room → StopsNumber rest →
      readValue readNumber fuel room ((render v).toList ++ rest) = some (v, rest)
  | v, 0, _, _, _, hf, _, _ => absurd hf (by have := readSize_pos v; omega)
  | .null, fuel + 1, room, rest, _, _, _, _ => rfl
  | .bool true, fuel + 1, room, rest, _, _, _, _ => rfl
  | .bool false, fuel + 1, room, rest, _, _, _, _ => rfl
  | .num n, fuel + 1, room, rest, hv, _, _, hrest => readValue_render_num fuel room hv hrest
  | .str s, fuel + 1, room, rest, _, _, _, _ => readValue_render_str fuel room s rest
  | .arr [], fuel + 1, room, rest, _, _, hd, _ => by
      simp only [depth, itemsDepth] at hd
      simp [render, renderItems, readValue, skipSpace, isSpace, show ¬room ≤ 1 by omega]
  | .arr (x :: xs), fuel + 1, room, rest, hv, hf, hd, hrest => by
      have hsize : readSize (arr (x :: xs)) = 1 + itemsReadSize (x :: xs) := rfl
      have hdepth : depth (arr (x :: xs)) = itemsDepth (x :: xs) + 1 := rfl
      have hvx : numbersReadBack x = true := by
        simp only [numbersReadBack, itemsReadBack, Bool.and_eq_true] at hv
        exact hv.1
      obtain ⟨c, cs, hx, hspace, hclose, -⟩ := head_render x hvx
      have hitems := readItems_render (x :: xs) fuel (room - 1) rest [] (by simp) hv (by omega)
        (by omega)
      rw [render_arr_cons, List.cons_append, readValue_openArray _ _ _ (by omega)]
      · simpa using hitems
      · obtain ⟨T, hT⟩ := renderItems_cons_text x xs
        intro r
        simp only [hT, hx, List.append_assoc, List.cons_append]
        rw [skipSpace_cons_of_not_space hspace]
        intro h
        exact hclose (List.cons.inj h).1
  | .obj [], fuel + 1, room, rest, _, _, hd, _ => by
      simp only [depth, fieldsDepth] at hd
      simp [render, renderFields, readValue, skipSpace, isSpace, show ¬room ≤ 1 by omega]
  | .obj ((k, x) :: fs), fuel + 1, room, rest, hv, hf, hd, hrest => by
      have hsize : readSize (obj ((k, x) :: fs)) = 1 + fieldsReadSize ((k, x) :: fs) := rfl
      have hdepth : depth (obj ((k, x) :: fs)) = fieldsDepth ((k, x) :: fs) + 1 := rfl
      have hfields := readMembers_render ((k, x) :: fs) fuel (room - 1) rest [] (by simp) hv
        (by omega) (by omega)
      rw [render_obj_cons, List.cons_append, readValue_openObject _ _ _ (by omega)]
      · simpa using hfields
      · obtain ⟨T, hT⟩ := renderFields_cons_text k x fs
        intro r
        simp only [hT, List.cons_append]
        rw [skipSpace_cons_of_not_space rfl]
        intro h
        exact absurd (List.cons.inj h).1 (by decide)

theorem readItems_render :
    ∀ (items : List Json) (fuel room : Nat) (rest : List Char) (acc : List Json),
      items ≠ [] → itemsReadBack items = true → itemsReadSize items ≤ fuel →
      itemsDepth items < room →
      readItems readNumber fuel room ((renderItems items).toList ++ ']' :: rest) acc =
        some (arr (acc.reverse ++ items), rest)
  | [], _, _, _, _, hne, _, _, _ => absurd rfl hne
  | x :: xs, 0, _, _, _, _, _, hf, _ => by
      have : itemsReadSize (x :: xs) = 1 + readSize x + itemsReadSize xs := rfl
      omega
  | [x], fuel + 1, room, rest, acc, _, hv, hf, hd => by
      have hsize : itemsReadSize [x] = 1 + readSize x + itemsReadSize [] := rfl
      have hdepth : itemsDepth [x] = max (depth x) (itemsDepth []) := rfl
      have hvx : numbersReadBack x = true := by simpa [itemsReadBack] using hv
      have hx := readValue_render x fuel room (']' :: rest) hvx (by omega) (by omega)
        (stopsNumber_close (.inl rfl) rest)
      rw [renderItems_single, readItems.eq_2, hx]
      simp [skipSpace_cons_of_not_space (c := ']') rfl]
  | x :: y :: ys, fuel + 1, room, rest, acc, _, hv, hf, hd => by
      have hsize : itemsReadSize (x :: y :: ys) = 1 + readSize x + itemsReadSize (y :: ys) := rfl
      have hdepth : itemsDepth (x :: y :: ys) = max (depth x) (itemsDepth (y :: ys)) := rfl
      simp only [itemsReadBack, Bool.and_eq_true] at hv
      have hx := readValue_render x fuel room (',' :: ((renderItems (y :: ys)).toList ++ ']' :: rest))
        hv.1 (by omega) (by omega) (stopsNumber_comma _)
      have hys := readItems_render (y :: ys) fuel room rest (x :: acc) (by simp)
        (by simpa [itemsReadBack] using hv.2) (by omega) (by omega)
      rw [renderItems_cons_cons, List.append_assoc, List.cons_append, readItems.eq_2, hx]
      simp only [skipSpace_cons_of_not_space (c := ',') rfl]
      rw [hys]
      simp

theorem readMembers_render :
    ∀ (fields : List (String × Json)) (fuel room : Nat) (rest : List Char)
      (acc : List (String × Json)),
      fields ≠ [] → fieldsReadBack fields = true → fieldsReadSize fields ≤ fuel →
      fieldsDepth fields < room →
      readMembers readNumber fuel room ((renderFields fields).toList ++ '\x7d' :: rest) acc =
        some (obj (acc.reverse ++ fields), rest)
  | [], _, _, _, _, hne, _, _, _ => absurd rfl hne
  | (k, x) :: fs, 0, _, _, _, _, _, hf, _ => by
      have : fieldsReadSize ((k, x) :: fs) = 1 + readSize x + fieldsReadSize fs := rfl
      omega
  | [(k, x)], fuel + 1, room, rest, acc, _, hv, hf, hd => by
      have hsize : fieldsReadSize [(k, x)] = 1 + readSize x + fieldsReadSize [] := rfl
      have hdepth : fieldsDepth [(k, x)] = max (depth x) (fieldsDepth []) := rfl
      have hvx : numbersReadBack x = true := by simpa [fieldsReadBack] using hv
      have hx := readValue_render x fuel room ('\x7d' :: rest) hvx (by omega) (by omega)
        (stopsNumber_close (.inr rfl) rest)
      have hkey := readStringBody_escaped k.toList (':' :: ((render x).toList ++ '\x7d' :: rest)) []
      simp only [List.reverse_nil, List.nil_append, String.ofList_toList] at hkey
      rw [renderFields_single, readMembers.eq_2]
      simp only [List.append_assoc, List.cons_append]
      rw [skipSpace_cons_of_not_space rfl]
      simp only [hkey, skipSpace_cons_of_not_space (c := ':') rfl, hx]
      simp [skipSpace_cons_of_not_space (c := '\x7d') rfl]
  | (k, x) :: f :: fs, fuel + 1, room, rest, acc, _, hv, hf, hd => by
      have hsize : fieldsReadSize ((k, x) :: f :: fs) =
          1 + readSize x + fieldsReadSize (f :: fs) := rfl
      have hdepth : fieldsDepth ((k, x) :: f :: fs) = max (depth x) (fieldsDepth (f :: fs)) := rfl
      simp only [fieldsReadBack, Bool.and_eq_true] at hv
      have hx := readValue_render x fuel room
        (',' :: ((renderFields (f :: fs)).toList ++ '\x7d' :: rest)) hv.1 (by omega) (by omega)
        (stopsNumber_comma _)
      have hfs := readMembers_render (f :: fs) fuel room rest ((k, x) :: acc) (by simp)
        (by simpa [fieldsReadBack] using hv.2) (by omega) (by omega)
      have hkey := readStringBody_escaped k.toList
        (':' :: ((render x).toList ++ ',' :: ((renderFields (f :: fs)).toList ++ '\x7d' :: rest))) []
      simp only [List.reverse_nil, List.nil_append, String.ofList_toList] at hkey
      rw [renderFields_cons_cons, readMembers.eq_2]
      simp only [List.append_assoc, List.cons_append]
      rw [skipSpace_cons_of_not_space rfl]
      simp only [hkey, skipSpace_cons_of_not_space (c := ':') rfl, hx,
        skipSpace_cons_of_not_space (c := ',') rfl]
      rw [hfs]
      simp

end

/-! ## Whole texts -/

mutual

theorem readSize_le_render_length :
    ∀ v : Json, numbersReadBack v = true → readSize v ≤ (render v).toList.length
  | .arr (x :: xs), hv => by
      have hitems := itemsReadSize_le_render_length (x :: xs) hv
      have hsize : readSize (arr (x :: xs)) = 1 + itemsReadSize (x :: xs) := rfl
      rw [render_arr_cons]
      simp only [List.length_cons, List.length_append]
      omega
  | .obj ((k, x) :: fs), hv => by
      have hfields := fieldsReadSize_le_render_length ((k, x) :: fs) hv
      have hsize : readSize (obj ((k, x) :: fs)) = 1 + fieldsReadSize ((k, x) :: fs) := rfl
      rw [render_obj_cons]
      simp only [List.length_cons, List.length_append]
      omega
  | .arr [], _ => by simp [readSize, itemsReadSize, render, renderItems]
  | .obj [], _ => by simp [readSize, fieldsReadSize, render, renderFields]
  | .null, _ => by simp [readSize, render]
  | .bool b, _ => by cases b <;> simp [readSize, render]
  | .str s, _ => by simp [readSize, render_str]
  | .num n, hv => by
      obtain ⟨c, cs, htext, -⟩ := head_render (num n) hv
      simp [readSize, htext]

theorem itemsReadSize_le_render_length :
    ∀ items : List Json, itemsReadBack items = true →
      itemsReadSize items ≤ (renderItems items).toList.length + 1
  | [], _ => Nat.zero_le _
  | [x], hv => by
      have hx := readSize_le_render_length x (by simpa [itemsReadBack] using hv)
      have hsize : itemsReadSize [x] = 1 + readSize x := rfl
      rw [renderItems_single]
      omega
  | x :: y :: ys, hv => by
      simp only [itemsReadBack, Bool.and_eq_true] at hv
      have hx := readSize_le_render_length x hv.1
      have hys := itemsReadSize_le_render_length (y :: ys) (by simpa [itemsReadBack] using hv.2)
      have hsize : itemsReadSize (x :: y :: ys) = 1 + readSize x + itemsReadSize (y :: ys) := rfl
      rw [renderItems_cons_cons]
      simp only [List.length_append, List.length_cons]
      omega

theorem fieldsReadSize_le_render_length :
    ∀ fields : List (String × Json), fieldsReadBack fields = true →
      fieldsReadSize fields ≤ (renderFields fields).toList.length + 1
  | [], _ => Nat.zero_le _
  | [(k, x)], hv => by
      have hx := readSize_le_render_length x (by simpa [fieldsReadBack] using hv)
      have hsize : fieldsReadSize [(k, x)] = 1 + readSize x := rfl
      rw [renderFields_single]
      simp only [List.length_append, List.length_cons]
      omega
  | (k, x) :: f :: fs, hv => by
      simp only [fieldsReadBack, Bool.and_eq_true] at hv
      have hx := readSize_le_render_length x hv.1
      have hfs := fieldsReadSize_le_render_length (f :: fs) (by simpa [fieldsReadBack] using hv.2)
      have hsize : fieldsReadSize ((k, x) :: f :: fs) =
          1 + readSize x + fieldsReadSize (f :: fs) := rfl
      rw [renderFields_cons_cons]
      simp only [List.length_append, List.length_cons]
      omega

end

theorem parse_render {v : Json} (hv : numbersReadBack v = true) (hd : depth v < nestingRoom) :
    parse (render v) = some v := by
  have hlen := readSize_le_render_length v hv
  have hread := readValue_render v (2 * (render v).toList.length + 2) nestingRoom [] hv
    (by omega) hd (fun _ hc => by cases hc)
  rw [List.append_nil] at hread
  simp [parse, hread, skipSpace]

theorem parseCanonical_render {v : Json} (hv : numbersReadBack v = true)
    (hd : depth v < nestingRoom) (hc : canonical v = v) : parseCanonical (render v) = some v := by
  rw [parseCanonical, parse_render hv hd, Option.map_some, hc]

end Json

end SceneScript
