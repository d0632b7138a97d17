import Mathlib
import SceneScript.Proofs.Builds

/-!
# Line feeds in script text

A script may end its lines only with a line feed: a carriage return, a line separator or a
paragraph separator would end a line as well, in the middle of a comment or a string literal.
This module follows the characters of every writer of script text. Text from a scene reaches a
script through four writers, each keeping to a smaller alphabet: a string literal escapes every
line terminator, JSON text every one but the line feeds it writes itself, an identifier has
letters, digits and underscores only, and a number has printable ASCII only. A comment turns
every line terminator into a space, so it ends at the line feed written after it.

A property of the characters of a text is stated once, as `Within p`, and every lemma is about
`Within` for some class `p`. A string literal is checked on its list of characters: the literal
unfolds to `String.ofList` of them at no cost, where deciding on its `toList` would decode its
bytes.
-/

namespace SceneScript

namespace Script

/-! ## Texts over one alphabet -/

def Within (p : Char → Bool) (s : String) : Prop :=
  ∀ c ∈ s.toList, p c = true

instance (p : Char → Bool) : DecidablePred (Within p) := fun s =>
  inferInstanceAs (Decidable (∀ c ∈ s.toList, p c = true))

section Within

variable {p q : Char → Bool} {s t : String}

theorem within_ofList {l : List Char} (h : l.all p = true) : Within p (String.ofList l) := by
  simpa [Within] using h

@[simp] theorem within_append : Within p (s ++ t) ↔ Within p s ∧ Within p t := by
  simp [Within, or_imp, forall_and]

@[simp] theorem within_empty : Within p "" := by
  simp [Within]

theorem Within.mono (h : Within p s) (hpq : ∀ c, p c = true → q c = true) : Within q s :=
  fun c hc => hpq c (h c hc)

theorem within_join {l : List String} (h : ∀ s ∈ l, Within p s) : Within p (String.join l) := by
  intro c hc
  obtain ⟨s, hs, hcs⟩ := List.mem_flatMap.1 (String.toList_join ▸ hc)
  exact h s hs c hcs

theorem within_intercalate {sep : String} (hsep : Within p sep) {l : List String} :
    Within p (sep.intercalate l) ↔ ∀ s ∈ l, Within p s := by
  induction l with
  | nil => simp [String.intercalate_nil]
  | cons s rest ih =>
      cases rest with
      | nil => simp [String.intercalate_singleton]
      | cons t rest =>
          rw [String.intercalate_cons_cons, within_append, within_append, ih]
          simp [hsep]

end Within

/-! ## Character classes -/

def isPrintable (c : Char) : Bool :=
  32 ≤ c.toNat && c.toNat < 127

/-- Not one of the 32 ASCII control characters, which include the tab, the line feed and the
carriage return. -/
def isNotControl (c : Char) : Bool :=
  32 ≤ c.toNat

def isNotReturn (c : Char) : Bool :=
  c != '\r'

def isNotStrayBreak (c : Char) : Bool :=
  !(c == '\r' || c == lineSeparator || c == paragraphSeparator)

def isNotLineBreak (c : Char) : Bool :=
  !ScriptWriter.isLineBreak c

/-- A script text whose only line terminator is the line feed. -/
abbrev LineFeedOnly : String → Prop :=
  Within isNotStrayBreak

abbrev OneLine : String → Prop :=
  Within isNotLineBreak

theorem isNotControl_of_isPrintable {c : Char} (h : isPrintable c = true) :
    isNotControl c = true := by
  simp only [isPrintable, Bool.and_eq_true, decide_eq_true_eq] at h
  simpa [isNotControl] using h.1

theorem isNotReturn_of_isNotControl {c : Char} (h : isNotControl c = true) :
    isNotReturn c = true := by
  simp only [isNotControl, decide_eq_true_eq] at h
  simp only [isNotReturn, bne_iff_ne, ne_eq]
  rintro rfl
  simp at h

theorem isNotLineBreak_of_isNotControl {c : Char} (h : isNotControl c = true)
    (hls : c ≠ lineSeparator) (hps : c ≠ paragraphSeparator) : isNotLineBreak c = true := by
  have hls' : c.toNat ≠ 0x2028 := fun e => hls (by rw [← Char.ofNat_toNat c, e]; rfl)
  have hps' : c.toNat ≠ 0x2029 := fun e => hps (by rw [← Char.ofNat_toNat c, e]; rfl)
  simp only [isNotControl, decide_eq_true_eq] at h
  have hcr : c ≠ '\r' := by rintro rfl; simp at h
  have hlf : c ≠ '\n' := by rintro rfl; simp at h
  simp [isNotLineBreak, ScriptWriter.isLineBreak, hcr, hlf, hls', hps']

theorem isNotStrayBreak_of_isNotLineBreak {c : Char} (h : isNotLineBreak c = true) :
    isNotStrayBreak c = true := by
  have hls : lineSeparator.toNat = 0x2028 := rfl
  have hps : paragraphSeparator.toNat = 0x2029 := rfl
  simp only [isNotLineBreak, ScriptWriter.isLineBreak, Bool.not_eq_true', Bool.or_eq_false_iff,
    decide_eq_false_iff_not] at h
  simp only [isNotStrayBreak, Bool.not_eq_true', Bool.or_eq_false_iff, beq_eq_false_iff_ne]
  refine ⟨⟨h.1.1.1, ?_⟩, ?_⟩
  · intro e; exact h.1.2 (e ▸ hls)
  · intro e; exact h.2 (e ▸ hps)

theorem isNotLineBreak_of_isPrintable {c : Char} (h : isPrintable c = true) :
    isNotLineBreak c = true := by
  have hcontrol := isNotControl_of_isPrintable h
  simp only [isPrintable, Bool.and_eq_true, decide_eq_true_eq] at h
  refine isNotLineBreak_of_isNotControl hcontrol ?_ ?_
  · rintro rfl; exact absurd h.2 (by decide)
  · rintro rfl; exact absurd h.2 (by decide)

theorem isPrintable_of_isDigit {c : Char} (h : c.isDigit = true) : isPrintable c = true := by
  have hval : c.toNat = c.val.toNat := rfl
  simp only [Char.isDigit, Bool.and_eq_true, decide_eq_true_eq, UInt32.le_iff_toNat_le] at h
  simp only [isPrintable, Bool.and_eq_true, decide_eq_true_eq, hval]
  simp at h
  omega

theorem toNat_of_isAlphanum {c : Char} (h : c.isAlphanum = true) :
    48 ≤ c.toNat ∧ c.toNat ≤ 122 := by
  have hval : c.toNat = c.val.toNat := rfl
  simp only [Char.isAlphanum, Char.isAlpha, Char.isUpper, Char.isLower, Char.isDigit,
    Bool.or_eq_true, Bool.and_eq_true, decide_eq_true_eq, UInt32.le_iff_toNat_le] at h
  rw [hval]
  rcases h with (⟨h1, h2⟩ | ⟨h1, h2⟩) | ⟨h1, h2⟩ <;> simp at h1 h2 <;> omega

theorem Within.oneLine {s : String} (h : Within isPrintable s) : OneLine s :=
  h.mono fun _ => isNotLineBreak_of_isPrintable

theorem OneLine.lineFeedOnly {s : String} (h : OneLine s) : LineFeedOnly s :=
  Within.mono h fun _ => isNotStrayBreak_of_isNotLineBreak

theorem Within.lineFeedOnly {s : String} (h : Within isPrintable s) : LineFeedOnly s :=
  h.oneLine.lineFeedOnly

/-! ## Digits -/

theorem within_digits {l : List Char} (h : ∀ c ∈ l, c.isDigit = true) :
    Within isPrintable (String.ofList l) :=
  within_ofList (List.all_eq_true.2 fun c hc => isPrintable_of_isDigit (h c hc))

theorem within_toDigits (n : Nat) : Within isPrintable (String.ofList (Nat.toDigits 10 n)) :=
  within_digits fun _ hc => Nat.isDigit_of_mem_toDigits (by decide) (by decide) hc

theorem within_toString_nat (n : Nat) : Within isPrintable (toString n) := by
  rw [Nat.toString_eq_ofList_toDigits]
  exact within_toDigits n

end Script

/-! ## Numbers -/

namespace NumberLayout

open Script

def TextsPrintable (layout : NumberLayout) : Prop :=
  Within isPrintable layout.nanText ∧ Within isPrintable layout.posInfText ∧
    Within isPrintable layout.negInfText

theorem within_zeros (n : Nat) : Within isPrintable (zeros n) := by
  intro c hc
  simp only [zeros, String.toList_ofList, List.mem_replicate] at hc
  rw [hc.2]
  rfl

theorem within_plainText (layout : NumberLayout) {ds : List Char}
    (hds : ∀ c ∈ ds, c.isDigit = true) (e : Int) :
    Within isPrintable (layout.plainText ds e) := by
  have htake : ∀ k, Within isPrintable (String.ofList (ds.take k)) := fun k =>
    within_digits fun c hc => hds c (List.mem_of_mem_take hc)
  have hdrop : ∀ k, Within isPrintable (String.ofList (ds.drop k)) := fun k =>
    within_digits fun c hc => hds c (List.mem_of_mem_drop hc)
  have hall := within_digits hds
  unfold plainText
  dsimp only
  split_ifs <;>
    simp only [within_append, within_zeros, hall, htake, hdrop, and_true, true_and] <;>
    exact within_ofList (by decide)

theorem within_scientificText (layout : NumberLayout) {ds : List Char}
    (hds : ∀ c ∈ ds, c.isDigit = true) (top : Int) :
    Within isPrintable (layout.scientificText ds top) := by
  have hdigit : ∀ d ∈ ds, Within isPrintable (String.singleton d) := fun d hd => by
    simpa [Within] using isPrintable_of_isDigit (hds d hd)
  unfold scientificText
  dsimp only
  simp only [within_append, within_toString_nat, and_true]
  refine ⟨⟨?_, within_ofList (by decide)⟩, ?_⟩
  · split
    · exact within_ofList (by decide)
    · exact hdigit _ (by simp)
    · rename_i d rest _
      simp only [within_append]
      exact ⟨⟨hdigit d (by simp), within_ofList (by decide)⟩,
        within_digits fun c hc => hds c (List.mem_cons_of_mem _ hc)⟩
  · split_ifs <;> exact within_ofList (by decide)

theorem within_decimalText (layout : NumberLayout) (d : Decimal) :
    Within isPrintable (layout.decimalText d) := by
  have hds : ∀ c ∈ Nat.toDigits 10 d.digits, c.isDigit = true := fun _ hc =>
    Nat.isDigit_of_mem_toDigits (by decide) (by decide) hc
  unfold decimalText
  split
  · simp only [within_append]
    refine ⟨within_ofList (by decide), ?_⟩
    split <;> exact within_ofList (by decide)
  · dsimp only
    split
    · exact within_plainText layout hds _
    · exact within_scientificText layout hds _

theorem within_render {layout : NumberLayout} (h : layout.TextsPrintable) (x : Binary64) :
    Within isPrintable (layout.render x) := by
  cases x with
  | nan => exact h.1
  | infinite neg =>
      cases neg with
      | false => exact h.2.1
      | true => exact h.2.2
  | finite neg exp frac =>
      simp only [render, within_append, within_decimalText, and_true]
      split_ifs <;> exact within_ofList (by decide)

theorem script_textsPrintable : script.TextsPrintable :=
  ⟨within_ofList (by decide), within_ofList (by decide), within_ofList (by decide)⟩

theorem json_textsPrintable : json.TextsPrintable :=
  ⟨within_ofList (by decide), within_ofList (by decide), within_ofList (by decide)⟩

end NumberLayout

/-! ## Literals of scripts -/

namespace Script

theorem within_number (x : Binary64) : Within isPrintable (number x) := by
  unfold number
  split_ifs
  · exact NumberLayout.within_render NumberLayout.script_textsPrintable _
  · exact within_ofList (by decide)

theorem within_bool (b : Bool) : Within isPrintable (bool b) := by
  unfold bool
  split <;> exact within_ofList (by decide)

theorem within_ident (s : String) : Within isPrintable (ident s) := by
  have hchar : ∀ c : Char, isPrintable (if isIdentChar c then c else '_') = true := by
    intro c
    split
    · rename_i h
      simp only [isIdentChar, Bool.or_eq_true, decide_eq_true_eq] at h
      rcases h with h | rfl
      · have := toNat_of_isAlphanum h
        simp only [isPrintable, Bool.and_eq_true, decide_eq_true_eq]
        omega
      · rfl
    · rfl
  have hcs : ∀ c ∈ s.toList.map (fun c => if isIdentChar c then c else '_'),
      isPrintable c = true := by
    simp only [List.mem_map]
    rintro c ⟨d, -, rfl⟩
    exact hchar d
  unfold ident
  dsimp only
  split
  · exact within_ofList (by decide)
  · split
    · intro d hd
      simp only [String.toList_ofList, List.mem_cons] at hd
      rcases hd with rfl | hd
      · rfl
      · exact hcs d hd
    · intro d hd
      rw [String.toList_ofList] at hd
      exact hcs d hd

end Script

namespace Vec3

theorem within_scriptText (v : Vec3) : Script.Within Script.isPrintable v.scriptText := by
  unfold scriptText
  simp only [Script.within_append, Script.within_number, and_true, true_and]
  and_intros <;> exact Script.within_ofList (by decide)

@[simp] theorem lineFeedOnly_scriptText (v : Vec3) : Script.LineFeedOnly v.scriptText :=
  v.within_scriptText.lineFeedOnly

end Vec3

namespace Rgb

theorem within_scriptText (c : Rgb) : Script.Within Script.isPrintable c.scriptText := by
  unfold scriptText
  simp only [Script.within_append, Script.within_number, and_true]
  and_intros <;> exact Script.within_ofList (by decide)

@[simp] theorem lineFeedOnly_scriptText (c : Rgb) : Script.LineFeedOnly c.scriptText :=
  c.within_scriptText.lineFeedOnly

end Rgb

/-! ## JSON text -/

namespace Json

open Script

theorem isNotControl_hexDigit {n : Nat} (h : n < 16) : isNotControl (hexDigit n) = true := by
  interval_cases n <;> decide

theorem isNotControl_of_mem_escapeChar {c d : Char} (h : d ∈ escapeChar c) :
    isNotControl d = true := by
  unfold escapeChar at h
  split_ifs at h with h1 h2 h3 h4 h5 h6 h7 h8
  iterate 7 exact List.all_eq_true.1 (by decide) d h
  · have hc : c.toNat / 16 < 16 := by omega
    simp only [List.mem_cons, List.not_mem_nil, or_false] at h
    rcases h with rfl | rfl | rfl | rfl | rfl | rfl
    any_goals decide
    · exact isNotControl_hexDigit hc
    · exact isNotControl_hexDigit (Nat.mod_lt _ (by decide))
  · simp only [List.mem_singleton] at h
    subst h
    simpa [isNotControl] using h8

theorem within_quote (s : String) : Within isNotControl (quote s) := by
  intro d hd
  simp only [quote, quoteChars, String.toList_ofList, List.mem_cons, List.mem_append,
    List.mem_flatMap, List.not_mem_nil, or_false] at hd
  rcases hd with (rfl | ⟨c, -, hc⟩) | rfl
  · rfl
  · exact isNotControl_of_mem_escapeChar hc
  · rfl

theorem within_numberText (n : JsonNumber) : Within isNotControl (numberText n) := by
  refine Within.mono ?_ fun _ => isNotControl_of_isPrintable
  cases n with
  | int i =>
      cases i with
      | ofNat m => exact within_toString_nat m
      | negSucc m =>
          show Within isPrintable ("-" ++ Nat.repr (m + 1))
          simp only [within_append]
          exact ⟨within_ofList (by decide), within_toString_nat (m + 1)⟩
  | float x => exact NumberLayout.within_render NumberLayout.json_textsPrintable x

mutual

theorem within_render : (v : Json) → Within isNotControl (render v)
  | .null => within_ofList (by decide)
  | .bool true => within_ofList (by decide)
  | .bool false => within_ofList (by decide)
  | .num n => within_numberText n
  | .str s => within_quote s
  | .arr items => by
      simp only [render, within_append, within_renderItems items, and_true]
      exact ⟨within_ofList (by decide), within_ofList (by decide)⟩
  | .obj fields => by
      simp only [render, within_append, within_renderFields fields, and_true]
      exact ⟨within_ofList (by decide), within_ofList (by decide)⟩

theorem within_renderItems : (items : List Json) → Within isNotControl (renderItems items)
  | [] => within_ofList (by decide)
  | [v] => within_render v
  | v :: w :: rest => by
      simp only [renderItems, within_append, within_render v, within_renderItems (w :: rest),
        and_true, true_and]
      exact within_ofList (by decide)

theorem within_renderFields :
    (fields : List (String × Json)) → Within isNotControl (renderFields fields)
  | [] => within_ofList (by decide)
  | [(k, v)] => by
      simp only [renderFields, within_append, within_quote, within_render v, and_true,
        true_and]
      exact within_ofList (by decide)
  | (k, v) :: f :: rest => by
      simp only [renderFields, within_append, within_quote, within_render v,
        within_renderFields (f :: rest), and_true, true_and]
      exact ⟨within_ofList (by decide), within_ofList (by decide)⟩

end

theorem within_newline (level : Nat) : Within isNotReturn (newline level) := by
  simp only [newline, within_append]
  refine ⟨within_ofList (by decide), ?_⟩
  intro c hc
  simp only [String.toList_ofList, List.mem_replicate] at hc
  rw [hc.2]
  rfl

theorem within_render_isNotReturn (v : Json) : Within isNotReturn (render v) :=
  (within_render v).mono fun _ => isNotReturn_of_isNotControl

mutual

theorem within_renderPrettyAt (level : Nat) :
    (v : Json) → Within isNotReturn (renderPrettyAt level v)
  | .null => within_render_isNotReturn .null
  | .bool b => within_render_isNotReturn (.bool b)
  | .num n => within_render_isNotReturn (.num n)
  | .str s => within_render_isNotReturn (.str s)
  | .arr [] => within_ofList (by decide)
  | .obj [] => within_ofList (by decide)
  | .arr (v :: rest) => by
      simp only [renderPrettyAt, within_append, within_prettyItems (level + 1) (v :: rest),
        within_newline, and_true]
      exact ⟨within_ofList (by decide), within_ofList (by decide)⟩
  | .obj (f :: rest) => by
      simp only [renderPrettyAt, within_append, within_prettyFields (level + 1) (f :: rest),
        within_newline, and_true]
      exact ⟨within_ofList (by decide), within_ofList (by decide)⟩

theorem within_prettyItems (level : Nat) :
    (items : List Json) → Within isNotReturn (prettyItems level items)
  | [] => within_ofList (by decide)
  | [v] => by
      simp only [prettyItems, within_append, within_newline, within_renderPrettyAt level v,
        and_self]
  | v :: w :: rest => by
      simp only [prettyItems, within_append, within_newline, within_renderPrettyAt level v,
        within_prettyItems level (w :: rest), and_true, true_and]
      exact within_ofList (by decide)

theorem within_prettyFields (level : Nat) :
    (fields : List (String × Json)) → Within isNotReturn (prettyFields level fields)
  | [] => within_ofList (by decide)
  | [(k, v)] => by
      simp only [prettyFields, within_append, within_newline, within_renderPrettyAt level v,
        (within_quote k).mono fun _ => isNotReturn_of_isNotControl, and_true, true_and]
      exact within_ofList (by decide)
  | (k, v) :: f :: rest => by
      simp only [prettyFields, within_append, within_newline, within_renderPrettyAt level v,
        (within_quote k).mono fun _ => isNotReturn_of_isNotControl,
        within_prettyFields level (f :: rest), and_true, true_and]
      exact ⟨within_ofList (by decide), within_ofList (by decide)⟩

end

end Json

/-! ## String literals, JSON and identifiers in scripts -/

namespace Script

theorem mem_escapeSeparators {t : String} {c : Char} (h : c ∈ (escapeSeparators t).toList) :
    isPrintable c = true ∨ (c ∈ t.toList ∧ c ≠ lineSeparator ∧ c ≠ paragraphSeparator) := by
  simp only [escapeSeparators, String.toList_ofList, List.mem_flatMap] at h
  obtain ⟨d, hd, hc⟩ := h
  split_ifs at hc with hls hps
  · exact .inl (List.all_eq_true.1 (by decide) c hc)
  · exact .inl (List.all_eq_true.1 (by decide) c hc)
  · simp only [List.mem_singleton] at hc
    subst hc
    exact .inr ⟨hd, hls, hps⟩

theorem oneLine_escapeSeparators {t : String} (h : Within isNotControl t) :
    OneLine (escapeSeparators t) := by
  intro c hc
  rcases mem_escapeSeparators hc with hp | ⟨hct, hls, hps⟩
  · exact isNotLineBreak_of_isPrintable hp
  · exact isNotLineBreak_of_isNotControl (h c hct) hls hps

theorem lineFeedOnly_escapeSeparators {t : String} (h : Within isNotReturn t) :
    LineFeedOnly (escapeSeparators t) := by
  intro c hc
  rcases mem_escapeSeparators hc with hp | ⟨hct, hls, hps⟩
  · exact isNotStrayBreak_of_isNotLineBreak (isNotLineBreak_of_isPrintable hp)
  · have hcr : c ≠ '\r' := by simpa [isNotReturn] using h c hct
    simp [isNotStrayBreak, hcr, hls, hps]

theorem oneLine_str (s : String) : OneLine (str s) :=
  oneLine_escapeSeparators (Json.within_quote s)

theorem lineFeedOnly_json {v : Json} {t : String} (h : json v = .ok t) : LineFeedOnly t := by
  rw [json_eq] at h
  cases h
  exact lineFeedOnly_escapeSeparators (Json.within_renderPrettyAt 0 v)

/-! The pieces of script text, for `simp`. -/

@[simp] theorem lineFeedOnly_str (s : String) : LineFeedOnly (str s) :=
  (oneLine_str s).lineFeedOnly

@[simp] theorem lineFeedOnly_jsonText (v : Json) :
    LineFeedOnly (escapeSeparators (Json.renderPretty v)) :=
  lineFeedOnly_escapeSeparators (Json.within_renderPrettyAt 0 v)

@[simp] theorem lineFeedOnly_number (x : Binary64) : LineFeedOnly (number x) :=
  (within_number x).lineFeedOnly

@[simp] theorem lineFeedOnly_ident (s : String) : LineFeedOnly (ident s) :=
  (within_ident s).lineFeedOnly

@[simp] theorem lineFeedOnly_bool (b : Bool) : LineFeedOnly (bool b) :=
  (within_bool b).lineFeedOnly

@[simp] theorem lineFeedOnly_block {lines : List String} :
    LineFeedOnly (block lines) ↔ ∀ l ∈ lines, LineFeedOnly l :=
  within_intercalate (within_ofList (by decide))

@[simp] theorem lineFeedOnly_commaList {items : List String} :
    LineFeedOnly (", ".intercalate items) ↔ ∀ l ∈ items, LineFeedOnly l :=
  within_intercalate (within_ofList (by decide))

end Script

/-! ## The writer -/

namespace ScriptWriter

open Script

theorem dropReturn_subset (cs : List Char) : dropReturn cs ⊆ cs := by
  unfold dropReturn
  split
  · exact List.subset_cons_self _ _
  · exact List.Subset.refl _

theorem mem_of_mem_splitLinesAux {cur cs l : List Char} (hl : l ∈ splitLinesAux cur cs)
    {c : Char} (hc : c ∈ l) : c ∈ cur ∨ c ∈ cs := by
  induction cs generalizing cur l with
  | nil =>
      simp only [splitLinesAux] at hl
      split at hl
      · simp at hl
      · simp only [List.mem_singleton] at hl
        subst hl
        exact .inl (List.mem_reverse.1 hc)
  | cons d rest ih =>
      by_cases hd : d = '\n'
      · subst hd
        simp only [splitLinesAux, List.mem_cons] at hl
        rcases hl with rfl | hl
        · exact .inl (dropReturn_subset cur (List.mem_reverse.1 hc))
        · rcases ih hl hc with h | h
          · simp at h
          · exact .inr (List.mem_cons_of_mem _ h)
      · have hl' : l ∈ splitLinesAux (d :: cur) rest := by
          rw [splitLinesAux.eq_3 _ _ _ hd] at hl
          exact hl
        rcases ih hl' hc with h | h
        · rcases List.mem_cons.1 h with rfl | h
          · exact .inr (List.mem_cons_self ..)
          · exact .inl h
        · exact .inr (List.mem_cons_of_mem _ h)

section Lines

variable {p : Char → Bool}

theorem within_indentation (hsp : p ' ' = true) (depth : Nat) :
    Within p (indentation depth) := by
  refine within_join fun s hs => ?_
  rw [(List.mem_replicate.1 hs).2]
  intro c hc
  simp only [indentUnit, String.reduceToList, List.mem_cons, List.not_mem_nil, or_false,
    or_self] at hc
  rw [hc]
  exact hsp

theorem within_lineText (hsp : p ' ' = true) (hnl : p '\n' = true) {t : String}
    (ht : Within p t) (depth : Nat) : Within p (lineText depth t) := by
  have hnl' : Within p "\n" := by
    intro c hc
    simp only [String.reduceToList, List.mem_singleton] at hc
    rw [hc]
    exact hnl
  unfold lineText
  split
  · exact hnl'
  · refine within_join fun s hs => ?_
    obtain ⟨l, hl, rfl⟩ := List.mem_map.1 hs
    unfold renderLine
    split
    · exact hnl'
    · simp only [within_append, within_indentation hsp, hnl', and_true, true_and]
      obtain ⟨cs, hcs, rfl⟩ := List.mem_map.1 hl
      intro c hc
      rw [String.toList_ofList] at hc
      rcases mem_of_mem_splitLinesAux hcs hc with h | h
      · simp at h
      · exact ht c h

end Lines

theorem lineFeedOnly_lineText {t : String} (ht : LineFeedOnly t) (depth : Nat) :
    LineFeedOnly (lineText depth t) :=
  within_lineText rfl rfl ht depth

@[simp] theorem lineFeedOnly_start (comments : Bool) : LineFeedOnly (start comments).out :=
  within_empty

@[simp] theorem lineFeedOnly_line {w : ScriptWriter} {t : String} :
    LineFeedOnly (w.line t).out ↔ LineFeedOnly w.out ∧ LineFeedOnly (lineText w.depth t) :=
  within_append

@[simp] theorem lineFeedOnly_openBlock {w : ScriptWriter} {t : String} :
    LineFeedOnly (w.openBlock t).out ↔ LineFeedOnly w.out ∧ LineFeedOnly (lineText w.depth t) :=
  within_append

@[simp] theorem lineFeedOnly_closeBlock {w : ScriptWriter} {t : String} :
    LineFeedOnly (w.closeBlock t).out ↔
      LineFeedOnly w.out ∧ LineFeedOnly (lineText (w.depth - 1) t) :=
  within_append

theorem oneLine_flatten (t : String) : OneLine (flatten t) := by
  intro c hc
  simp only [flatten, String.toList_ofList, List.mem_map] at hc
  obtain ⟨d, -, rfl⟩ := hc
  split
  · rfl
  · rename_i h
    simpa [isNotLineBreak] using h

theorem splitLinesAux_of_not_mem {cur cs : List Char} (h : '\n' ∉ cs) :
    splitLinesAux cur cs = if cur.isEmpty && cs.isEmpty then [] else [cur.reverse ++ cs] := by
  induction cs generalizing cur with
  | nil => simp [splitLinesAux]
  | cons d rest ih =>
      have hd : d ≠ '\n' := fun e => h (e ▸ List.mem_cons_self ..)
      rw [splitLinesAux.eq_3 _ _ _ hd, ih (fun hr => h (List.mem_cons_of_mem _ hr))]
      simp

theorem lineText_comment (depth : Nat) (t : String) :
    lineText depth ("// " ++ flatten t) = indentation depth ++ "// " ++ flatten t ++ "\n" := by
  have hone := oneLine_flatten t
  have hnl : '\n' ∉ ("// " ++ flatten t).toList := by
    intro hmem
    simp only [String.toList_append, List.mem_append] at hmem
    rcases hmem with hmem | hmem
    · exact absurd hmem (by decide)
    · exact absurd (hone _ hmem) (by decide)
  have hne : ("// " ++ flatten t).toList.isEmpty = false := by simp
  have hlines : splitLines ("// " ++ flatten t) = ["// " ++ flatten t] := by
    rw [splitLines, splitLinesAux_of_not_mem hnl, List.isEmpty_nil, Bool.true_and, hne,
      if_neg Bool.false_ne_true, List.reverse_nil, List.nil_append, List.map_singleton,
      String.ofList_toList]
  have hblank : Text.isBlankText ("// " ++ flatten t) = false := by
    simp [Text.isBlankText, Text.isBlank, Text.inRanges, Text.blankRanges]
  simp [lineText, hlines, renderLine, hblank, String.append_assoc]

theorem comment_out (w : ScriptWriter) (t : String) :
    (w.comment t).out =
      if w.comments then w.out ++ (indentation w.depth ++ "// " ++ flatten t ++ "\n")
      else w.out := by
  unfold comment
  split
  · simp only [line, emit, lineText_comment]
  · rfl

@[simp] theorem lineFeedOnly_comment {w : ScriptWriter} {t : String} :
    LineFeedOnly (w.comment t).out ↔ LineFeedOnly w.out := by
  unfold comment
  split
  · rw [lineFeedOnly_line, and_iff_left_iff_imp]
    intro _
    refine lineFeedOnly_lineText ?_ _
    simp only [within_append]
    exact ⟨within_ofList (by decide), (oneLine_flatten t).lineFeedOnly⟩
  · rfl

end ScriptWriter

end SceneScript
