import Mathlib
import SceneScript.Proofs.ColorNotations

/-!
# Colour spelling

How a colour text is spelled does not change the colour it reads as. `Color.normalize` gives
the same result for a text and for its ASCII lowercase, so for any two texts that differ only in
ASCII case; and the same for a text and for that text between Unicode blanks.

Case is handled through the character map `Text.asciiLowerChar`: it keeps every character's
UTF-8 width, its blankness and its hexadecimal value, and fixes `#` and `+`. The hexadecimal
readers cut their digits by byte offsets, so the slicing lemmas are stated for every map that
keeps widths; the functional notation is lowercased before it is matched, so lowering it first
changes nothing.
-/

namespace SceneScript

namespace Text

/-! ## Slicing a mapped text -/

section Slicing

variable {f : Char → Char} (hf : ∀ c, (f c).utf8Size = c.utf8Size)
include hf

theorem byteLength_map (cs : List Char) : byteLength (cs.map f) = byteLength cs := by
  induction cs with
  | nil => rfl
  | cons c cs ih =>
    simp only [List.map_cons, byteLength, List.foldr_cons] at ih ⊢
    rw [hf, ih]

theorem dropBytes?_map (cs : List Char) (n : Nat) :
    dropBytes? (cs.map f) n = (dropBytes? cs n).map (List.map f) := by
  induction cs generalizing n with
  | nil => cases n <;> rfl
  | cons c cs ih =>
    cases n with
    | zero => rfl
    | succ n =>
      simp only [List.map_cons, dropBytes?, hf]
      split_ifs
      · exact ih _
      · rfl

theorem takeBytes?_map (cs : List Char) (n : Nat) :
    takeBytes? (cs.map f) n = (takeBytes? cs n).map (List.map f) := by
  induction cs generalizing n with
  | nil => cases n <;> rfl
  | cons c cs ih =>
    cases n with
    | zero => rfl
    | succ n =>
      simp only [List.map_cons, takeBytes?, hf]
      split_ifs
      · rw [ih, Option.map_map, Option.map_map]
        rfl
      · rfl

theorem sliceBytes_map (cs : List Char) (i j : Nat) :
    sliceBytes (cs.map f) i j = List.map f <$> sliceBytes cs i j := by
  unfold sliceBytes
  rw [dropBytes?_map hf]
  cases dropBytes? cs i with
  | none => rfl
  | some rest =>
    simp only [Option.map_some]
    split_ifs
    · rw [takeBytes?_map hf]
      cases takeBytes? rest (j - i) <;> rfl
    · rfl

end Slicing

/-! ## Trimming -/

theorem trimChars_map {f : Char → Char} (hf : ∀ c, isBlank (f c) = isBlank c) (cs : List Char) :
    trimChars (cs.map f) = (trimChars cs).map f := by
  have hp : isBlank ∘ f = isBlank := funext hf
  simp only [trimChars, List.dropWhile_map, hp, ← List.map_reverse]

theorem trimChars_blank_around {w w' : List Char} (hw : ∀ c ∈ w, isBlank c = true)
    (hw' : ∀ c ∈ w', isBlank c = true) (cs : List Char) :
    trimChars (w ++ cs ++ w') = trimChars cs := by
  unfold trimChars
  rw [List.append_assoc, List.dropWhile_append_of_pos hw, List.dropWhile_append]
  split
  · rename_i hcs
    rw [List.dropWhile_eq_nil_iff.2 hw', List.isEmpty_iff.1 hcs]
  · rw [List.reverse_append,
      List.dropWhile_append_of_pos fun c hc => hw' c (List.mem_reverse.1 hc)]

/-! ## ASCII lowercase of a character -/

theorem asciiLowerChar_cases (c : Char) :
    asciiLowerChar c = c ∨
      65 ≤ c.toNat ∧ c.toNat ≤ 90 ∧ (asciiLowerChar c).toNat = c.toNat + 32 := by
  by_cases h : 65 ≤ c.toNat ∧ c.toNat ≤ 90
  · refine Or.inr ⟨h.1, h.2, ?_⟩
    have hval : c.toNat = c.val.toNat := rfl
    unfold asciiLowerChar
    rw [if_pos (by simp only [Char.le_def, UInt32.le_iff_toNat_le]; simp; omega),
      Char.toNat_ofNat, if_pos (by simp only [Nat.isValidChar]; omega)]
  · exact Or.inl (Color.asciiLowerChar_eq_self (by omega))

theorem utf8Size_asciiLowerChar (c : Char) : (asciiLowerChar c).utf8Size = c.utf8Size := by
  rcases asciiLowerChar_cases c with h | ⟨h1, h2, h⟩
  · rw [h]
  · have hc : c.toNat = c.val.toNat := rfl
    have hd : (asciiLowerChar c).toNat = (asciiLowerChar c).val.toNat := rfl
    rw [Char.utf8Size_eq_one_iff.2 (by rw [UInt32.le_iff_toNat_le]; simp; omega),
      Char.utf8Size_eq_one_iff.2 (by rw [UInt32.le_iff_toNat_le]; simp; omega)]

theorem isBlank_asciiLowerChar (c : Char) : isBlank (asciiLowerChar c) = isBlank c := by
  rcases asciiLowerChar_cases c with h | ⟨h1, h2, h⟩
  · rw [h]
  · rw [isBlank_of_printable (by omega) (by omega), isBlank_of_printable (by omega) (by omega)]

theorem asciiLowerChar_idem (c : Char) : asciiLowerChar (asciiLowerChar c) = asciiLowerChar c := by
  rcases asciiLowerChar_cases c with h | ⟨h1, h2, h⟩
  · rw [h, h]
  · exact Color.asciiLowerChar_eq_self (by omega)

theorem asciiLowerChar_eq_iff {c d : Char} (hd : d.toNat < 65) : asciiLowerChar c = d ↔ c = d := by
  rcases asciiLowerChar_cases c with h | ⟨h1, h2, h⟩
  · rw [h]
  · constructor
    · rintro rfl
      omega
    · rintro rfl
      omega

end Text

namespace Color

open Text (asciiLowerChar)

/-! ## Hexadecimal digits in either case -/

theorem hexDigit?_eq (c : Char) :
    hexDigit? c =
      if 48 ≤ c.toNat ∧ c.toNat ≤ 57 then some (c.toNat - 48)
      else if 97 ≤ c.toNat ∧ c.toNat ≤ 102 then some (c.toNat - 87)
      else if 65 ≤ c.toNat ∧ c.toNat ≤ 70 then some (c.toNat - 55)
      else none := by
  simp only [hexDigit?, Char.le_def, UInt32.le_iff_toNat_le]
  rfl

theorem hexDigit?_asciiLowerChar (c : Char) : hexDigit? (asciiLowerChar c) = hexDigit? c := by
  rcases Text.asciiLowerChar_cases c with h | ⟨h1, h2, h⟩
  · rw [h]
  · rw [hexDigit?_eq, hexDigit?_eq c, h]
    by_cases hf : c.toNat ≤ 70
    · rw [if_neg (by omega), if_pos (by omega), if_neg (by omega), if_neg (by omega),
        if_pos (by omega)]
      exact congrArg some (by omega)
    · rw [if_neg (by omega), if_neg (by omega), if_neg (by omega), if_neg (by omega),
        if_neg (by omega), if_neg (by omega)]

theorem isHexDigit_comp_asciiLowerChar : isHexDigit ∘ asciiLowerChar = isHexDigit :=
  funext fun c => by simp only [Function.comp, isHexDigit, hexDigit?_asciiLowerChar]

/-! ## The hexadecimal readers do not see case -/

theorem shortOrFullDigits?_map (cs : List Char) :
    shortOrFullDigits? (cs.map asciiLowerChar) = (shortOrFullDigits? cs).map (List.map asciiLowerChar) := by
  cases cs with
  | nil => rfl
  | cons c ds =>
    by_cases hc : c = '#'
    · subst hc
      simp only [List.map_cons, show asciiLowerChar '#' = '#' from rfl, shortOrFullDigits?,
        List.length_map, List.all_map, isHexDigit_comp_asciiLowerChar]
      split_ifs <;> rfl
    · have hd : asciiLowerChar c ≠ '#' := mt (Text.asciiLowerChar_eq_iff (by decide)).1 hc
      simp [shortOrFullDigits?, hc, hd]

theorem alphaDigits?_map (cs : List Char) :
    alphaDigits? (cs.map asciiLowerChar) = (alphaDigits? cs).map (List.map asciiLowerChar) := by
  cases cs with
  | nil => rfl
  | cons c ds =>
    by_cases hc : c = '#'
    · subst hc
      simp only [List.map_cons, show asciiLowerChar '#' = '#' from rfl, alphaDigits?,
        List.length_map, List.all_map, isHexDigit_comp_asciiLowerChar]
      split_ifs <;> rfl
    · have hd : asciiLowerChar c ≠ '#' := mt (Text.asciiLowerChar_eq_iff (by decide)).1 hc
      simp [alphaDigits?, hc, hd]

theorem byteOfHex?_map (cs : List Char) : byteOfHex? (cs.map asciiLowerChar) = byteOfHex? cs := by
  have hdigits : ∀ (ds : List Char) (init : Nat), (ds.map asciiLowerChar).foldlM
      (fun acc c => (hexDigit? c).map (acc * 16 + ·)) init =
      ds.foldlM (fun acc c => (hexDigit? c).map (acc * 16 + ·)) init := by
    intro ds init
    simp only [List.foldlM_map, hexDigit?_asciiLowerChar]
  cases cs with
  | nil => rfl
  | cons c ds =>
    by_cases hc : c = '+'
    · subst hc
      cases ds with
      | nil => rfl
      | cons d ds =>
        simp only [byteOfHex?, List.map_cons, show asciiLowerChar '+' = '+' from rfl]
        rw [← List.map_cons, hdigits]
    · have hd : asciiLowerChar c ≠ '+' := mt (Text.asciiLowerChar_eq_iff (by decide)).1 hc
      simp [byteOfHex?, hc, hd, hdigits, hexDigit?_asciiLowerChar]

theorem ofHexPairs_map (ds : List Char) : ofHexPairs (ds.map asciiLowerChar) = ofHexPairs ds := by
  simp only [ofHexPairs, Text.sliceBytes_map Text.utf8Size_asciiLowerChar, bind_map_left,
    byteOfHex?_map]

theorem shortChannel_asciiLowerChar (c : Char) : shortChannel (asciiLowerChar c) = shortChannel c := by
  simp only [shortChannel, hexDigit?_asciiLowerChar]

theorem ofShortOrFullHex_map (cs : List Char) :
    ofShortOrFullHex (cs.map asciiLowerChar) = ofShortOrFullHex cs := by
  unfold ofShortOrFullHex
  rw [shortOrFullDigits?_map]
  cases shortOrFullDigits? cs with
  | none => rfl
  | some ds =>
    simp only [Option.map_some, Text.byteLength_map Text.utf8Size_asciiLowerChar]
    split_ifs
    · rcases ds with _ | ⟨x, _ | ⟨y, _ | ⟨z, _ | ⟨w, ds⟩⟩⟩⟩ <;>
        simp only [List.map_cons, List.map_nil, shortChannel_asciiLowerChar]
    · exact ofHexPairs_map ds

theorem ofAlphaHex_map (cs : List Char) : ofAlphaHex (cs.map asciiLowerChar) = ofAlphaHex cs := by
  unfold ofAlphaHex
  rw [alphaDigits?_map]
  cases alphaDigits? cs with
  | none => rfl
  | some ds =>
    simp only [Option.map_some, Text.sliceBytes_map Text.utf8Size_asciiLowerChar, bind_map_left,
      ofHexPairs_map]

theorem ofFunctional_map (cs : List Char) : ofFunctional (cs.map asciiLowerChar) = ofFunctional cs := by
  have hidem : asciiLowerChar ∘ asciiLowerChar = asciiLowerChar := funext Text.asciiLowerChar_idem
  simp only [ofFunctional, List.map_map, hidem]

theorem normalize_asciiLower (s : String) :
    normalize (some (.str (Text.asciiLower s))) = normalize (some (.str s)) := by
  simp only [normalize, Text.asciiLower, String.toList_ofList,
    Text.trimChars_map Text.isBlank_asciiLowerChar, ofShortOrFullHex_map, ofAlphaHex_map,
    ofFunctional_map]

theorem normalize_of_asciiLower_eq {s t : String} (h : Text.asciiLower s = Text.asciiLower t) :
    normalize (some (.str s)) = normalize (some (.str t)) := by
  rw [← normalize_asciiLower s, h, normalize_asciiLower]

theorem normalize_blank_around {w w' : String} (hw : Text.isBlankText w = true)
    (hw' : Text.isBlankText w' = true) (s : String) :
    normalize (some (.str (w ++ s ++ w'))) = normalize (some (.str s)) := by
  simp only [normalize, String.toList_append,
    Text.trimChars_blank_around (List.all_eq_true.1 hw) (List.all_eq_true.1 hw')]

/-! ## Every notation of a colour -/

/-- The notations of a byte colour all read as `Rgb.ofBytes r g b`: `#rrggbb` in either case,
`#rrggbbaa` whatever its alpha pair, `rgb(r, g, b)`, `rgba(r, g, b, a)` whatever its alpha
numeral, and an object of the three bytes once one exceeds one; `#xyz` reads as `#xxyyzz`;
and no text's colour depends on its ASCII case or on blanks around it. -/
theorem colour_notations_agree :
    (∀ (upper : Bool) (r g b : Nat), r < 256 → g < 256 → b < 256 →
      normalize (some (.str (hexNotation upper [r, g, b]))) = .ok (Rgb.ofBytes r g b) ∧
      (∀ a < 256,
        normalize (some (.str (hexNotation upper [r, g, b, a]))) = .ok (Rgb.ofBytes r g b)) ∧
      normalize (some (.str (rgbNotation r g b))) = .ok (Rgb.ofBytes r g b) ∧
      (∀ a : AlphaNumeral, a.WellFormed →
        normalize (some (.str (rgbaNotation r g b a))) = .ok (Rgb.ofBytes r g b)) ∧
      (∀ fields : List (String × Json), (Json.obj fields).get? "r" = some (.int r) →
        (Json.obj fields).get? "g" = some (.int g) → (Json.obj fields).get? "b" = some (.int b) →
        1 < max r (max g b) → normalize (some (.obj fields)) = .ok (Rgb.ofBytes r g b))) ∧
    (∀ x y z : Char, x ∈ hexDigitChars → y ∈ hexDigitChars → z ∈ hexDigitChars →
      normalize (some (.str (String.ofList ['#', x, y, z]))) =
        normalize (some (.str (String.ofList ['#', x, x, y, y, z, z])))) ∧
    (∀ s t : String, Text.asciiLower s = Text.asciiLower t →
      normalize (some (.str s)) = normalize (some (.str t))) ∧
    (∀ w s w' : String, Text.isBlankText w = true → Text.isBlankText w' = true →
      normalize (some (.str (w ++ s ++ w'))) = normalize (some (.str s))) := by
  refine ⟨?bytes, ?short, ?case, ?blanks⟩
  case bytes =>
    intro upper r g b hr hg hb
    exact ⟨normalize_hex_rgb upper hr hg hb, fun a ha => normalize_hex_rgba upper hr hg hb ha,
      normalize_rgb hr hg hb, fun a ha => normalize_rgba hr hg hb ha,
      fun fields hfr hfg hfb hmax => normalize_object hr hg hb hfr hfg hfb hmax⟩
  case short => exact fun x y z hx hy hz => normalize_short_hex hx hy hz
  case case => exact fun s t h => normalize_of_asciiLower_eq h
  case blanks => exact fun w s w' hw hw' => normalize_blank_around hw hw' s

/-- Teal written as `#008080` and as `rgb(0, 128, 128)` is one colour. -/
theorem teal_hex_and_functional_agree :
    normalize (some (.str (hexNotation true [0, 128, 128]))) =
      normalize (some (.str (rgbNotation 0 128 128))) := by
  obtain ⟨hbytes, -⟩ := colour_notations_agree
  obtain ⟨hhex, -, hrgb, -⟩ := hbytes true 0 128 128 (by decide) (by decide) (by decide)
  rw [hhex, hrgb]

end Color

end SceneScript
