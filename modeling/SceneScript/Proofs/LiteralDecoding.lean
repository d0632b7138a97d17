import Mathlib
import SceneScript.Proofs.NumberTokens
import SceneScript.Proofs.QuotedStrings

/-!
# Literals of a script decode exactly

A script embeds a string as a quoted JSON string and a value as pretty JSON text, and in both it
escapes the line and paragraph separators, which end a line of script but stand raw in JSON.
This module reads such text back with the library's JSON reader (`readValue`), taking its
numbers exactly (`readNumberExact`) and placing no bound on nesting: `parseExact`. Every escape
the writer produces is ASCII, so escaping the separators afterwards touches only raw characters
of strings, which the reader decodes back from their `\u` escapes.

Main statements: `readValue_pretty`, `readItems_pretty` and `readMembers_pretty`, one induction
over a value, its items and its members, and `parseExact_json`, the pretty text of any value a
JSON document can hold read back as that value.
-/

namespace SceneScript

namespace Json

open Script NumberToken

/-! ## Exact reading -/

/-- Reads a whole JSON text exactly: one value, its numbers by `readNumberExact`, with nesting
bounded only by the text's length, and nothing after it but blanks. -/
def parseExact (s : String) : Option Json :=
  let cs := s.toList
  match readValue readNumberExact (2 * cs.length + 2) (2 * cs.length + 2) cs with
  | some (v, rest) => if (skipSpace rest).isEmpty then some v else none
  | none => none

mutual
def numbersInRange : Json → Bool
  | num n => n.inRange
  | arr items => itemsInRange items
  | obj fields => fieldsInRange fields
  | _ => true

def itemsInRange : List Json → Bool
  | [] => true
  | v :: rest => numbersInRange v && itemsInRange rest

def fieldsInRange : List (String × Json) → Bool
  | [] => true
  | (_, v) :: rest => numbersInRange v && fieldsInRange rest
end

mutual
def readSize : Json → Nat
  | arr items => 1 + itemsReadSize items
  | obj fields => 1 + fieldsReadSize fields
  | _ => 1

def itemsReadSize : List Json → Nat
  | [] => 0
  | v :: rest => 1 + readSize v + itemsReadSize rest

def fieldsReadSize : List (String × Json) → Nat
  | [] => 0
  | (_, v) :: rest => 1 + readSize v + fieldsReadSize rest
end

theorem readSize_pos (v : Json) : 0 < readSize v := by
  cases v <;> simp [readSize]

/-! ## Escaped text -/

theorem toList_escapeSeparators_append (a b : String) :
    (escapeSeparators (a ++ b)).toList =
      (escapeSeparators a).toList ++ (escapeSeparators b).toList := by
  simp [escapeSeparators_eq, List.flatMap_append]

theorem toList_escapeSeparators_of_lt {t : String} (h : ∀ c ∈ t.toList, c.toNat < 0x2028) :
    (escapeSeparators t).toList = t.toList := by
  rw [escapeSeparators_eq, String.toList_ofList, flatMap_separatorEscape_of_lt h]

theorem toList_escapeSeparators_newline (level : Nat) :
    (escapeSeparators (newline level)).toList = '\n' :: List.replicate (2 * level) ' ' := by
  rw [toList_escapeSeparators_of_lt]
  · simp [newline]
  · intro c hc
    simp only [newline, String.toList_append, String.toList_ofList, List.mem_append,
      List.mem_replicate] at hc
    rcases hc with hc | ⟨-, rfl⟩
    · simp at hc; subst hc; decide
    · decide

theorem chars_lt {t : NumberToken} (ht : t.WellFormed) : ∀ c ∈ t.chars, c.toNat < 0x2028 := by
  have hdigit : ∀ c : Char, c.isDigit = true → c.toNat < 0x2028 := fun c h => by
    have h9 : '9'.toNat = 57 := rfl
    have := Char.isDigit_iff_toNat.1 h
    omega
  intro c hc
  simp only [chars, fractionChars, exponentChars, List.mem_append] at hc
  rcases hc with ((hs | hw) | hf) | he
  · split_ifs at hs <;> simp at hs; subst hs; decide
  · exact hdigit c (ht.whole_digits c hw)
  · split_ifs at hf
    · cases hf
    · rcases List.mem_cons.1 hf with rfl | hf
      · decide
      · exact hdigit c (ht.fraction_digits c hf)
  · cases hexp : t.exponent with
    | none => simp [hexp] at he
    | some p =>
        obtain ⟨neg, ds⟩ := p
        have hds := (ht.exponent_digits (neg, ds) hexp).2
        simp only [hexp, List.mem_cons] at he
        rcases he with rfl | rfl | hd
        · decide
        · cases neg <;> decide
        · exact hdigit c (hds c hd)

/-! ## Blanks -/

theorem skipSpace_blank_append {ws : List Char} (h : ∀ c ∈ ws, isSpace c = true)
    (cs : List Char) : skipSpace (ws ++ cs) = skipSpace cs := by
  unfold skipSpace
  rw [List.dropWhile_append_of_pos h]

theorem skipSpace_cons_of_not_space {c : Char} (h : isSpace c = false) (cs : List Char) :
    skipSpace (c :: cs) = c :: cs := by
  simp [skipSpace, h]

theorem readValue_blank_append (number : List Char → Option (JsonNumber × List Char))
    (fuel room : Nat) {ws : List Char} (h : ∀ c ∈ ws, isSpace c = true) (cs : List Char) :
    readValue number fuel room (ws ++ cs) = readValue number fuel room cs := by
  cases fuel with
  | zero => rfl
  | succ fuel => rw [readValue.eq_2, readValue.eq_2, skipSpace_blank_append h]

theorem readValue_space_cons (number : List Char → Option (JsonNumber × List Char))
    (fuel room : Nat) (cs : List Char) :
    readValue number fuel room (' ' :: cs) = readValue number fuel room cs :=
  readValue_blank_append number fuel room
    (show ∀ c ∈ [' '], isSpace c = true by simp [isSpace]) cs

theorem newline_blank (level : Nat) :
    ∀ c ∈ (escapeSeparators (newline level)).toList, isSpace c = true := by
  rw [toList_escapeSeparators_newline]
  intro c hc
  rcases List.mem_cons.1 hc with rfl | hc
  · rfl
  · rw [List.eq_of_mem_replicate hc]; rfl

/-! ## The reader on the first character of a value -/

theorem numberStart_facts {c : Char} (hc : c = '-' ∨ c.isDigit = true) :
    isSpace c = false ∧ c ≠ ']' ∧ c ≠ '\x7d' := by
  rcases hc with rfl | hd
  · decide
  · have hbounds := Char.isDigit_iff_toNat.1 hd
    refine ⟨?_, ?_, ?_⟩
    · simp only [isSpace, Bool.or_eq_false_iff, decide_eq_false_iff_not]
      refine ⟨⟨⟨?_, ?_⟩, ?_⟩, ?_⟩ <;> rintro rfl <;> simp at hbounds
    · rintro rfl
      simp at hbounds
    · rintro rfl
      simp at hbounds

section Reader

variable (number : List Char → Option (JsonNumber × List Char)) (fuel room : Nat)

theorem readValue_openArray {cs : List Char} (hroom : 1 < room)
    (hne : ∀ r, skipSpace cs ≠ ']' :: r) :
    readValue number (fuel + 1) room ('[' :: cs) = readItems number fuel (room - 1) cs [] := by
  rw [readValue.eq_2, skipSpace_cons_of_not_space rfl]
  simp only [if_neg (show ¬room ≤ 1 by omega)]

theorem readValue_openObject {cs : List Char} (hroom : 1 < room)
    (hne : ∀ r, skipSpace cs ≠ '\x7d' :: r) :
    readValue number (fuel + 1) room ('\x7b' :: cs) = readMembers number fuel (room - 1) cs [] := by
  rw [readValue.eq_2, skipSpace_cons_of_not_space rfl]
  simp only [if_neg (show ¬room ≤ 1 by omega)]

theorem readValue_numberStart {c : Char} (hc : c = '-' ∨ c.isDigit = true) (cs : List Char) :
    readValue number (fuel + 1) room (c :: cs) =
      (number (c :: cs)).map fun r => (num r.1, r.2) := by
  rw [readValue.eq_2, skipSpace_cons_of_not_space (numberStart_facts hc).1]
  split <;> first
    | rfl
    | (rename_i h; simp only [List.cons.injEq] at h; obtain ⟨rfl, -⟩ := h; exact absurd hc (by decide))

end Reader

/-! ## Pretty text, escaped

The writer's text of each kind of value, as the characters the reader meets: every piece the
writer adds itself is ASCII and is kept by the escaping, and a string becomes a string literal of
the script.
-/

section PrettyText

variable (level : Nat)

theorem pretty_null :
    (escapeSeparators (renderPrettyAt level null)).toList = ['n', 'u', 'l', 'l'] := by
  rw [show renderPrettyAt level null = "null" by simp [renderPrettyAt, render],
    toList_escapeSeparators_of_lt (by simp)]
  rfl

theorem pretty_true :
    (escapeSeparators (renderPrettyAt level (bool true))).toList = ['t', 'r', 'u', 'e'] := by
  rw [show renderPrettyAt level (bool true) = "true" by simp [renderPrettyAt, render],
    toList_escapeSeparators_of_lt (by simp)]
  rfl

theorem pretty_false :
    (escapeSeparators (renderPrettyAt level (bool false))).toList = ['f', 'a', 'l', 's', 'e'] := by
  rw [show renderPrettyAt level (bool false) = "false" by simp [renderPrettyAt, render],
    toList_escapeSeparators_of_lt (by simp)]
  rfl

theorem pretty_str (s : String) :
    (escapeSeparators (renderPrettyAt level (str s))).toList = (Script.str s).toList := by
  simp [renderPrettyAt, render, Script.str]

theorem pretty_num_token {n : JsonNumber} (hn : n.inRange = true) :
    ∃ t : NumberToken, t.WellFormed ∧
      (escapeSeparators (renderPrettyAt level (num n))).toList = t.chars ∧ t.value = n := by
  obtain ⟨t, ht, hchars, hval⟩ := numberText_token hn
  refine ⟨t, ht, ?_, hval⟩
  have hrender : renderPrettyAt level (num n) = numberText n := by simp [renderPrettyAt, render]
  rw [hrender, toList_escapeSeparators_of_lt (hchars ▸ chars_lt ht), hchars]

theorem pretty_arr_nil : (escapeSeparators (renderPrettyAt level (arr []))).toList = ['[', ']'] := by
  rw [show renderPrettyAt level (arr []) = "[]" by simp [renderPrettyAt],
    toList_escapeSeparators_of_lt (by simp)]
  rfl

theorem pretty_obj_nil :
    (escapeSeparators (renderPrettyAt level (obj []))).toList = ['\x7b', '\x7d'] := by
  rw [show renderPrettyAt level (obj []) = "\x7b\x7d" by simp [renderPrettyAt],
    toList_escapeSeparators_of_lt (by simp)]
  rfl

theorem pretty_arr_cons (x : Json) (xs : List Json) :
    (escapeSeparators (renderPrettyAt level (arr (x :: xs)))).toList =
      '[' :: ((escapeSeparators (prettyItems (level + 1) (x :: xs))).toList ++
        (escapeSeparators (newline level)).toList ++ [']']) := by
  rw [renderPrettyAt.eq_3 _ _ (by simp), toList_escapeSeparators_append,
    toList_escapeSeparators_append, toList_escapeSeparators_append,
    toList_escapeSeparators_of_lt (t := "[") (by simp),
    toList_escapeSeparators_of_lt (t := "]") (by simp)]
  simp

theorem pretty_obj_cons (f : String × Json) (fs : List (String × Json)) :
    (escapeSeparators (renderPrettyAt level (obj (f :: fs)))).toList =
      '\x7b' :: ((escapeSeparators (prettyFields (level + 1) (f :: fs))).toList ++
        (escapeSeparators (newline level)).toList ++ ['\x7d']) := by
  rw [renderPrettyAt.eq_4 _ _ (by simp), toList_escapeSeparators_append,
    toList_escapeSeparators_append, toList_escapeSeparators_append,
    toList_escapeSeparators_of_lt (t := "\x7b") (by simp),
    toList_escapeSeparators_of_lt (t := "\x7d") (by simp)]
  simp

theorem prettyItems_single (x : Json) :
    (escapeSeparators (prettyItems level [x])).toList =
      (escapeSeparators (newline level)).toList ++
        (escapeSeparators (renderPrettyAt level x)).toList := by
  rw [prettyItems.eq_2, toList_escapeSeparators_append]

theorem prettyItems_cons_cons (x y : Json) (ys : List Json) :
    (escapeSeparators (prettyItems level (x :: y :: ys))).toList =
      (escapeSeparators (newline level)).toList ++
        ((escapeSeparators (renderPrettyAt level x)).toList ++
          ',' :: (escapeSeparators (prettyItems level (y :: ys))).toList) := by
  rw [prettyItems.eq_3 _ _ _ (by simp), toList_escapeSeparators_append,
    toList_escapeSeparators_append, toList_escapeSeparators_append,
    toList_escapeSeparators_of_lt (t := ",") (by simp)]
  simp

theorem toList_escapeSeparators_member (k : String) (x : Json) :
    (escapeSeparators (newline level ++ quote k ++ ": " ++ renderPrettyAt level x)).toList =
      (escapeSeparators (newline level)).toList ++ '"' ::
        ((k.toList.flatMap escapeChar).flatMap separatorEscape ++
          '"' :: ':' :: ' ' :: (escapeSeparators (renderPrettyAt level x)).toList) := by
  rw [toList_escapeSeparators_append, toList_escapeSeparators_append,
    toList_escapeSeparators_append, toList_escapeSeparators_of_lt (t := ": ") (by simp)]
  have hquote : (escapeSeparators (quote k)).toList = (Script.str k).toList := rfl
  rw [hquote, str_toList]
  simp

theorem prettyFields_single (k : String) (x : Json) :
    (escapeSeparators (prettyFields level [(k, x)])).toList =
      (escapeSeparators (newline level)).toList ++ '"' ::
        ((k.toList.flatMap escapeChar).flatMap separatorEscape ++
          '"' :: ':' :: ' ' :: (escapeSeparators (renderPrettyAt level x)).toList) := by
  rw [prettyFields.eq_2, toList_escapeSeparators_member]

theorem prettyFields_cons_cons (k : String) (x : Json) (f : String × Json)
    (fs : List (String × Json)) :
    (escapeSeparators (prettyFields level ((k, x) :: f :: fs))).toList =
      (escapeSeparators (newline level)).toList ++ '"' ::
        ((k.toList.flatMap escapeChar).flatMap separatorEscape ++
          '"' :: ':' :: ' ' :: ((escapeSeparators (renderPrettyAt level x)).toList ++
            ',' :: (escapeSeparators (prettyFields level (f :: fs))).toList)) := by
  rw [prettyFields.eq_3 _ _ _ _ (by simp), toList_escapeSeparators_append,
    toList_escapeSeparators_append, toList_escapeSeparators_member,
    toList_escapeSeparators_of_lt (t := ",") (by simp)]
  simp

theorem prettyItems_cons_text (x : Json) (xs : List Json) :
    ∃ T, (escapeSeparators (prettyItems level (x :: xs))).toList =
      (escapeSeparators (newline level)).toList ++
        ((escapeSeparators (renderPrettyAt level x)).toList ++ T) := by
  cases xs with
  | nil => exact ⟨[], by rw [prettyItems_single, List.append_nil]⟩
  | cons y ys => exact ⟨_, prettyItems_cons_cons level x y ys⟩

theorem prettyFields_cons_text (k : String) (x : Json) (fs : List (String × Json)) :
    ∃ T, (escapeSeparators (prettyFields level ((k, x) :: fs))).toList =
      (escapeSeparators (newline level)).toList ++ '"' :: T := by
  cases fs with
  | nil => exact ⟨_, prettyFields_single level k x⟩
  | cons f fs => exact ⟨_, prettyFields_cons_cons level k x f fs⟩

end PrettyText

/-! ## Scalars -/

theorem chars_head {t : NumberToken} (ht : t.WellFormed) :
    ∃ c cs, t.chars = c :: cs ∧ (c = '-' ∨ c.isDigit = true) := by
  obtain ⟨d, w, hw⟩ := List.exists_cons_of_ne_nil ht.whole_ne_nil
  have hd : d.isDigit = true := ht.whole_digits d (hw ▸ List.mem_cons_self)
  cases hneg : t.negative with
  | true =>
      exact ⟨'-', t.whole ++ fractionChars t.fraction ++ exponentChars t.exponent,
        by simp [chars, hneg], .inl rfl⟩
  | false =>
      exact ⟨d, w ++ fractionChars t.fraction ++ exponentChars t.exponent,
        by simp [chars, hneg, hw], .inr hd⟩

theorem readValue_pretty_num (level fuel room : Nat) {n : JsonNumber} (hn : n.inRange = true)
    {rest : List Char} (hrest : StopsNumber rest) :
    readValue readNumberExact (fuel + 1) room
      ((escapeSeparators (renderPrettyAt level (num n))).toList ++ rest) = some (num n, rest) := by
  obtain ⟨t, ht, htext, hval⟩ := pretty_num_token level hn
  obtain ⟨c, cs, hcs, hc⟩ := chars_head ht
  have hread : readNumberExact (t.chars ++ rest) = some (n, rest) := by
    simp [readNumberExact, readNumberToken_chars ht hrest, hval]
  rw [htext, hcs, List.cons_append, readValue_numberStart _ _ _ hc, ← List.cons_append, ← hcs,
    hread]
  rfl

theorem readValue_pretty_str (level fuel room : Nat) (s : String) (rest : List Char) :
    readValue readNumberExact (fuel + 1) room
      ((escapeSeparators (renderPrettyAt level (str s))).toList ++ rest) = some (str s, rest) := by
  have hbody := readStringBody_quoted s.toList rest []
  simp only [List.reverse_nil, List.nil_append, String.ofList_toList] at hbody
  rw [pretty_str, str_toList, readValue.eq_2, List.cons_append, skipSpace_cons_of_not_space rfl]
  simp [hbody]

theorem head_pretty (level : Nat) (v : Json) (hv : numbersInRange v = true) :
    ∃ c cs, (escapeSeparators (renderPrettyAt level v)).toList = c :: cs ∧
      isSpace c = false ∧ c ≠ ']' ∧ c ≠ '\x7d' := by
  cases v with
  | null => exact ⟨'n', _, pretty_null level, rfl, by decide, by decide⟩
  | bool b =>
      cases b with
      | true => exact ⟨'t', _, pretty_true level, rfl, by decide, by decide⟩
      | false => exact ⟨'f', _, pretty_false level, rfl, by decide, by decide⟩
  | num n =>
      obtain ⟨t, ht, htext, -⟩ := pretty_num_token level hv
      obtain ⟨c, cs, hcs, hc⟩ := chars_head ht
      exact ⟨c, cs, htext.trans hcs, numberStart_facts hc⟩
  | str s => exact ⟨'"', _, by rw [pretty_str, str_toList], rfl, by decide, by decide⟩
  | arr items =>
      cases items with
      | nil => exact ⟨'[', _, pretty_arr_nil level, rfl, by decide, by decide⟩
      | cons x xs => exact ⟨'[', _, pretty_arr_cons level x xs, rfl, by decide, by decide⟩
  | obj fields =>
      cases fields with
      | nil => exact ⟨'\x7b', _, pretty_obj_nil level, rfl, by decide, by decide⟩
      | cons f fs => exact ⟨'\x7b', _, pretty_obj_cons level f fs, rfl, by decide, by decide⟩

/-! ## Containers -/

theorem stopsNumber_blank_close {ws : List Char} (h : ∀ c ∈ ws, isSpace c = true) {close : Char}
    (hclose : close = ']' ∨ close = '\x7d') (rest : List Char) :
    StopsNumber (ws ++ close :: rest) := by
  intro c hc
  cases ws with
  | nil =>
      obtain rfl : close = c := by simpa using hc
      rcases hclose with rfl | rfl <;> decide
  | cons w ws =>
      obtain rfl : w = c := by simpa using hc
      have hw := h w List.mem_cons_self
      simp only [isSpace, Bool.or_eq_true, decide_eq_true_eq] at hw
      rcases hw with ((rfl | rfl) | rfl) | rfl <;> decide

theorem stopsNumber_comma (rest : List Char) : StopsNumber (',' :: rest) := by
  intro c hc
  obtain rfl : ',' = c := by simpa using hc
  decide

mutual

theorem readValue_pretty (level : Nat) :
    ∀ (v : Json) (fuel room : Nat) (rest : List Char), numbersInRange v = true →
      readSize v ≤ fuel → readSize v < room → StopsNumber rest →
      readValue readNumberExact fuel room
        ((escapeSeparators (renderPrettyAt level v)).toList ++ rest) = some (v, rest)
  | v, 0, _, _, _, hf, _, _ => absurd hf (by have := readSize_pos v; omega)
  | .null, fuel + 1, room, rest, _, _, _, _ => by rw [pretty_null]; rfl
  | .bool true, fuel + 1, room, rest, _, _, _, _ => by rw [pretty_true]; rfl
  | .bool false, fuel + 1, room, rest, _, _, _, _ => by rw [pretty_false]; rfl
  | .num n, fuel + 1, room, rest, hv, _, _, hrest => readValue_pretty_num level fuel room hv hrest
  | .str s, fuel + 1, room, rest, _, _, _, _ => readValue_pretty_str level fuel room s rest
  | .arr [], fuel + 1, room, rest, _, _, hr, _ => by
      simp only [readSize, itemsReadSize] at hr
      rw [pretty_arr_nil]
      simp [readValue, skipSpace, isSpace, show ¬room ≤ 1 by omega]
  | .arr (x :: xs), fuel + 1, room, rest, hv, hf, hr, hrest => by
      have hsize : readSize (arr (x :: xs)) = 1 + itemsReadSize (x :: xs) := rfl
      have hvx : numbersInRange x = true := by
        simp only [numbersInRange, itemsInRange, Bool.and_eq_true] at hv
        exact hv.1
      obtain ⟨c, cs, hx, hspace, hclose, -⟩ := head_pretty (level + 1) x hvx
      have hitems := readItems_pretty (level + 1) (x :: xs) fuel (room - 1)
        (escapeSeparators (newline level)).toList rest [] (by simp) hv (by omega) (by omega)
        (newline_blank level)
      rw [pretty_arr_cons, List.cons_append, readValue_openArray _ _ _ (by omega)]
      · simpa using hitems
      · obtain ⟨T, hT⟩ := prettyItems_cons_text (level + 1) x xs
        intro r
        simp only [hT, hx, List.append_assoc, List.cons_append]
        rw [skipSpace_blank_append (newline_blank _), skipSpace_cons_of_not_space hspace]
        intro h
        exact hclose (List.cons.inj h).1
  | .obj [], fuel + 1, room, rest, _, _, hr, _ => by
      simp only [readSize, fieldsReadSize] at hr
      rw [pretty_obj_nil]
      simp [readValue, skipSpace, isSpace, show ¬room ≤ 1 by omega]
  | .obj ((k, x) :: fs), fuel + 1, room, rest, hv, hf, hr, hrest => by
      have hsize : readSize (obj ((k, x) :: fs)) = 1 + fieldsReadSize ((k, x) :: fs) := rfl
      have hfields := readMembers_pretty (level + 1) ((k, x) :: fs) fuel (room - 1)
        (escapeSeparators (newline level)).toList rest [] (by simp) hv (by omega) (by omega)
        (newline_blank level)
      rw [pretty_obj_cons, List.cons_append, readValue_openObject _ _ _ (by omega)]
      · simpa using hfields
      · obtain ⟨T, hT⟩ := prettyFields_cons_text (level + 1) k x fs
        intro r
        simp only [hT, List.append_assoc, List.cons_append]
        rw [skipSpace_blank_append (newline_blank _), skipSpace_cons_of_not_space rfl]
        intro h
        exact absurd (List.cons.inj h).1 (by decide)

theorem readItems_pretty (level : Nat) :
    ∀ (items : List Json) (fuel room : Nat) (ws rest : List Char) (acc : List Json),
      items ≠ [] → itemsInRange items = true → itemsReadSize items ≤ fuel →
      itemsReadSize items < room → (∀ c ∈ ws, isSpace c = true) →
      readItems readNumberExact fuel room
        ((escapeSeparators (prettyItems level items)).toList ++ ws ++ ']' :: rest) acc =
        some (arr (acc.reverse ++ items), rest)
  | [], _, _, _, _, _, hne, _, _, _, _ => absurd rfl hne
  | x :: xs, 0, _, _, _, _, _, _, hf, _, _ => by
      have : itemsReadSize (x :: xs) = 1 + readSize x + itemsReadSize xs := rfl
      omega
  | [x], fuel + 1, room, ws, rest, acc, _, hv, hf, hr, hws => by
      have hsize : itemsReadSize [x] = 1 + readSize x + itemsReadSize [] := rfl
      have hvx : numbersInRange x = true := by simpa [itemsInRange] using hv
      have hx := readValue_pretty level x fuel room (ws ++ ']' :: rest) hvx (by omega) (by omega)
        (stopsNumber_blank_close hws (.inl rfl) rest)
      rw [prettyItems_single, List.append_assoc, List.append_assoc, readItems.eq_2,
        readValue_blank_append _ _ _ (newline_blank level), hx]
      simp [skipSpace_blank_append hws, skipSpace_cons_of_not_space (c := ']') rfl]
  | x :: y :: ys, fuel + 1, room, ws, rest, acc, _, hv, hf, hr, hws => by
      have hsize : itemsReadSize (x :: y :: ys) = 1 + readSize x + itemsReadSize (y :: ys) := rfl
      simp only [itemsInRange, Bool.and_eq_true] at hv
      have hx := readValue_pretty level x fuel room
        (',' :: ((escapeSeparators (prettyItems level (y :: ys))).toList ++ (ws ++ ']' :: rest)))
        hv.1 (by omega) (by omega) (stopsNumber_comma _)
      have hys := readItems_pretty level (y :: ys) fuel room ws rest (x :: acc) (by simp)
        (by simpa [itemsInRange] using hv.2) (by omega) (by omega) hws
      rw [prettyItems_cons_cons]
      simp only [List.append_assoc, List.cons_append]
      rw [readItems.eq_2, readValue_blank_append _ _ _ (newline_blank level), hx]
      simp only [skipSpace_cons_of_not_space (c := ',') rfl]
      rw [← List.append_assoc, hys]
      simp

theorem readMembers_pretty (level : Nat) :
    ∀ (fields : List (String × Json)) (fuel room : Nat) (ws rest : List Char)
      (acc : List (String × Json)),
      fields ≠ [] → fieldsInRange fields = true → fieldsReadSize fields ≤ fuel →
      fieldsReadSize fields < room → (∀ c ∈ ws, isSpace c = true) →
      readMembers readNumberExact fuel room
        ((escapeSeparators (prettyFields level fields)).toList ++ ws ++ '\x7d' :: rest) acc =
        some (obj (acc.reverse ++ fields), rest)
  | [], _, _, _, _, _, hne, _, _, _, _ => absurd rfl hne
  | (k, x) :: fs, 0, _, _, _, _, _, _, hf, _, _ => by
      have : fieldsReadSize ((k, x) :: fs) = 1 + readSize x + fieldsReadSize fs := rfl
      omega
  | [(k, x)], fuel + 1, room, ws, rest, acc, _, hv, hf, hr, hws => by
      have hsize : fieldsReadSize [(k, x)] = 1 + readSize x + fieldsReadSize [] := rfl
      have hvx : numbersInRange x = true := by simpa [fieldsInRange] using hv
      have hx := readValue_pretty level x fuel room (ws ++ '\x7d' :: rest) hvx (by omega)
        (by omega) (stopsNumber_blank_close hws (.inr rfl) rest)
      have hkey := readStringBody_quoted k.toList
        (':' :: ' ' :: ((escapeSeparators (renderPrettyAt level x)).toList ++ (ws ++ '\x7d' :: rest)))
        []
      simp only [List.reverse_nil, List.nil_append, String.ofList_toList] at hkey
      rw [prettyFields_single, readMembers.eq_2]
      simp only [List.append_assoc, List.cons_append]
      rw [skipSpace_blank_append (newline_blank level), skipSpace_cons_of_not_space rfl]
      simp only [hkey, skipSpace_cons_of_not_space (c := ':') rfl, readValue_space_cons, hx]
      simp [skipSpace_blank_append hws, skipSpace_cons_of_not_space (c := '\x7d') rfl]
  | (k, x) :: f :: fs, fuel + 1, room, ws, rest, acc, _, hv, hf, hr, hws => by
      have hsize : fieldsReadSize ((k, x) :: f :: fs) =
          1 + readSize x + fieldsReadSize (f :: fs) := rfl
      simp only [fieldsInRange, Bool.and_eq_true] at hv
      have hx := readValue_pretty level x fuel room
        (',' :: ((escapeSeparators (prettyFields level (f :: fs))).toList ++ (ws ++ '\x7d' :: rest)))
        hv.1 (by omega) (by omega) (stopsNumber_comma _)
      have hfs := readMembers_pretty level (f :: fs) fuel room ws rest ((k, x) :: acc) (by simp)
        (by simpa [fieldsInRange] using hv.2) (by omega) (by omega) hws
      have hkey := readStringBody_quoted k.toList
        (':' :: ' ' :: ((escapeSeparators (renderPrettyAt level x)).toList ++
          ',' :: ((escapeSeparators (prettyFields level (f :: fs))).toList ++
            (ws ++ '\x7d' :: rest)))) []
      simp only [List.reverse_nil, List.nil_append, String.ofList_toList] at hkey
      rw [prettyFields_cons_cons, readMembers.eq_2]
      simp only [List.append_assoc, List.cons_append]
      rw [skipSpace_blank_append (newline_blank level), skipSpace_cons_of_not_space rfl]
      simp only [hkey, skipSpace_cons_of_not_space (c := ':') rfl, readValue_space_cons, hx,
        skipSpace_cons_of_not_space (c := ',') rfl]
      rw [← List.append_assoc, hfs]
      simp

end

/-! ## Whole texts -/

theorem readSize_le_length_of_eq_one (level : Nat) {v : Json} (hv : numbersInRange v = true)
    (h : readSize v = 1) : readSize v ≤ (escapeSeparators (renderPrettyAt level v)).toList.length := by
  obtain ⟨c, cs, htext, -⟩ := head_pretty level v hv
  rw [htext, h, List.length_cons]
  omega

mutual

theorem readSize_le_length (level : Nat) :
    ∀ v : Json, numbersInRange v = true →
      readSize v ≤ (escapeSeparators (renderPrettyAt level v)).toList.length
  | .arr (x :: xs), hv => by
      have hitems := itemsReadSize_le_length (level + 1) (x :: xs) hv
      have hsize : readSize (arr (x :: xs)) = 1 + itemsReadSize (x :: xs) := rfl
      rw [pretty_arr_cons]
      simp only [List.length_cons, List.length_append]
      omega
  | .obj ((k, x) :: fs), hv => by
      have hfields := fieldsReadSize_le_length (level + 1) ((k, x) :: fs) hv
      have hsize : readSize (obj ((k, x) :: fs)) = 1 + fieldsReadSize ((k, x) :: fs) := rfl
      rw [pretty_obj_cons]
      simp only [List.length_cons, List.length_append]
      omega
  | .arr [], hv => readSize_le_length_of_eq_one level hv rfl
  | .obj [], hv => readSize_le_length_of_eq_one level hv rfl
  | .null, hv => readSize_le_length_of_eq_one level hv rfl
  | .bool _, hv => readSize_le_length_of_eq_one level hv rfl
  | .num _, hv => readSize_le_length_of_eq_one level hv rfl
  | .str _, hv => readSize_le_length_of_eq_one level hv rfl

theorem itemsReadSize_le_length (level : Nat) :
    ∀ items : List Json, itemsInRange items = true →
      itemsReadSize items ≤ (escapeSeparators (prettyItems level items)).toList.length
  | [], _ => Nat.zero_le _
  | [x], hv => by
      have hx := readSize_le_length level x (by simpa [itemsInRange] using hv)
      have hsize : itemsReadSize [x] = 1 + readSize x + itemsReadSize [] := rfl
      rw [prettyItems_single, toList_escapeSeparators_newline]
      simp only [List.length_append, List.length_cons, itemsReadSize] at hsize ⊢
      omega
  | x :: y :: ys, hv => by
      simp only [itemsInRange, Bool.and_eq_true] at hv
      have hx := readSize_le_length level x hv.1
      have hys := itemsReadSize_le_length level (y :: ys) (by simpa [itemsInRange] using hv.2)
      have hsize : itemsReadSize (x :: y :: ys) = 1 + readSize x + itemsReadSize (y :: ys) := rfl
      rw [prettyItems_cons_cons, toList_escapeSeparators_newline]
      simp only [List.length_append, List.length_cons]
      omega

theorem fieldsReadSize_le_length (level : Nat) :
    ∀ fields : List (String × Json), fieldsInRange fields = true →
      fieldsReadSize fields ≤ (escapeSeparators (prettyFields level fields)).toList.length
  | [], _ => Nat.zero_le _
  | [(k, x)], hv => by
      have hx := readSize_le_length level x (by simpa [fieldsInRange] using hv)
      have hsize : fieldsReadSize [(k, x)] = 1 + readSize x + fieldsReadSize [] := rfl
      rw [prettyFields_single, toList_escapeSeparators_newline]
      simp only [List.length_append, List.length_cons, fieldsReadSize] at hsize ⊢
      omega
  | (k, x) :: f :: fs, hv => by
      simp only [fieldsInRange, Bool.and_eq_true] at hv
      have hx := readSize_le_length level x hv.1
      have hfs := fieldsReadSize_le_length level (f :: fs) (by simpa [fieldsInRange] using hv.2)
      have hsize : fieldsReadSize ((k, x) :: f :: fs) =
          1 + readSize x + fieldsReadSize (f :: fs) := rfl
      rw [prettyFields_cons_cons, toList_escapeSeparators_newline]
      simp only [List.length_append, List.length_cons]
      omega

end

theorem parseExact_escaped_pretty (v : Json) (hv : numbersInRange v = true) :
    parseExact (escapeSeparators (renderPretty v)) = some v := by
  have hlen := readSize_le_length 0 v hv
  have hread := readValue_pretty 0 v
    (2 * (escapeSeparators (renderPrettyAt 0 v)).toList.length + 2)
    (2 * (escapeSeparators (renderPrettyAt 0 v)).toList.length + 2) [] hv (by omega) (by omega)
    (fun _ hc => by cases hc)
  rw [List.append_nil] at hread
  simp [parseExact, renderPretty, hread, skipSpace]

end Json

namespace Script

/-! ## Literals of a script -/

theorem mem_str {s : String} {c : Char} (hc : c ∈ (str s).toList) :
    0x20 ≤ c.toNat ∧ c ≠ lineSeparator ∧ c ≠ paragraphSeparator := by
  have hbreak := isNotStrayBreak_of_isNotLineBreak (oneLine_str s c hc)
  have hcontrol : isNotControl c = true := by
    rcases mem_escapeSeparators hc with hp | ⟨hq, -, -⟩
    · exact isNotControl_of_isPrintable hp
    · exact Json.within_quote s c hq
  simp only [isNotStrayBreak, Bool.not_eq_true', Bool.or_eq_false_iff, beq_eq_false_iff_ne]
    at hbreak
  simp only [isNotControl, decide_eq_true_eq] at hcontrol
  exact ⟨hcontrol, hbreak.1.2, hbreak.2⟩

theorem mem_json {v : Json} {t : String} (h : json v = .ok t) {c : Char} (hc : c ∈ t.toList) :
    c ≠ lineSeparator ∧ c ≠ paragraphSeparator := by
  have hbreak := lineFeedOnly_json h c hc
  simp only [isNotStrayBreak, Bool.not_eq_true', Bool.or_eq_false_iff, beq_eq_false_iff_ne]
    at hbreak
  exact ⟨hbreak.1.2, hbreak.2⟩

/-- A string literal of a script is a JSON string literal of exactly its string: it starts and
ends with a quote, its body reads back as the string with nothing after the closing quote, the
JSON reader reads it as that string, and it holds no control character and neither separator.
The JSON text of any value a JSON document can hold is read back exactly as the value, numbers
rounded correctly, and holds neither separator. -/
theorem literals_decode_exactly :
    (∀ s : String,
      (str s).toList.head? = some '"' ∧ (str s).toList.getLast? = some '"' ∧
      Json.readStringBody (str s).toList.tail [] = some (s, []) ∧
      Json.parse (str s) = some (.str s) ∧
      ∀ c ∈ (str s).toList, 0x20 ≤ c.toNat ∧ c ≠ lineSeparator ∧ c ≠ paragraphSeparator) ∧
    (∀ v : Json, v.numbersInRange = true →
      ∃ t, json v = .ok t ∧ Json.parseExact t = some v ∧
        ∀ c ∈ t.toList, c ≠ lineSeparator ∧ c ≠ paragraphSeparator) := by
  refine ⟨fun s => ⟨?_, ?_, ?_, Json.parse_str s, fun c hc => mem_str hc⟩,
    fun v hv => ⟨_, rfl, Json.parseExact_escaped_pretty v hv, fun c hc => mem_json rfl hc⟩⟩
  · rw [Json.str_toList]
    rfl
  · rw [Json.str_toList, ← List.cons_append, List.getLast?_concat]
  · have hbody := Json.readStringBody_quoted s.toList [] []
    simp only [List.reverse_nil, List.nil_append, String.ofList_toList] at hbody
    rw [Json.str_toList, List.tail_cons, hbody]

/-- The JSON text of an array of a negative integer and a string holding a line separator
reads back exactly. -/
theorem separator_array_decodes :
    ∃ t, json (.arr [.num (.int (-7)), .str "a\u2028b"]) = .ok t ∧
      Json.parseExact t = some (.arr [.num (.int (-7)), .str "a\u2028b"]) ∧
      ∀ c ∈ t.toList, c ≠ lineSeparator ∧ c ≠ paragraphSeparator :=
  literals_decode_exactly.2 _ (by decide +kernel)

end Script

end SceneScript
