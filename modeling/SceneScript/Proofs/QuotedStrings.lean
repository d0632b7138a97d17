import Mathlib
import SceneScript.Proofs.LineFeeds

/-!
# Reading quoted strings back

A quoted string reads back as the string it quotes. Every escape the writer produces is one the
reader decodes to the character it came from, and the six-character escapes that script text
puts in place of the line and paragraph separators read as those separators. Every escape is
ASCII, so replacing the raw separators afterwards never reaches into an escape: the text escaped
twice still reads back one character at a time.

Main statements: `readStringBody_quoted`, the body of a quoted string followed by any text, and
`parse_str`, a string literal of a script read as a whole JSON text.
-/

namespace SceneScript

namespace Script

def separatorEscape (c : Char) : List Char :=
  if c = lineSeparator then "\\u2028".toList
  else if c = paragraphSeparator then "\\u2029".toList
  else [c]

theorem escapeSeparators_eq (s : String) :
    escapeSeparators s = String.ofList (s.toList.flatMap separatorEscape) := rfl

theorem separatorEscape_of_lt {c : Char} (h : c.toNat < 0x2028) : separatorEscape c = [c] := by
  have hls : c ≠ lineSeparator := by
    rintro rfl
    exact absurd h (by decide)
  have hps : c ≠ paragraphSeparator := by
    rintro rfl
    exact absurd h (by decide)
  simp [separatorEscape, hls, hps]

theorem flatMap_separatorEscape_of_lt {l : List Char} (h : ∀ c ∈ l, c.toNat < 0x2028) :
    l.flatMap separatorEscape = l := by
  induction l with
  | nil => rfl
  | cons c l ih =>
      rw [List.flatMap_cons, separatorEscape_of_lt (h c List.mem_cons_self),
        ih fun d hd => h d (List.mem_cons_of_mem c hd)]
      rfl

end Script

namespace Json

open Script

theorem hexValue_hexDigit {n : Nat} (h : n < 16) : hexValue? (hexDigit n) = some n := by
  interval_cases n <;> rfl

theorem hexDigit_lt {n : Nat} (h : n < 16) : (hexDigit n).toNat < 0x2028 := by
  interval_cases n <;> decide

theorem hex4_lowByte {n : Nat} (h : n < 256) :
    hex4? '0' '0' (hexDigit (n / 16)) (hexDigit (n % 16)) = some n := by
  have hhi := hexValue_hexDigit (show n / 16 < 16 by omega)
  have hlo := hexValue_hexDigit (show n % 16 < 16 by omega)
  simp only [hex4?, hhi, hlo]
  have hzero : hexValue? '0' = some 0 := rfl
  simp only [hzero, Option.bind_eq_bind, Option.bind_some, Option.pure_def, Option.some.injEq]
  omega

theorem readStringBody_raw {c : Char} (hq : c ≠ '"') (hb : c ≠ '\\') (hc : 32 ≤ c.toNat)
    (rest acc : List Char) : readStringBody (c :: rest) acc = readStringBody rest (c :: acc) := by
  rw [readStringBody.eq_5 _ _ _ hq (fun _ _ _ _ _ e => absurd e hb) (fun _ _ e => absurd e hb),
    if_neg (by omega)]

theorem readStringBody_escapeChar (c : Char) (rest acc : List Char) :
    readStringBody ((escapeChar c).flatMap separatorEscape ++ rest) acc =
      readStringBody rest (c :: acc) := by
  unfold escapeChar
  split_ifs with h1 h2 h3 h4 h5 h6 h7 h8
  · subst h1; rfl
  · subst h2; rfl
  · subst h3; rfl
  · subst h4; rfl
  · subst h5; rfl
  · obtain rfl : c = Char.ofNat 8 := by rw [← h6, Char.ofNat_toNat]
    rfl
  · obtain rfl : c = Char.ofNat 12 := by rw [← h7, Char.ofNat_toNat]
    rfl
  · have hhi := hexDigit_lt (show c.toNat / 16 < 16 by omega)
    have hlo := hexDigit_lt (show c.toNat % 16 < 16 by omega)
    rw [flatMap_separatorEscape_of_lt (by simp [or_imp, forall_and]; omega)]
    simp only [List.cons_append, List.nil_append]
    rw [readStringBody.eq_3, hex4_lowByte (by omega)]
    have hhigh : isHighSurrogate c.toNat = false := by simp [isHighSurrogate]; omega
    have hlow : isLowSurrogate c.toNat = false := by simp [isLowSurrogate]; omega
    simp only [hhigh, hlow, Bool.false_eq_true, if_false, Char.ofNat_toNat]
  · simp only [List.flatMap_cons, List.flatMap_nil, List.append_nil]
    by_cases hls : c = lineSeparator
    · subst hls
      rw [show separatorEscape lineSeparator = ['\\', 'u', '2', '0', '2', '8'] by decide]
      simp only [List.cons_append, List.nil_append]
      rw [readStringBody.eq_3, show hex4? '2' '0' '2' '8' = some 0x2028 from rfl]
      rfl
    by_cases hps : c = paragraphSeparator
    · subst hps
      rw [show separatorEscape paragraphSeparator = ['\\', 'u', '2', '0', '2', '9'] by decide]
      simp only [List.cons_append, List.nil_append]
      rw [readStringBody.eq_3, show hex4? '2' '0' '2' '9' = some 0x2029 from rfl]
      rfl
    simp only [separatorEscape, hls, hps, if_false, List.singleton_append]
    exact readStringBody_raw h1 h2 (by omega) rest acc

theorem readStringBody_quoted (cs rest acc : List Char) :
    readStringBody ((cs.flatMap escapeChar).flatMap separatorEscape ++ '"' :: rest) acc =
      some (String.ofList (acc.reverse ++ cs), rest) := by
  induction cs generalizing acc with
  | nil => simp [readStringBody]
  | cons c cs ih =>
      rw [List.flatMap_cons, List.flatMap_append, List.append_assoc, readStringBody_escapeChar,
        ih]
      simp

theorem str_toList (s : String) :
    (Script.str s).toList =
      '"' :: ((s.toList.flatMap escapeChar).flatMap separatorEscape ++ ['"']) := by
  simp only [Script.str, escapeSeparators_eq, quote, quoteChars, String.toList_ofList, List.flatMap_cons,
    List.flatMap_append, List.cons_append]
  rfl

theorem parse_str (s : String) : parse (Script.str s) = some (.str s) := by
  have hbody := readStringBody_quoted s.toList [] []
  simp only [List.reverse_nil, List.nil_append, String.ofList_toList] at hbody
  simp [parse, str_toList, readValue, skipSpace, isSpace, hbody]

end Json

end SceneScript
