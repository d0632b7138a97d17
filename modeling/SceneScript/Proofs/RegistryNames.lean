import Mathlib
import SceneScript.Config.Game
import SceneScript.Script.Literal

/-!
# Registry names

Scripts register entities under `globalThis.<registry>`, where the name is the configured
`compile.entityRegistry` made into a script identifier by `Script.ident`. Two grammars of
identifiers meet here. `GameConfig.validate` accepts an ASCII letter, `_` or `$`, then also
digits; `Script.ident` keeps ASCII letters, digits and `_` and puts `_` for everything else.

So `Script.ident` always gives a plain identifier `[A-Za-z_][A-Za-z0-9_]*`, and on a name that
validates it only replaces each `$` by `_`: the written name is the configured one exactly when
the configured one holds no `$`.
-/

namespace SceneScript

namespace Script

def isPlainIdent (s : String) : Bool :=
  match s.toList with
  | [] => false
  | c :: rest => (c.isAlpha || c = '_') && rest.all isIdentChar

theorem isIdentChar_keep (c : Char) : isIdentChar (if isIdentChar c then c else '_') = true := by
  split
  · assumption
  · rfl

theorem isAlpha_or_of_isIdentChar {c : Char} (hc : isIdentChar c = true) (hd : c.isDigit = false) :
    (c.isAlpha || c = '_') = true := by
  simp only [isIdentChar, Char.isAlphanum, Bool.or_eq_true, hd, Bool.or_false] at hc
  simpa using hc

theorem isPlainIdent_ident (s : String) : isPlainIdent (ident s) = true := by
  unfold ident
  generalize hcs : s.toList.map (fun c => if isIdentChar c then c else '_') = cs
  have hall : ∀ d ∈ cs, isIdentChar d = true := by
    intro d hd
    rw [← hcs] at hd
    obtain ⟨c, -, rfl⟩ := List.mem_map.1 hd
    exact isIdentChar_keep c
  cases cs with
  | nil => rfl
  | cons c rest =>
    dsimp only
    split
    · simp only [isPlainIdent, String.toList_ofList]
      simpa using hall
    · rename_i hd
      simp only [isPlainIdent, String.toList_ofList, Bool.and_eq_true, List.all_eq_true]
      exact ⟨isAlpha_or_of_isIdentChar (hall c List.mem_cons_self) (by simpa using hd),
        fun d hd => hall d (List.mem_cons_of_mem c hd)⟩

end Script

namespace GameConfig

theorem isDigit_of_isAlpha {c : Char} (h : c.isAlpha = true) : c.isDigit = false := by
  simp only [Char.isAlpha, Char.isUpper, Char.isLower, Bool.or_eq_true, Bool.and_eq_true,
    decide_eq_true_eq, UInt32.le_iff_toNat_le, ge_iff_le] at h
  simp only [Char.isDigit, Bool.and_eq_false_iff, decide_eq_false_iff_not,
    UInt32.le_iff_toNat_le, ge_iff_le]
  have : 'A'.val.toNat = 65 := rfl
  have : 'a'.val.toNat = 97 := rfl
  have : '9'.val.toNat = 57 := rfl
  omega

theorem keep_of_isIdentifier_char {c : Char} (hc : (c.isAlphanum || c = '_' || c = '$') = true) :
    (if Script.isIdentChar c then c else '_') = if c = '$' then '_' else c := by
  by_cases hd : c = '$'
  · subst hd
    rfl
  · have hident : Script.isIdentChar c = true := by
      simpa [Script.isIdentChar, hd] using hc
    rw [if_pos hident, if_neg hd]

theorem ident_of_isIdentifier {s : String} (h : isIdentifier s = true) :
    Script.ident s = String.ofList (s.toList.map fun c => if c = '$' then '_' else c) := by
  unfold isIdentifier at h
  unfold Script.ident
  cases hs : s.toList with
  | nil => simp [hs] at h
  | cons c rest =>
    rw [hs] at h
    simp only [Bool.and_eq_true, List.all_eq_true] at h
    obtain ⟨hc, hrest⟩ := h
    have hhead : (c.isAlphanum || c = '_' || c = '$') = true := by
      simp only [Char.isAlphanum, Bool.or_eq_true] at hc ⊢
      tauto
    have hmap : (c :: rest).map (fun c => if Script.isIdentChar c then c else '_') =
        (c :: rest).map (fun c => if c = '$' then '_' else c) := by
      refine List.map_congr_left fun d hd => ?_
      rcases List.mem_cons.1 hd with rfl | hd
      · exact keep_of_isIdentifier_char hhead
      · exact keep_of_isIdentifier_char (hrest d hd)
    rw [hmap]
    have hfirst : (if c = '$' then '_' else c).isDigit = false := by
      split
      · rfl
      · simp only [Bool.or_eq_true, decide_eq_true_eq] at hc
        rcases hc with (hc | hc) | hc
        · exact isDigit_of_isAlpha hc
        · subst hc
          rfl
        · contradiction
    simp only [List.map_cons, hfirst, Bool.false_eq_true, if_false]

theorem ident_eq_self_iff {s : String} (h : isIdentifier s = true) :
    Script.ident s = s ↔ '$' ∉ s.toList := by
  rw [ident_of_isIdentifier h]
  constructor
  · intro heq hd
    have hl := congrArg String.toList heq
    rw [String.toList_ofList] at hl
    rw [← hl] at hd
    obtain ⟨c, -, hc⟩ := List.mem_map.1 hd
    split_ifs at hc with hc'
    · exact absurd hc (by decide)
    · exact hc' hc
  · intro hd
    have hkeep : ∀ c ∈ s.toList, (if c = '$' then '_' else c) = c := by
      intro c hc
      rw [if_neg]
      rintro rfl
      exact hd hc
    rw [List.map_congr_left hkeep, List.map_id', String.ofList_toList]

theorem validate_eq_ok {g g' : GameConfig} (h : g.validate = .ok g') :
    g' = g ∧ isIdentifier g.compile.entityRegistry = true := by
  unfold validate at h
  split_ifs at h with _ _ _ hident
  cases h
  exact ⟨rfl, by simpa using hident⟩

theorem validate_of_ofToml {s : String} {g' : GameConfig} (h : ofToml s = .ok g') :
    ∃ g : GameConfig, g.validate = .ok g' := by
  unfold ofToml at h
  split at h
  · exact ⟨_, h⟩
  · cases h

theorem validate_of_ofJsonText {s : String} {g' : GameConfig} (h : ofJsonText s = .ok g') :
    ∃ g : GameConfig, g.validate = .ok g' := by
  unfold ofJsonText at h
  split at h
  · exact ⟨_, h⟩
  · cases h

/-- The registry name written into scripts, for a configuration that validated (every one read
from TOML or JSON text did): `Script.ident` writes its registry name with each `$` replaced by
`_`, so as itself exactly when it holds no `$`. And `Script.ident` makes every text `s` a plain
identifier `[A-Za-z_][A-Za-z0-9_]*`. -/
theorem registry_ident_replaces_dollar_signs (g' : GameConfig)
    (h : (∃ g : GameConfig, g.validate = .ok g') ∨ (∃ t, ofToml t = .ok g') ∨
      (∃ t, ofJsonText t = .ok g')) (s : String) :
    Script.ident g'.compile.entityRegistry =
        String.ofList (g'.compile.entityRegistry.toList.map fun c => if c = '$' then '_' else c) ∧
      (Script.ident g'.compile.entityRegistry = g'.compile.entityRegistry ↔
        '$' ∉ g'.compile.entityRegistry.toList) ∧
      Script.isPlainIdent (Script.ident s) = true := by
  obtain ⟨g, hg⟩ : ∃ g : GameConfig, g.validate = .ok g' := by
    rcases h with h | ⟨t, h⟩ | ⟨t, h⟩
    · exact h
    · exact validate_of_ofToml h
    · exact validate_of_ofJsonText h
  obtain ⟨rfl, hident⟩ := validate_eq_ok hg
  exact ⟨ident_of_isIdentifier hident, ident_eq_self_iff hident, Script.isPlainIdent_ident s⟩

/-- The default registry `UPDLEntities` is written as itself. -/
theorem default_registry_is_written_as_is :
    Script.ident default.compile.entityRegistry = default.compile.entityRegistry :=
  (registry_ident_replaces_dollar_signs default (Or.inl ⟨default, by decide⟩) "").2.1.2
    (by decide)

/-- A registry named `$reg` validates, yet scripts register entities under `_reg`. -/
theorem dollar_registry_is_renamed :
    ∃ g : GameConfig, g.validate = .ok g ∧ g.compile.entityRegistry = "$reg" ∧
      Script.ident g.compile.entityRegistry = "_reg" :=
  ⟨⟨.singleplayer, MultiplayerConfig.default, ⟨false, "$reg"⟩⟩, by decide, rfl, by decide⟩

end GameConfig

end SceneScript
