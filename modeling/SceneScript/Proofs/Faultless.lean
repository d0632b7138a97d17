import Mathlib
import SceneScript.Compile.Build

/-!
# Steps that cannot fail

The compilers reach three panicking operations of the standard library and one error of their
own (writing JSON). On the values the compilers pass, none of them fails: every clamp has the
lower bound zero and an upper bound at least zero, every cut of a colour's hex digits falls
inside ASCII text, byte arithmetic on one hex digit stays below 256, and writing JSON always
succeeds. Each reader that can fail gets one lemma saying it returns a value for every input;
the compilers' own lemmas cite these and never open the readers again.
-/

namespace SceneScript

@[simp] theorem ok_bind {ε α β : Type} (a : α) (f : α → Except ε β) :
    (Except.ok a >>= f) = f a := rfl

theorem Script.json_eq (v : Json) :
    Script.json v = .ok (Script.escapeSeparators (Json.renderPretty v)) := rfl

/-! ## Clamping: the bounds in use are ordered -/

namespace Binary64

theorem zero_le_finite (e : Fin 2047) (f : Fin (pow2 52)) : zero.le (finite false e f) = true := by
  have h0 : unitsOf 0 ⟨0, pow2_pos 52⟩ = 0 := by simp [unitsOf, significandOf]
  simp [le, lt, eq, zero, signedZero, signedUnits, h0]
  omega

theorem zero_le_encode (m q : Nat) : zero.le (encode false m q) = true := by
  unfold encode
  split
  · exact zero_le_finite _ _
  · split
    · exact zero_le_finite _ _
    · rfl

theorem zero_le_ofRatio (n d : Nat) : zero.le (ofRatio false n d) = true := by
  unfold ofRatio
  split
  · exact zero_le_finite _ _
  · dsimp only
    split <;> exact zero_le_encode _ _

theorem zero_le_ofNat (n : Nat) : zero.le (ofNat n) = true :=
  zero_le_ofRatio _ _

theorem clampAssert_of_le {lo hi : Binary64} (x : Binary64) (h : lo.le hi = true) :
    x.clampAssert lo hi = .ok (x.clamp lo hi) := by
  simp [clampAssert, h]


end Binary64

namespace Rgb

theorem clampUnit_eq (x : Binary64) :
    clampUnit x = .ok (x.clamp Binary64.zero Binary64.one) :=
  Binary64.clampAssert_of_le x (Binary64.zero_le_ofNat 1)

theorem clamped_eq (c : Rgb) :
    c.clamped = .ok ⟨c.r.clamp Binary64.zero Binary64.one, c.g.clamp Binary64.zero Binary64.one,
      c.b.clamp Binary64.zero Binary64.one⟩ := by
  simp [clamped, clampUnit_eq]


theorem scaled_eq (c : Rgb) (factor : Binary64) :
    c.scaled factor = .ok ⟨(c.r * factor).clamp Binary64.zero Binary64.one,
      (c.g * factor).clamp Binary64.zero Binary64.one,
      (c.b * factor).clamp Binary64.zero Binary64.one⟩ :=
  clamped_eq _

end Rgb

/-! ## Cutting ASCII text at byte offsets -/

namespace Text

theorem byteLength_ascii (cs : List Char) (h : ∀ c ∈ cs, c.utf8Size = 1) :
    byteLength cs = cs.length := by
  induction cs with
  | nil => rfl
  | cons c cs ih =>
      have hc : c.utf8Size = 1 := h c List.mem_cons_self
      have hrest := ih fun d hd => h d (List.mem_cons_of_mem c hd)
      simp only [byteLength, List.foldr_cons] at hrest ⊢
      rw [hc, hrest, List.length_cons, Nat.add_comm]

theorem dropBytes?_ascii (cs : List Char) (h : ∀ c ∈ cs, c.utf8Size = 1) (i : Nat)
    (hi : i ≤ cs.length) : dropBytes? cs i = some (cs.drop i) := by
  induction cs generalizing i with
  | nil =>
      cases i with
      | zero => rfl
      | succ i => simp at hi
  | cons c rest ih =>
      cases i with
      | zero => rfl
      | succ i =>
          have hc : c.utf8Size = 1 := h c (by simp)
          simp only [dropBytes?, hc, List.drop_succ_cons]
          simp only [List.length_cons] at hi
          rw [if_pos (by omega), Nat.add_sub_cancel]
          exact ih (fun d hd => h d (by simp [hd])) i (by omega)

theorem takeBytes?_ascii (cs : List Char) (h : ∀ c ∈ cs, c.utf8Size = 1) (j : Nat)
    (hj : j ≤ cs.length) : takeBytes? cs j = some (cs.take j) := by
  induction cs generalizing j with
  | nil =>
      cases j with
      | zero => rfl
      | succ j => simp at hj
  | cons c rest ih =>
      cases j with
      | zero => rfl
      | succ j =>
          have hc : c.utf8Size = 1 := h c (by simp)
          simp only [takeBytes?, hc, List.take_succ_cons]
          simp only [List.length_cons] at hj
          rw [if_pos (by omega), Nat.add_sub_cancel,
            ih (fun d hd => h d (by simp [hd])) j (by omega)]
          rfl

theorem sliceBytes_ascii (cs : List Char) (h : ∀ c ∈ cs, c.utf8Size = 1) {i j : Nat}
    (hij : i ≤ j) (hj : j ≤ cs.length) :
    sliceBytes cs i j = .ok ((cs.drop i).take (j - i)) := by
  have hdrop := dropBytes?_ascii cs h i (by omega)
  have htake := takeBytes?_ascii (cs.drop i) (fun c hc => h c (List.mem_of_mem_drop hc))
    (j - i) (by simp; omega)
  simp [sliceBytes, hdrop, htake, hij]


end Text

/-! ## Colours

A hex colour is cut into pairs only after its digits were checked to be hex digits, which are
ASCII, and its length to be 6 or 8 bytes; a short form's digit is a nibble, so doubling it
stays a byte. -/

namespace Color

theorem hexDigit?_spec {c : Char} {v : Nat} (h : hexDigit? c = some v) :
    v < 16 ∧ c.val ≤ 127 := by
  unfold hexDigit? at h
  simp only [Char.le_def] at h
  split_ifs at h with h1 h2 h3 <;> cases h
  all_goals
    simp only [Char.toNat, UInt32.le_iff_toNat_le] at *
    have : c.val.toNat < 4294967296 := c.val.toNat_lt
    constructor <;> simp at * <;> omega

theorem isHexDigit_utf8Size {c : Char} (h : isHexDigit c = true) : c.utf8Size = 1 := by
  obtain ⟨v, hv⟩ := Option.isSome_iff_exists.1 h
  exact Char.utf8Size_eq_one_iff.2 (hexDigit?_spec hv).2

theorem shortOrFullDigits?_spec {cs ds : List Char} (h : shortOrFullDigits? cs = some ds) :
    (ds.length = 3 ∨ ds.length = 6) ∧ ∀ c ∈ ds, c.utf8Size = 1 := by
  unfold shortOrFullDigits? at h
  split at h
  · split_ifs at h with hds
    cases h
    exact ⟨hds.1, fun c hc => isHexDigit_utf8Size (List.all_eq_true.1 hds.2 c hc)⟩
  · cases h

theorem alphaDigits?_spec {cs ds : List Char} (h : alphaDigits? cs = some ds) :
    ds.length = 8 ∧ ∀ c ∈ ds, c.utf8Size = 1 := by
  unfold alphaDigits? at h
  split at h
  · split_ifs at h with hds
    cases h
    exact ⟨hds.1, fun c hc => isHexDigit_utf8Size (List.all_eq_true.1 hds.2 c hc)⟩
  · cases h

theorem ofHexPairs_ok (ds : List Char) (h : ∀ c ∈ ds, c.utf8Size = 1) (hl : 6 ≤ ds.length) :
    ∃ r, ofHexPairs ds = .ok r := by
  simp only [ofHexPairs, Text.sliceBytes_ascii ds h (Nat.zero_le 2) (by omega),
    Text.sliceBytes_ascii ds h (by omega : 2 ≤ 4) (by omega),
    Text.sliceBytes_ascii ds h (by omega : 4 ≤ 6) hl, ok_bind]
  split
  · split
    · split <;> exact ⟨_, rfl⟩
    · exact ⟨_, rfl⟩
  · exact ⟨_, rfl⟩

theorem shortChannel_ok (c : Char) : ∃ r, shortChannel c = .ok r := by
  unfold shortChannel
  split
  · exact ⟨_, rfl⟩
  · rename_i v hv
    have hv16 := (hexDigit?_spec hv).1
    have h1 : v * 16 < 256 := by omega
    have h2 : v * 16 + v < 256 := by omega
    simp [Fault.byte, h1, h2]

theorem ofShortOrFullHex_ok (cs : List Char) : ∃ r, ofShortOrFullHex cs = .ok r := by
  unfold ofShortOrFullHex
  split
  · exact ⟨_, rfl⟩
  · rename_i ds hds
    obtain ⟨hlen, hascii⟩ := shortOrFullDigits?_spec hds
    split
    · split
      · rename_i r g b _
        obtain ⟨r', hr⟩ := shortChannel_ok r
        obtain ⟨g', hg⟩ := shortChannel_ok g
        obtain ⟨b', hb⟩ := shortChannel_ok b
        simp only [hr, hg, hb, ok_bind]
        split
        · split
          · split <;> exact ⟨_, rfl⟩
          · exact ⟨_, rfl⟩
        · exact ⟨_, rfl⟩
      · exact ⟨_, rfl⟩
    · rename_i hbytes
      have hsix : ds.length = 6 := by
        have := Text.byteLength_ascii ds hascii
        omega
      exact ofHexPairs_ok ds hascii (by omega)

theorem ofAlphaHex_ok (cs : List Char) : ∃ r, ofAlphaHex cs = .ok r := by
  unfold ofAlphaHex
  split
  · exact ⟨_, rfl⟩
  · rename_i ds hds
    obtain ⟨hlen, hascii⟩ := alphaDigits?_spec hds
    rw [Text.sliceBytes_ascii ds hascii (Nat.zero_le 6) (by omega), ok_bind]
    exact ofHexPairs_ok _ (fun c hc => hascii c (List.mem_of_mem_take (by simpa using hc)))
      (by simp; omega)


theorem functionalChannel_ok (numeral : List Char) : ∃ r, functionalChannel numeral = .ok r := by
  unfold functionalChannel
  split
  · exact ⟨_, rfl⟩
  · simp [Binary64.clampAssert_of_le _ (Binary64.zero_le_ofNat 255)]

theorem ofFunctional_ok (cs : List Char) : ∃ r, ofFunctional cs = .ok r := by
  unfold ofFunctional
  split
  · exact ⟨_, rfl⟩
  · rename_i r g b _
    obtain ⟨r', hr⟩ := functionalChannel_ok r
    obtain ⟨g', hg⟩ := functionalChannel_ok g
    obtain ⟨b', hb⟩ := functionalChannel_ok b
    simp only [hr, hg, hb, ok_bind]
    split
    · split
      · split <;> exact ⟨_, rfl⟩
      · exact ⟨_, rfl⟩
    · exact ⟨_, rfl⟩

theorem ofObject_ok (v : Json) : ∃ r, ofObject v = .ok r := by
  unfold ofObject
  split
  · exact ⟨_, rfl⟩
  · simp [Rgb.clamped_eq]

theorem normalize_ok (raw : Option Json) : ∃ c, normalize raw = .ok c := by
  unfold normalize
  split
  · exact ⟨_, rfl⟩
  · rename_i s
    let cs := Text.trimChars s.toList
    obtain ⟨short, hshort⟩ := ofShortOrFullHex_ok cs
    obtain ⟨alpha, halpha⟩ := ofAlphaHex_ok cs
    obtain ⟨functional, hfunctional⟩ := ofFunctional_ok cs
    simp only [cs] at hshort halpha hfunctional
    simp only [hshort, halpha, hfunctional, ok_bind]
    split
    · exact ⟨_, rfl⟩
    · split <;> exact ⟨_, rfl⟩
  · rename_i v _
    obtain ⟨o, ho⟩ := ofObject_ok v
    simp [ho]

theorem resolve_ok (bag : Json) : ∃ c, resolve bag = .ok c :=
  normalize_ok _


end Color

/-! ## Component parameters and fragments -/

namespace RenderParams

theorem ofNode_ok (n : Node) : ∃ p, ofNode n = .ok p := by
  obtain ⟨c, hc⟩ := Color.resolve_ok n.data
  simp [ofNode, hc]


end RenderParams

namespace InventoryParams

theorem zero_le_capacityOf (n : Node) : Binary64.zero.le (capacityOf n) = true := by
  unfold capacityOf Binary64.nonNegative?
  cases h : (n.number? (Node.paramPaths "capacity")).filter (Binary64.zero.le ·) with
  | none =>
      simp only [Option.getD_none, default]
      exact Binary64.zero_le_ofNat 20
  | some x =>
      rw [Option.getD_some]
      exact (Option.filter_eq_some_iff.1 h).2

theorem ofNode_eq (n : Node) :
    ofNode n = .ok ⟨capacityOf n, ((n.number? (Node.paramPaths "currentLoad")).getD
      Binary64.zero).clamp Binary64.zero (capacityOf n)⟩ := by
  simp [ofNode, Binary64.clampAssert_of_le _ (zero_le_capacityOf n)]


end InventoryParams

namespace Fragment

theorem attach?_ok {kind : ComponentKind} {n : Node} {var : String}
    {fragment : ScriptWriter → Except Fault ScriptWriter} (h : attach? kind n var = some fragment)
    (w : ScriptWriter) : ∃ w', fragment w = .ok w' := by
  cases kind <;> simp only [attach?, Option.some.injEq, reduceCtorEq] at h <;> subst h
  case render =>
    obtain ⟨p, hp⟩ := RenderParams.ofNode_ok n
    simp [hp]
  case inventory => simp [InventoryParams.ofNode_eq]
  all_goals exact ⟨_, rfl⟩


end Fragment

namespace Creation

theorem fragment_ok (kind : ComponentKind) (n : Node) (w : ScriptWriter) :
    ∃ w', fragment kind n w = .ok w' := by
  cases kind
  case audio =>
    simp [fragment, audio, volume, Binary64.clampAssert_of_le _ (Binary64.zero_le_ofNat 1),
      Binary64.one]
  case render =>
    obtain ⟨p, hp⟩ := RenderParams.ofNode_ok n
    simp [fragment, wrap, hp]
  case inventory => simp [fragment, wrap, InventoryParams.ofNode_eq]
  all_goals exact ⟨_, rfl⟩


end Creation

/-! ## Spaces and wire records -/

namespace SpaceSettings

theorem colorOr_ok (n : Node) (paths : List (List String)) (dflt : Rgb) :
    ∃ c, colorOr n paths dflt = .ok c := by
  unfold colorOr
  split
  · exact Color.normalize_ok _
  · exact ⟨_, rfl⟩

theorem ofNode_ok (n : Node) (fallback : String) : ∃ s, ofNode n fallback = .ok s := by
  obtain ⟨background, hb⟩ := colorOr_ok n backgroundPaths defaultBackground
  obtain ⟨ambient, ha⟩ := colorOr_ok n (Node.paramPaths "ambientColor") defaultAmbient
  simp [ofNode, hb, ha]

end SpaceSettings

namespace Network

theorem visual_ok (n : Node) : ∃ v, visual n = .ok v := by
  cases h : (renderComponents n).head? with
  | none =>
      simp only [visual, h]
      exact ⟨_, rfl⟩
  | some comp =>
      obtain ⟨p, hp⟩ := RenderParams.ofNode_ok comp.node
      simp [visual, h, hp]

theorem entity_ok (n : Node) : ∃ e, entity n = .ok e := by
  obtain ⟨v, hv⟩ := visual_ok n
  simp [entity, hv]

end Network

end SceneScript
