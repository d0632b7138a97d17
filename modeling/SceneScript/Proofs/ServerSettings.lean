import Mathlib
import SceneScript.Proofs.CandidatePaths
import SceneScript.Proofs.ColorNotations

/-!
# Server settings of a multiplayer build

A multiplayer result tells clients where to connect: a host, a port, a room name and a
protocol. Each comes from the configuration unless a universo node of the flow sets it. For the
three texts, a node sets a setting when the value at its first defined path reads as text; that
text is never blank, and the first such node wins. For the port the search is made in another
order: it stops at the first node whose first defined `serverPort` reads as a number, and only
then checks that the number is an integer from 1 to 65535. A first number out of range therefore
leaves the configured port, even when a later node gives a valid one.

Main statement: `server_port_stops_at_first_number`.
-/

namespace SceneScript

namespace Json

theorem NumberToken.WellFormed.exists_digit {t : NumberToken} (ht : t.WellFormed) :
    ∃ c ∈ t.chars, c.isDigit = true := by
  obtain ⟨d, w, hw⟩ := List.exists_cons_of_ne_nil ht.whole_ne_nil
  refine ⟨d, ?_, ht.whole_digits d (by rw [hw]; exact List.mem_cons_self)⟩
  simp [NumberToken.chars, hw]

theorem trim_isEmpty_of_digit {s : String} {c : Char} (hc : c ∈ s.toList) (hd : c.isDigit = true) :
    (Text.trim s).isEmpty = false :=
  Text.trim_isEmpty_eq_false hc (Text.isBlank_of_isDecimalDigit (Text.isDecimalDigit_of_isDigit c hd))

theorem numberText_not_blank (n : JsonNumber) : (Text.trim (numberText n)).isEmpty = false := by
  cases n with
  | int i =>
    obtain ⟨c, hc, hd⟩ := (intToken_wellFormed i).exists_digit
    exact trim_isEmpty_of_digit (by rw [numberText, toString_int_chars]; exact hc) hd
  | float x =>
    cases hx : x.isFinite with
    | true =>
      obtain ⟨t, ht, hchars, -⟩ := render_token hx
      obtain ⟨c, hc, hd⟩ := ht.exists_digit
      exact trim_isEmpty_of_digit (by rw [numberText, hchars]; exact hc) hd
    | false =>
      cases x with
      | finite => cases hx
      | infinite s => cases s <;> decide
      | nan => decide

theorem toText?_not_blank {v : Json} {t : String} (h : v.toText? = some t) :
    (Text.trim t).isEmpty = false := by
  cases v with
  | str s =>
    simp only [toText?] at h
    split_ifs at h with hblank
    obtain rfl := Option.some.inj h
    simpa using hblank
  | num n =>
    obtain rfl := Option.some.inj h
    exact numberText_not_blank n
  | bool b =>
    obtain rfl := Option.some.inj h
    cases b <;> decide
  | null => cases h
  | arr => cases h
  | obj => cases h

end Json

namespace GameConfig

theorem serverPort_ne_zero_of_validate {g g' : GameConfig} (h : g.validate = .ok g') :
    g.multiplayer.serverPort ≠ 0 := by
  intro hzero
  simp [validate, hzero] at h
  split_ifs at h

end GameConfig

namespace Build

open Binary64

theorem truncNat_bounds_of_port {x : Binary64}
    (hx : (one.le x && x.le (ofNat 65535) && x.isIntegral) = true) :
    1 ≤ x.truncNat ∧ x.truncNat ≤ 65535 := by
  simp only [Bool.and_eq_true] at hx
  obtain ⟨⟨hlo, hhi⟩, hint⟩ := hx
  obtain ⟨s, e, f, rfl⟩ : ∃ s e f, x = finite s e f := by
    cases x with
    | finite s e f => exact ⟨s, e, f, rfl⟩
    | _ => cases hint
  obtain ⟨E, F, hmax, hunits⟩ := ofNat_exact (n := 65535) (by decide)
  have hshift : pow2 unitShift = pow2 1074 := rfl
  rw [one_eq, le_finite, unitsOf_one, decide_eq_true_eq] at hlo
  rw [hmax, le_finite, hunits, hshift, decide_eq_true_eq] at hhi
  cases s with
  | true =>
    have hpos := pow2_pos 1074
    simp only [signedUnits, Bool.false_eq_true, if_false, if_true] at hlo
    omega
  | false =>
    simp only [signedUnits, Bool.false_eq_true, if_false, Nat.cast_le] at hlo hhi
    simp only [truncNat, hshift]
    -- only the unit `2^1074` matters, never its value
    have hpos := pow2_pos 1074
    generalize pow2 1074 = P at hlo hhi hpos ⊢
    constructor
    · rw [Nat.le_div_iff_mul_le hpos, Nat.one_mul]
      exact hlo
    · exact Nat.div_le_of_le_mul (by rw [Nat.mul_comm]; exact hhi)

theorem one_le_port? {x : Binary64} {p : UInt16} (h : port? x = some p) : 1 ≤ p.toNat := by
  unfold port? at h
  split_ifs at h with hx
  obtain rfl := Option.some.inj h
  obtain ⟨hlo, hhi⟩ := truncNat_bounds_of_port hx
  have hexact : x.truncNat.toUInt16.toNat = x.truncNat := by
    simp only [Nat.toUInt16_eq, UInt16.toNat_ofNat']
    omega
  rw [hexact]
  exact hlo

theorem serverConfig_port (mp : MultiplayerConfig) (us : List Node) :
    (serverConfig mp us).port =
      ((us.findSome? fun n => n.number? (Node.directPaths "serverPort")).bind port?).getD
        mp.serverPort := rfl

theorem serverConfig_port_bounds {mp : MultiplayerConfig} (hport : mp.serverPort ≠ 0)
    (us : List Node) :
    1 ≤ (serverConfig mp us).port.toNat ∧ (serverConfig mp us).port.toNat ≤ 65535 := by
  refine ⟨?_, Nat.le_of_lt_succ (serverConfig mp us).port.toNat_lt⟩
  rw [serverConfig_port]
  cases hfound : (us.findSome? fun n => n.number? (Node.directPaths "serverPort")).bind port? with
  | none => exact Nat.one_le_iff_ne_zero.2 fun h => hport (UInt16.toNat_inj.1 h)
  | some p => exact one_le_port? (Option.bind_eq_some_iff.1 hfound).choose_spec.2

end Build

namespace GameConfig

/-- The server settings of a multiplayer build. The port is always an integer from 1 to 65535
for a validated configuration. Host, room name and protocol each
come from the first universo node whose value at its first defined path reads as text, which is
never blank, else from the configuration. The port search stops at the first universo node whose
first defined `serverPort` reads as a number: when that number is a valid port (or no node gives
a number), the port is the first valid port the nodes give, else the configuration's; when that
first number is not a valid port, the port is the configuration's, whatever later nodes give. -/
theorem server_port_stops_at_first_number (cfg : GameConfig) (hvalid : cfg.validate = .ok cfg)
    (flow : Json) (c : IdCounter) :
    ∃ m, (cfg.buildMulti flow c).1 = .ok m ∧
      let us := (Build.extract flow c).1.universo
      let portAt := fun n : Node => n.number? (Node.directPaths "serverPort")
      (1 ≤ m.server.port.toNat ∧ m.server.port.toNat ≤ 65535) ∧
      m.server.host = (us.findSome? (·.text? (Node.directPaths "serverHost"))).getD
        cfg.multiplayer.serverHost ∧
      m.server.roomName = (us.findSome? (·.text? (Node.directPaths "roomName"))).getD
        cfg.multiplayer.roomName ∧
      m.server.protocol = (us.findSome? (·.text? (Node.directPaths "protocol"))).getD
        cfg.multiplayer.protocol ∧
      (∀ (n : Node) (name t : String), n.text? (Node.directPaths name) = some t →
        (Text.trim t).isEmpty = false) ∧
      ((∀ x, us.findSome? portAt = some x → (Build.port? x).isSome) →
        m.server.port = (us.findSome? fun n => (portAt n).bind Build.port?).getD
          cfg.multiplayer.serverPort) ∧
      (∀ x, us.findSome? portAt = some x → Build.port? x = none →
        m.server.port = cfg.multiplayer.serverPort) := by
  obtain ⟨m, hm⟩ := buildMulti_ok cfg flow c
  obtain ⟨-, -, hserver⟩ := buildMulti_session hm
  refine ⟨m, hm, ?_⟩
  intro us portAt
  rw [hserver]
  refine ⟨Build.serverConfig_port_bounds (serverPort_ne_zero_of_validate hvalid) us, rfl, rfl, rfl, ?_, ?_, ?_⟩
  · intro n name t ht
    obtain ⟨v, -, hv⟩ := Option.bind_eq_some_iff.1 ht
    exact Json.toText?_not_blank hv
  · intro hvalidPort
    rw [Build.serverConfig_port, findSome?_bind_of_isSome hvalidPort]
  · intro x hx hnone
    rw [Build.serverConfig_port, hx, Option.bind_some, hnone, Option.getD_none]

/-- A universo node that gives the port 3000 overrides the configured port. -/
theorem universo_port_overrides_config :
    let flow : Json := .obj [("updlSpace", .obj [("universo", .arr [.obj [("data",
      .obj [("serverHost", .str "universo.local"), ("serverPort", .int 3000)]),
      ("id", .str "u")]])])]
    ∃ m, (GameConfig.default.buildMulti flow ⟨1⟩).1 = .ok m ∧ m.server.port = 3000 := by
  intro flow
  obtain ⟨m, hm, -, -, -, -, -, hfirst, -⟩ :=
    server_port_stops_at_first_number GameConfig.default (by decide) flow ⟨1⟩
  have hnumber : ((Build.extract flow ⟨1⟩).1.universo.findSome? fun n =>
      n.number? (Node.directPaths "serverPort")) = some (Binary64.ofInt 3000) := by
    decide +kernel
  refine ⟨m, hm, ?_⟩
  rw [hfirst fun x hx => by rw [hnumber, Option.some.injEq] at hx; subst hx; decide +kernel]
  decide +kernel

/-- The first universo node gives the port 0, the second the valid port 3000: the search stops
at the first number, and the build keeps the configured port 2567. -/
theorem server_port_skips_later_valid_port :
    let flow : Json := .obj [("updlSpace", .obj [("universo", .arr [
      .obj [("data", .obj [("serverPort", .int 0)]), ("id", .str "u1")],
      .obj [("data", .obj [("serverPort", .int 3000)]), ("id", .str "u2")]])])]
    ((Build.extract flow ⟨1⟩).1.universo.findSome? fun n =>
        (n.number? (Node.directPaths "serverPort")).bind Build.port?) = some 3000 ∧
      ∃ m, (GameConfig.default.buildMulti flow ⟨1⟩).1 = .ok m ∧ m.server.port = 2567 := by
  intro flow
  obtain ⟨m, hm⟩ := buildMulti_ok GameConfig.default flow ⟨1⟩
  obtain ⟨-, -, hserver⟩ := buildMulti_session hm
  refine ⟨by decide +kernel, m, hm, ?_⟩
  rw [hserver, Build.serverConfig_port]
  decide +kernel

end GameConfig

end SceneScript
