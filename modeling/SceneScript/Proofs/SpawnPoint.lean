import SceneScript.Proofs.Builds
import SceneScript.Proofs.CompactReading

/-!
# The player's spawn point

A multiplayer result places the player where the first player or ship entity stands, and
otherwise by the first space's `spawnPoint`. The entities are picked by their kind, and the
kind parses the type name once more, trimmed and ASCII-lowercased. A type name is already
trimmed and lowercased with the full Unicode case mapping, and that leaves nothing for the
second pass to change: no lowercase is an ASCII capital, and the lowercase of a character that
is not blank holds no blank, so the ends of a trimmed text stay non-blank once lowercased.
Hence an entity's kind is player or ship exactly when its type name, the `entityType` of its
wire record, is `player` or `ship`, and the spawn point can be read off the wire records.

A first space's `spawnPoint` may also be a string, read as JSON text. Given as the compact text
of a value, it places the player where the value does, unless the value is a bare triple: an
array or an object with `x`, `y` or `z` moves the default transform, while the same value read
from text must be a whole transform, and a triple as text leaves the player at the default.
-/

namespace SceneScript

namespace Text

/-! ## What lowercasing writes -/

def foldedAway : List (Nat × Nat) := (0x41, 0x5A) :: blankRanges

def runAvoids (r : Nat × Nat × Int × Nat) (range : Nat × Nat) : Bool :=
  decide ((r.2.1 : Int) + r.2.2.1 < range.1) || decide ((range.2 : Int) < r.1 + r.2.2.1)

theorem lowerRuns_avoid : ∀ r ∈ lowerRuns, ∀ range ∈ foldedAway, runAvoids r range = true := by
  decide +kernel

theorem foldedAway_pos : ∀ range ∈ foldedAway, 0 < range.1 := by
  decide

theorem capital_iff (c : Char) : ('A' ≤ c ∧ c ≤ 'Z') ↔ (0x41 ≤ c.toNat ∧ c.toNat ≤ 0x5A) := by
  rw [Char.le_def, Char.le_def, UInt32.le_iff_toNat_le, UInt32.le_iff_toNat_le]
  rfl

theorem ofNat_run_avoids {r : Nat × Nat × Int × Nat} (hr : r ∈ lowerRuns) {n : Nat}
    (hlo : r.1 ≤ n) (hhi : n ≤ r.2.1) {range : Nat × Nat} (hrange : range ∈ foldedAway) :
    ¬ (range.1 ≤ (Char.ofNat (n + r.2.2.1).toNat).toNat ∧
      (Char.ofNat (n + r.2.2.1).toNat).toNat ≤ range.2) := by
  have havoid := lowerRuns_avoid r hr range hrange
  have hpos := foldedAway_pos range hrange
  simp only [runAvoids, Bool.or_eq_true, decide_eq_true_eq] at havoid
  rw [Char.toNat_ofNat]
  split <;> omega

theorem lowerSimple_cases (c : Char) :
    (lowerSimple c = c ∧ ¬ ('A' ≤ c ∧ c ≤ 'Z')) ∨
      ∃ r ∈ lowerRuns, r.1 ≤ c.toNat ∧ c.toNat ≤ r.2.1 ∧
        lowerSimple c = Char.ofNat (c.toNat + r.2.2.1).toNat := by
  dsimp only [lowerSimple]
  split
  · rename_i r hr
    have hp := List.find?_some hr
    simp only [decide_eq_true_eq] at hp
    exact Or.inr ⟨r, List.mem_of_find?_eq_some hr, hp.1, hp.2.1, rfl⟩
  · rename_i hr
    refine Or.inl ⟨rfl, fun hcap => ?_⟩
    have hfirst := (List.find?_eq_none.1 hr) (0x41, 0x5A, 32, 1)
      (show (0x41, 0x5A, 32, 1) ∈ lowerRuns from List.mem_cons_self)
    rw [capital_iff] at hcap
    simp only [decide_eq_true_eq] at hfirst
    omega

theorem lowerSimple_not_capital (c : Char) : ¬ ('A' ≤ lowerSimple c ∧ lowerSimple c ≤ 'Z') := by
  rcases lowerSimple_cases c with ⟨heq, hcap⟩ | ⟨r, hr, hlo, hhi, heq⟩
  · rwa [heq]
  · rw [heq, capital_iff]
    exact ofNat_run_avoids hr hlo hhi List.mem_cons_self

theorem isBlank_lowerSimple {c : Char} (h : isBlank c = false) : isBlank (lowerSimple c) = false := by
  rcases lowerSimple_cases c with ⟨heq, -⟩ | ⟨r, hr, hlo, hhi, heq⟩
  · rwa [heq]
  · rw [heq]
    simp only [isBlank, inRanges, List.any_eq_false, decide_eq_true_eq]
    exact fun range hrange => ofNat_run_avoids hr hlo hhi (List.mem_cons_of_mem _ hrange)

/-! ## Lowercasing a text -/

theorem lowerCharsFrom_append (before xs ys : List Char) :
    ∃ pre, lowerCharsFrom before (xs ++ ys) = pre ++ lowerCharsFrom (xs.reverse ++ before) ys := by
  induction xs generalizing before with
  | nil => exact ⟨[], by simp⟩
  | cons c xs ih =>
      obtain ⟨pre, hpre⟩ := ih (c :: before)
      rw [List.cons_append, lowerCharsFrom, hpre, List.reverse_cons, List.append_assoc,
        List.singleton_append]
      exact ⟨_, (List.append_assoc _ pre _).symm⟩

/-- Every character of a lowercase is a final or medial sigma, one of the two characters of
the lowercase of capital dotted I, or the simple lowercase of a character. -/
theorem mem_lowerCharsFrom {before cs : List Char} {d : Char} (h : d ∈ lowerCharsFrom before cs) :
    d = 'ς' ∨ d = 'σ' ∨ d = 'i' ∨ d = '̇' ∨ ∃ c ∈ cs, d = lowerSimple c := by
  induction cs generalizing before with
  | nil => simp [lowerCharsFrom] at h
  | cons c rest ih =>
      simp only [lowerCharsFrom, List.mem_append] at h
      rcases h with h | h
      · split_ifs at h
        · simp only [lowerSigma, List.mem_singleton] at h
          split_ifs at h <;> simp [h]
        · simp only [List.mem_cons, List.not_mem_nil, or_false] at h
          rcases h with rfl | rfl <;> simp
        · simp only [List.mem_singleton] at h
          exact Or.inr (Or.inr (Or.inr (Or.inr ⟨c, List.mem_cons_self, h⟩)))
      · rcases ih h with h | h | h | h | ⟨c', hc', rfl⟩
        · exact Or.inl h
        · exact Or.inr (Or.inl h)
        · exact Or.inr (Or.inr (Or.inl h))
        · exact Or.inr (Or.inr (Or.inr (Or.inl h)))
        · exact Or.inr (Or.inr (Or.inr (Or.inr ⟨c', List.mem_cons_of_mem c hc', rfl⟩)))

theorem asciiLowerChar_of_mem_lowerCharsFrom {before cs : List Char} {d : Char}
    (h : d ∈ lowerCharsFrom before cs) : asciiLowerChar d = d := by
  unfold asciiLowerChar
  rw [if_neg]
  rcases mem_lowerCharsFrom h with rfl | rfl | rfl | rfl | ⟨c, -, rfl⟩
  all_goals first | decide | exact lowerSimple_not_capital c

theorem lowerCharsFrom_cons {c : Char} (h : isBlank c = false) (before rest : List Char) :
    ∃ here, here ≠ [] ∧ (∀ d ∈ here, isBlank d = false) ∧
      lowerCharsFrom before (c :: rest) = here ++ lowerCharsFrom (c :: before) rest := by
  simp only [lowerCharsFrom]
  refine ⟨_, ?_, ?_, rfl⟩
  · split_ifs <;> simp
  · intro d hd
    split_ifs at hd
    · simp only [lowerSigma, List.mem_singleton] at hd
      split_ifs at hd <;> subst hd <;> decide
    · simp only [List.mem_cons, List.not_mem_nil, or_false] at hd
      rcases hd with rfl | rfl <;> decide
    · simp only [List.mem_singleton] at hd
      subst hd
      exact isBlank_lowerSimple h

/-! ## Trimmed texts -/

theorem isBlank_head?_dropWhile (cs : List Char) :
    ∀ c ∈ (cs.dropWhile isBlank).head?, isBlank c = false := by
  intro c hc
  have h := List.head?_dropWhile_not isBlank cs
  rw [Option.mem_def] at hc
  rw [hc] at h
  exact h

theorem dropWhile_isBlank_of_head? {cs : List Char} (h : ∀ c ∈ cs.head?, isBlank c = false) :
    cs.dropWhile isBlank = cs := by
  cases cs with
  | nil => rfl
  | cons c rest => exact List.dropWhile_cons_of_neg (by simp [h c rfl])

theorem trimChars_ends (cs : List Char) :
    (∀ c ∈ (trimChars cs).head?, isBlank c = false) ∧
      ∀ c ∈ (trimChars cs).getLast?, isBlank c = false := by
  unfold trimChars
  refine ⟨fun c hc => ?_, by rw [List.getLast?_reverse]; exact isBlank_head?_dropWhile _⟩
  have hsuffix : (cs.dropWhile isBlank).reverse.dropWhile isBlank <:+
      (cs.dropWhile isBlank).reverse := List.dropWhile_suffix isBlank
  have hprefix := List.reverse_prefix.2 hsuffix
  rw [List.reverse_reverse] at hprefix
  obtain ⟨t, ht⟩ := hprefix
  refine isBlank_head?_dropWhile cs c ?_
  rw [← ht, List.head?_append, Option.mem_def.1 hc]
  rfl

theorem trimChars_of_ends {cs : List Char} (hhead : ∀ c ∈ cs.head?, isBlank c = false)
    (hlast : ∀ c ∈ cs.getLast?, isBlank c = false) : trimChars cs = cs := by
  have hback : cs.reverse.dropWhile isBlank = cs.reverse :=
    dropWhile_isBlank_of_head? (by rwa [List.head?_reverse])
  unfold trimChars
  rw [dropWhile_isBlank_of_head? hhead, hback, List.reverse_reverse]

theorem lowerCharsFrom_ends (before : List Char) {cs : List Char} (hhead : ∀ c ∈ cs.head?, isBlank c = false)
    (hlast : ∀ c ∈ cs.getLast?, isBlank c = false) :
    (∀ d ∈ (lowerCharsFrom before cs).head?, isBlank d = false) ∧
      ∀ d ∈ (lowerCharsFrom before cs).getLast?, isBlank d = false := by
  rcases List.eq_nil_or_concat cs with rfl | ⟨xs, e, rfl⟩
  · simp [lowerCharsFrom]
  rw [List.concat_eq_append] at hhead hlast ⊢
  constructor
  · obtain ⟨c, rest, hcs⟩ := List.exists_cons_of_ne_nil (List.concat_ne_nil e xs)
    rw [hcs] at hhead ⊢
    obtain ⟨here, hne, hblank, heq⟩ := lowerCharsFrom_cons (hhead c rfl) before rest
    intro d hd
    rw [heq, List.head?_append_of_ne_nil _ hne] at hd
    exact hblank d (List.mem_of_mem_head? hd)
  · have he : isBlank e = false := hlast e (by simp)
    obtain ⟨pre, hpre⟩ := lowerCharsFrom_append before xs [e]
    obtain ⟨here, hne, hblank, heq⟩ := lowerCharsFrom_cons he (xs.reverse ++ before) []
    intro d hd
    rw [hpre, heq, lowerCharsFrom, List.append_nil,
      List.getLast?_append_of_ne_nil _ hne] at hd
    exact hblank d (List.mem_of_mem_getLast? hd)

theorem trim_toLower_trim (t : String) : trim (toLower (trim t)) = toLower (trim t) := by
  obtain ⟨hhead, hlast⟩ := trimChars_ends t.toList
  obtain ⟨hhead', hlast'⟩ := lowerCharsFrom_ends [] hhead hlast
  simp only [trim, toLower, String.toList_ofList]
  rw [trimChars_of_ends hhead' hlast']

theorem asciiLower_toLower (s : String) : asciiLower (toLower s) = toLower s := by
  simp only [asciiLower, toLower, String.toList_ofList]
  rw [List.map_congr_left fun d hd => asciiLowerChar_of_mem_lowerCharsFrom hd, List.map_id']

end Text

/-! ## Entity kinds from type names -/

namespace Node

theorem asciiLower_trim_entityTypeName (n : Node) :
    Text.asciiLower (Text.trim n.entityTypeName) = n.entityTypeName := by
  unfold entityTypeName
  split
  · dsimp only
    split
    · decide
    · rw [Text.trim_toLower_trim, Text.asciiLower_toLower]
  · decide

end Node

namespace EntityKind

theorem parse_name (k : EntityKind) : parse k.name = k := by
  cases k <;> decide

theorem parse_eq_iff {l : String} (h : Text.asciiLower (Text.trim l) = l) {k : EntityKind}
    (hk : k ≠ .static) : parse l = k ↔ l = k.name := by
  constructor
  · intro hp
    dsimp only [parse] at hp
    rw [h] at hp
    split_ifs at hp <;> subst hp <;> simp_all [name]
  · rintro rfl
    exact parse_name k

end EntityKind

namespace Node

theorem entityKind_eq_iff (n : Node) {k : EntityKind} (hk : k ≠ .static) :
    n.entityKind = k ↔ n.entityTypeName = k.name :=
  EntityKind.parse_eq_iff n.asciiLower_trim_entityTypeName hk

theorem entityKind_playerOrShip_iff (n : Node) :
    (n.entityKind = .player ∨ n.entityKind = .ship) ↔
      (n.entityTypeName = "player" ∨ n.entityTypeName = "ship") := by
  rw [entityKind_eq_iff n (by decide), entityKind_eq_iff n (by decide)]
  rfl

end Node

/-! ## The spawn point -/

namespace Network

theorem entity_fields {n : Node} {e : NetworkEntity} (h : entity n = .ok e) :
    e.entityType = n.entityTypeName ∧ e.transform = transform n := by
  obtain ⟨v, hv⟩ := visual_ok n
  simp only [entity, hv, ok_bind] at h
  cases h
  exact ⟨rfl, rfl⟩

theorem find?_playerOrShip {arts : List Artifact} {es : List NetworkEntity}
    (hrel : List.Forall₂ (fun a e => entity a.data = .ok e ∧ e.id = a.id) arts es) :
    (arts.find? fun a => a.data.entityKind == .player || a.data.entityKind == .ship).map
        (fun a => transform a.data) =
      (es.find? fun e => e.entityType == "player" || e.entityType == "ship").map
        (·.transform) := by
  induction hrel with
  | nil => rfl
  | @cons a e arts es hae _ ih =>
      obtain ⟨htype, htransform⟩ := entity_fields hae.1
      have hsame : (a.data.entityKind == .player || a.data.entityKind == .ship) =
          (e.entityType == "player" || e.entityType == "ship") := by
        rw [htype, Bool.eq_iff_iff]
        simpa only [Bool.or_eq_true, beq_iff_eq] using a.data.entityKind_playerOrShip_iff
      simp only [List.find?_cons, hsame]
      split <;> simp [htransform, ih]

end Network

namespace Build

theorem spawnPoint_eq (entities : List Artifact) (spaces : List Node) :
    spawnPoint entities spaces =
      ((entities.find? fun a => a.data.entityKind == .player || a.data.entityKind == .ship).map
        (fun a => Network.transform a.data)).getD (spawnPoint [] (spaces.take 1)) := by
  unfold spawnPoint
  cases entities.find? fun a => a.data.entityKind == .player || a.data.entityKind == .ship with
  | some a => rfl
  | none => cases spaces <;> rfl

theorem spawnPoint_of_resolve_none {spaces : List Node}
    (h : spaces.head?.bind (·.resolve spawnPointPaths) = none) :
    spawnPoint [] (spaces.take 1) = Transform.default := by
  cases spaces with
  | nil => rfl
  | cons s rest =>
      simp only [List.head?_cons, Option.bind_some] at h
      simp [spawnPoint, h]

end Build

namespace GameConfig

theorem playerSpawnPoint_eq {cfg : GameConfig} {flow : Json} {c : IdCounter} {m : MultiplayerData}
    (h : (cfg.buildMulti flow c).1 = .ok m) :
    m.playerSpawnPoint = Build.spawnPoint m.game.entities (Build.extract flow c).1.spaces :=
  (buildMulti_session h).1

/-- A multiplayer result has one wire record for each extracted entity, in order. -/
theorem networkEntities_of_buildMulti {cfg : GameConfig} {flow : Json} {c : IdCounter}
    {m : MultiplayerData} (h : (cfg.buildMulti flow c).1 = .ok m) :
    List.Forall₂ (fun n e => Network.entity n = .ok e) (Build.extract flow c).1.entities
      m.networkEntities := by
  obtain ⟨g, m', -, hspec, hm', -, hrel⟩ := buildMulti_spec cfg flow c
  have hsame : m' = m := by
    rw [hm'] at h
    exact Except.ok.inj h
  subst hsame
  rw [← hspec.entities.1, List.forall₂_map_left_iff]
  exact hrel.imp fun _ _ hae => hae.1

/-- The player's spawn point in a multiplayer result is the transform of the first wire record
typed `player` or `ship`. Without one, it is the spawn point of the first extracted space
alone, and the default transform when there is no space or the first has no `spawnPoint`. An
entity counts as a player or ship by its kind, which is player or ship exactly when its type
name is `player` or `ship`. -/
theorem spawn_point_follows_first_player_or_ship (cfg : GameConfig) (flow : Json) (c : IdCounter) :
    (∀ n : Node, (n.entityKind = .player ∨ n.entityKind = .ship) ↔
      (n.entityTypeName = "player" ∨ n.entityTypeName = "ship")) ∧
    ∃ m, (cfg.buildMulti flow c).1 = .ok m ∧
      (∀ e, m.networkEntities.find? (fun e => e.entityType == "player" || e.entityType == "ship") =
        some e → m.playerSpawnPoint = e.transform) ∧
      (m.networkEntities.find? (fun e => e.entityType == "player" || e.entityType == "ship") =
          none →
        m.playerSpawnPoint = Build.spawnPoint [] ((Build.extract flow c).1.spaces.take 1) ∧
        ((Build.extract flow c).1.spaces.head?.bind (·.resolve Build.spawnPointPaths) = none →
          m.playerSpawnPoint = Transform.default)) := by
  refine ⟨Node.entityKind_playerOrShip_iff, ?_⟩
  obtain ⟨g, m, -, -, hm, hgame, hrel⟩ := buildMulti_spec cfg flow c
  have hmulti : (cfg.buildMulti flow c).1 = .ok m := by rw [hm]
  have hspawn : m.playerSpawnPoint =
      ((m.networkEntities.find? fun e => e.entityType == "player" || e.entityType == "ship").map
        (·.transform)).getD (Build.spawnPoint [] ((Build.extract flow c).1.spaces.take 1)) := by
    rw [playerSpawnPoint_eq hmulti, hgame, Build.spawnPoint_eq, Network.find?_playerOrShip hrel]
  refine ⟨m, hmulti, fun e he => ?_, fun hnone => ?_⟩
  · rw [hspawn, he]
    rfl
  · have hfirst : m.playerSpawnPoint = Build.spawnPoint [] ((Build.extract flow c).1.spaces.take 1) := by
      rw [hspawn, hnone]
      rfl
    exact ⟨hfirst, fun hresolve => hfirst.trans (Build.spawnPoint_of_resolve_none hresolve)⟩

/-- A ship in the flow supplies the spawn point: its wire record is the one record, typed
`ship` once its type name `Ship` is read, and the player starts where the ship stands, away from
the default transform. An empty flow has no wire record and spawns the player at the default
transform. -/
theorem spawn_point_of_ship_or_empty_flow :
    (let ship : Node := ⟨some "s", .obj [("entityType", .str "Ship"),
        ("transform", .obj [("pos", .arr [.int 1, .int 2, .int 3])])]⟩
      let flow : Json := .obj [("updlSpace", .obj [("entities",
        .arr [.obj [("id", .str "s"), ("data", ship.data)]])])]
      ∃ m, (GameConfig.default.buildMulti flow ⟨0⟩).1 = .ok m ∧
        m.networkEntities.map (·.entityType) = ["ship"] ∧
        m.playerSpawnPoint = Network.transform ship ∧ m.playerSpawnPoint ≠ Transform.default) ∧
    ∃ m, (GameConfig.default.buildMulti .null ⟨0⟩).1 = .ok m ∧
      m.playerSpawnPoint = Transform.default := by
  constructor
  · intro ship flow
    obtain ⟨-, m, hm, hfound, -⟩ :=
      spawn_point_follows_first_player_or_ship GameConfig.default flow ⟨0⟩
    have hrel := networkEntities_of_buildMulti hm
    rw [show (Build.extract flow ⟨0⟩).1.entities = [ship] from rfl,
      List.forall₂_cons_left_iff] at hrel
    obtain ⟨e, es, he, hnil, hes⟩ := hrel
    rw [List.forall₂_nil_left_iff] at hnil
    subst hnil
    obtain ⟨htype, htransform⟩ := Network.entity_fields he
    have hship : ship.entityTypeName = "ship" := by decide +kernel
    have hspawn : m.playerSpawnPoint = Network.transform ship :=
      (hfound e (by simp [hes, htype, hship])).trans htransform
    refine ⟨m, hm, by simp [hes, htype, hship], hspawn, ?_⟩
    rw [hspawn]
    decide +kernel
  · obtain ⟨-, m, hm, -, hnone⟩ :=
      spawn_point_follows_first_player_or_ship GameConfig.default .null ⟨0⟩
    have hrel := networkEntities_of_buildMulti hm
    rw [show (Build.extract Json.null ⟨0⟩).1.entities = [] from rfl,
      List.forall₂_nil_left_iff] at hrel
    exact ⟨m, hm, (hnone (by rw [hrel]; rfl)).2 rfl⟩

end GameConfig

/-! ## A spawn point given as text -/

namespace Transform

theorem source?_of_ne_str {v : Json} (h : ∀ s, v ≠ .str s) : source? (some v) = some v := by
  cases v with
  | str s => exact absurd rfl (h s)
  | _ => rfl

end Transform

namespace Build

theorem noPlayerOrShip_of_nil {x : ExtractedNodes} (h : x.entities = []) :
    ∀ n ∈ x.entities, n.entityKind ≠ .player ∧ n.entityKind ≠ .ship := by
  rw [h]
  intro n hn
  cases hn

end Build

namespace GameConfig

theorem playerSpawnPoint_of_no_player {cfg : GameConfig} {flow : Json} {c : IdCounter}
    {m : MultiplayerData} (h : (cfg.buildMulti flow c).1 = .ok m)
    (hkind : ∀ n ∈ (Build.extract flow c).1.entities,
      n.entityKind ≠ .player ∧ n.entityKind ≠ .ship) :
    m.playerSpawnPoint = Build.spawnPoint [] (Build.extract flow c).1.spaces := by
  obtain ⟨g, m', -, hspec, hm', hgame, -⟩ := buildMulti_spec cfg flow c
  obtain rfl : m' = m := by
    rw [hm'] at h
    exact Except.ok.inj h
  have hnone : m'.game.entities.find?
      (fun a => a.data.entityKind == .player || a.data.entityKind == .ship) = none := by
    rw [List.find?_eq_none]
    intro a ha
    have hmem : a.data ∈ (Build.extract flow c).1.entities := by
      rw [← hspec.entities.1, ← hgame]
      exact List.mem_map_of_mem ha
    obtain ⟨hp, hs⟩ := hkind a.data hmem
    simp [hp, hs]
  rw [playerSpawnPoint_eq h, Build.spawnPoint_eq, hnone,
    Build.spawnPoint_eq [] (Build.extract flow c).1.spaces]
  rfl

/-- A first space's spawn point given as the compact text of a value places the player where
the value itself does, when the value is no string and no bare triple, is canonical, nests fewer
than `nestingRoom` levels, and each of its floats reads back from its own text (every integer a
document holds does, `Json.readsBack_int`). Both are then the transform the value describes. -/
theorem spawn_point_text_reads_as_value (cfg : GameConfig) (flow flow' : Json) (c c' : IdCounter)
    (v : Json)
    (hkind : ∀ n ∈ (Build.extract flow c).1.entities,
      n.entityKind ≠ .player ∧ n.entityKind ≠ .ship)
    (hkind' : ∀ n ∈ (Build.extract flow' c').1.entities,
      n.entityKind ≠ .player ∧ n.entityKind ≠ .ship)
    (hv : (Build.extract flow c).1.spaces.head?.bind (·.resolve Build.spawnPointPaths) = some v)
    (htext : (Build.extract flow' c').1.spaces.head?.bind (·.resolve Build.spawnPointPaths) =
      some (.str v.render))
    (hstr : ∀ s, v ≠ .str s) (hbare : Build.isBareTriple v = false) (hcanon : v.canonical = v)
    (hback : v.numbersReadBack = true) (hdepth : v.depth < Json.nestingRoom) :
    ∃ m m', (cfg.buildMulti flow c).1 = .ok m ∧ (cfg.buildMulti flow' c').1 = .ok m' ∧
      m.playerSpawnPoint = Transform.ofJson (some v) ∧ m'.playerSpawnPoint = m.playerSpawnPoint := by
  obtain ⟨m, hmulti⟩ := buildMulti_ok cfg flow c
  obtain ⟨m', hmulti'⟩ := buildMulti_ok cfg flow' c'
  have hspawn : m.playerSpawnPoint = Transform.ofJson (some v) := by
    rw [playerSpawnPoint_of_no_player hmulti hkind]
    simp only [Build.spawnPoint, List.find?_nil, hv, hbare, Bool.false_eq_true, if_false]
  have hspawn' : m'.playerSpawnPoint = Transform.ofJson (some v) := by
    rw [playerSpawnPoint_of_no_player hmulti' hkind']
    simp only [Build.spawnPoint, List.find?_nil, htext, Build.isBareTriple, Bool.false_eq_true,
      if_false]
    unfold Transform.ofJson
    rw [Transform.source?, Json.parseCanonical_render hback hdepth hcanon,
      Transform.source?_of_ne_str hstr]
  exact ⟨m, m', hmulti, hmulti', hspawn, hspawn'.trans hspawn.symm⟩

/-- A spawn point given as the object `{"position": {"x": 1, "y": 2, "z": 3}}` and one given as
its compact text place the player alike. -/
theorem spawn_point_text_of_position :
    let v : Json := .obj [("position", .obj [("x", .int 1), ("y", .int 2), ("z", .int 3)])]
    let flow : Json := .obj [("updlSpace", .obj [("data", .obj [("spawnPoint", v)])])]
    let flow' : Json := .obj [("updlSpace", .obj [("data", .obj [("spawnPoint",
      .str "\x7b\"position\":\x7b\"x\":1,\"y\":2,\"z\":3\x7d\x7d")])])]
    ∃ m m', (GameConfig.default.buildMulti flow ⟨1⟩).1 = .ok m ∧
      (GameConfig.default.buildMulti flow' ⟨1⟩).1 = .ok m' ∧
      m.playerSpawnPoint = Transform.ofJson (some v) ∧ m'.playerSpawnPoint = m.playerSpawnPoint := by
  intro v flow flow'
  exact spawn_point_text_reads_as_value GameConfig.default flow flow' ⟨1⟩ ⟨1⟩ v
    (Build.noPlayerOrShip_of_nil rfl) (Build.noPlayerOrShip_of_nil rfl) rfl rfl (fun s h => Json.noConfusion h) rfl rfl
    (by decide +kernel) (by decide)

/-- A bare triple and its compact text place the player apart: the array `[1, 2, 3]` moves the
player to `(1, 2, 3)`, while its text is read as JSON, is no object, and leaves the player at the
default transform. -/
theorem spawn_point_text_of_triple_differs :
    let v : Json := .arr [.int 1, .int 2, .int 3]
    let flow : Json := .obj [("updlSpace", .obj [("data", .obj [("spawnPoint", v)])])]
    let flow' : Json := .obj [("updlSpace", .obj [("data", .obj [("spawnPoint", .str "[1,2,3]")])])]
    (Build.extract flow' ⟨1⟩).1.spaces.head?.bind (·.resolve Build.spawnPointPaths) =
        some (.str v.render) ∧
      ∃ m m', (GameConfig.default.buildMulti flow ⟨1⟩).1 = .ok m ∧
        (GameConfig.default.buildMulti flow' ⟨1⟩).1 = .ok m' ∧
        m.playerSpawnPoint = Transform.placedAt
          ⟨Binary64.ofInt 1, Binary64.ofInt 2, Binary64.ofInt 3⟩ ∧
        m'.playerSpawnPoint = Transform.default ∧ m.playerSpawnPoint ≠ m'.playerSpawnPoint := by
  intro v flow flow'
  obtain ⟨m, hmulti⟩ := buildMulti_ok GameConfig.default flow ⟨1⟩
  obtain ⟨m', hmulti'⟩ := buildMulti_ok GameConfig.default flow' ⟨1⟩
  have hspawn : m.playerSpawnPoint =
      Transform.placedAt ⟨Binary64.ofInt 1, Binary64.ofInt 2, Binary64.ofInt 3⟩ := by
    rw [playerSpawnPoint_of_no_player hmulti (Build.noPlayerOrShip_of_nil rfl)]
    decide +kernel
  have hspawn' : m'.playerSpawnPoint = Transform.default := by
    rw [playerSpawnPoint_of_no_player hmulti' (Build.noPlayerOrShip_of_nil rfl)]
    decide +kernel
  refine ⟨rfl, m, m', hmulti, hmulti', hspawn, hspawn', ?_⟩
  rw [hspawn, hspawn']
  decide +kernel

end GameConfig

end SceneScript
