import Mathlib
import SceneScript.Proofs.Compilers

/-!
# Builds

A build first assigns ids, then compiles each category from the counter assignment left
behind. Since every node then has a usable id, no compiler draws from the counter (the
compilers' contracts), every compiler returns a script (the faultless readers), and so:

* the single-player result has one artifact per extracted node in each category, entities,
  spaces and lights compiled node by node and the other categories sharing one script, and
  the counter ends where assignment left it (`build_assigns_ids_in_category_order`);
* a multiplayer build is the single-player build plus the wire records of its entities, and
  the configured build is the one of its mode (`multiplayer_extends_single_player`);
* no build fails (`build_never_fails`).
-/

namespace SceneScript


/-! ## Categories -/

namespace Build

/-- Artifacts compiled one node at a time: one per node, in order, each carrying the node's
usable id and the script `compile` returns for that node without drawing from the counter. -/
def EachCompiled (compile : Node → IdCounter → Except Fault String × IdCounter)
    (nodes : List Node) (c : IdCounter) (arts : List Artifact) : Prop :=
  arts.map Artifact.data = nodes ∧
    ∀ a ∈ arts, a.data.id? = some a.id ∧ compile a.data c = (.ok a.script, c)

/-- Artifacts that share one script: one per node, in order, each carrying the node's usable id
and the script `process` returns for the whole list without drawing from the counter. -/
def SharedCompiled (process : List Node → IdCounter → Except Fault String × IdCounter)
    (nodes : List Node) (c : IdCounter) (arts : List Artifact) : Prop :=
  arts.map Artifact.data = nodes ∧
    ∀ a ∈ arts, a.data.id? = some a.id ∧ process nodes c = (.ok a.script, c)

theorem id?_artifact {n : Node} (h : n.id?.isSome) (s : String) :
    n.id? = some (artifact n s).id := by
  obtain ⟨i, hi⟩ := Option.isSome_iff_exists.1 h
  simp [artifact, hi]

@[simp] theorem next_ok {α β : Type} (a : α) (c : IdCounter)
    (f : α → IdCounter → Except Fault β × IdCounter) : next (.ok a, c) f = f a c := rfl

theorem compileEach_spec (category : String)
    (compile : Node → IdCounter → Except Fault String × IdCounter) (c : IdCounter)
    {nodes : List Node} (hid : ∀ n ∈ nodes, n.id?.isSome)
    (h : ∀ n ∈ nodes, ∃ s, compile n c = (.ok s, c)) :
    ∃ arts, compileEach category compile nodes c = (.ok arts, c) ∧
      EachCompiled compile nodes c arts := by
  induction nodes with
  | nil => exact ⟨[], rfl, rfl, by simp⟩
  | cons n rest ih =>
      obtain ⟨s, hs⟩ := h n (by simp)
      obtain ⟨arts, harts, hdata, hall⟩ :=
        ih (fun m hm => hid m (by simp [hm])) (fun m hm => h m (by simp [hm]))
      refine ⟨artifact n s :: arts, ?_, by simp [artifact, hdata], ?_⟩
      · unfold compileEach
        rw [hs]
        simp only [harts]
        rfl
      · intro a ha
        rcases List.mem_cons.1 ha with rfl | ha
        · exact ⟨id?_artifact (hid n (by simp)) s, hs⟩
        · exact hall a ha

theorem fanOut_spec (category : String)
    (process : List Node → IdCounter → Except Fault String × IdCounter) (c : IdCounter)
    {nodes : List Node} (hid : ∀ n ∈ nodes, n.id?.isSome)
    (h : nodes ≠ [] → ∃ s, process nodes c = (.ok s, c)) :
    ∃ arts, fanOut category process nodes c = (.ok arts, c) ∧
      SharedCompiled process nodes c arts := by
  unfold fanOut
  split
  · rename_i hempty
    refine ⟨[], rfl, by simp [List.isEmpty_iff.1 hempty], by simp⟩
  · rename_i hne
    obtain ⟨s, hs⟩ := h (by simpa using hne)
    refine ⟨nodes.map (artifact · s), by simp [hs, Except.mapError, Except.map], ?_, ?_⟩
    · simp [artifact, Function.comp_def]
    · intro a ha
      obtain ⟨n, hn, rfl⟩ := List.mem_map.1 ha
      exact ⟨id?_artifact (hid n hn) s, hs⟩


theorem compileLights_spec (opts : CompileOptions) (c : IdCounter) {lights : List Node}
    (hid : ∀ n ∈ lights, n.id?.isSome) :
    ∃ ls, compileLights opts lights c = (.ok ls, c) ∧ (ls = none ↔ lights = []) ∧
      EachCompiled (LightScript.compile opts) lights c (ls.getD []) := by
  unfold compileLights
  split
  · rename_i hempty
    exact ⟨none, rfl, by simpa using hempty, by simp [EachCompiled, List.isEmpty_iff.1 hempty]⟩
  · rename_i hne
    obtain ⟨arts, harts, hspec⟩ := compileEach_spec "lights" (LightScript.compile opts) c hid fun n hn => by
      simpa [Node.idOrDraw_snd_of_isSome (hid n hn)] using LightScript.compile_ok opts n c
    refine ⟨some arts, by simp [harts, Except.map], by simpa using hne, hspec⟩

end Build

/-! ## Single-player results -/

/-- What a single-player result holds, for extracted nodes `x` that all have usable ids and the
counter `c`: entities, spaces and lights compiled one node at a time, the other categories
sharing one script per category, no lights exactly when none were extracted, and nothing drawn
from the counter. -/
structure GameData.Compiled (opts : CompileOptions) (x : ExtractedNodes) (c : IdCounter)
    (g : GameData) : Prop where
  entities : Build.EachCompiled (EntityScript.compile opts) x.entities c g.entities
  spaces : Build.EachCompiled (SpaceScript.compile opts) x.spaces c g.spaces
  components : Build.SharedCompiled (ComponentScript.process opts) x.components c g.components
  actions : Build.SharedCompiled (Build.infallible (ActionScript.process opts)) x.actions c
    g.actions
  events : Build.SharedCompiled (Build.infallible (EventScript.process opts)) x.events c g.events
  datas : Build.SharedCompiled (DataScript.process opts) x.datas c g.datas
  lights_eq_none : g.lights = none ↔ x.lights = []
  lights : Build.EachCompiled (LightScript.compile opts) x.lights c (g.lights.getD [])

namespace Build

theorem singlePlayer_spec (opts : CompileOptions) {x : ExtractedNodes} (hx : x.HasIds)
    (c : IdCounter) : ∃ g, singlePlayer opts x c = (.ok g, c) ∧ g.Compiled opts x c := by
  obtain ⟨hspaces, hentities, hcomponents, hevents, hactions, hdatas, hlights⟩ := hx.categories
  obtain ⟨lights, hl, hl₀, hl₁⟩ := compileLights_spec opts c hlights
  obtain ⟨entities, he, he₁⟩ := compileEach_spec "entities" (EntityScript.compile opts) c
    hentities fun n hn => by
      simpa [Node.idOrDraw_snd_of_isSome (hentities n hn)] using EntityScript.compile_ok opts n c
  obtain ⟨spaces, hs, hs₁⟩ := compileEach_spec "spaces" (SpaceScript.compile opts) c
    hspaces fun n hn => by
      simpa [Node.idOrDraw_snd_of_isSome (hspaces n hn)] using SpaceScript.compile_ok opts n c
  obtain ⟨components, hc, hc₁⟩ := fanOut_spec "components" (ComponentScript.process opts) c
    hcomponents fun _ => by
      simpa [assignIds_of_isSome _ hcomponents] using
        ComponentScript.process_ok opts x.components c
  obtain ⟨actions, ha, ha₁⟩ := fanOut_spec "actions" (infallible (ActionScript.process opts)) c
    hactions fun _ => by
      have hcount := ActionScript.process_counter opts x.actions c
      simp only [assignIds_of_isSome _ hactions] at hcount
      exact ⟨(ActionScript.process opts x.actions c).1, by simp [infallible, hcount]⟩
  obtain ⟨events, hv, hv₁⟩ := fanOut_spec "events" (infallible (EventScript.process opts)) c
    hevents fun _ => by
      have hcount := EventScript.process_counter opts x.events c
      simp only [assignIds_of_isSome _ hevents] at hcount
      exact ⟨(EventScript.process opts x.events c).1, by simp [infallible, hcount]⟩
  obtain ⟨datas, hd, hd₁⟩ := fanOut_spec "datas" (DataScript.process opts) c hdatas fun _ => by
    simpa [assignIds_of_isSome _ hdatas] using DataScript.process_ok opts x.datas c
  exact ⟨⟨entities, spaces, components, actions, events, datas, lights⟩,
    by simp [singlePlayer, hl, he, hs, hc, ha, hv, hd], ⟨he₁, hs₁, hc₁, ha₁, hv₁, hd₁, hl₀, hl₁⟩⟩

end Build


/-! ## Wire records -/

namespace Network

theorem entity_id {n : Node} {e : NetworkEntity} (h : entity n = .ok e) :
    e.id = n.id?.getD "" := by
  obtain ⟨v, hv⟩ := visual_ok n
  simp only [entity, hv, ok_bind] at h
  cases h
  rfl

theorem mapM_entity (arts : List Artifact) (hid : ∀ a ∈ arts, a.data.id? = some a.id) :
    ∃ es, arts.mapM (fun a => entity a.data) = .ok es ∧
      List.Forall₂ (fun a e => entity a.data = .ok e ∧ e.id = a.id) arts es := by
  induction arts with
  | nil => exact ⟨[], rfl, .nil⟩
  | cons a rest ih =>
      obtain ⟨e, he⟩ := entity_ok a.data
      obtain ⟨es, hes, hrel⟩ := ih (fun b hb => hid b (by simp [hb]))
      have hsame : e.id = a.id := by simp [entity_id he, hid a (by simp)]
      exact ⟨e :: es, by simp [List.mapM_cons, he, hes], .cons ⟨he, hsame⟩ hrel⟩

end Network

namespace GameConfig

theorem buildSingle_spec (cfg : GameConfig) (flow : Json) (c : IdCounter) :
    ∃ g, cfg.buildSingle flow c = (.ok g, (Build.extract flow c).2) ∧
      g.Compiled cfg.compile (Build.extract flow c).1 (Build.extract flow c).2 :=
  Build.singlePlayer_spec cfg.compile (Build.hasIds_assignAll _ _) _

theorem buildMulti_spec (cfg : GameConfig) (flow : Json) (c : IdCounter) :
    ∃ g m, cfg.buildSingle flow c = (.ok g, (Build.extract flow c).2) ∧
      g.Compiled cfg.compile (Build.extract flow c).1 (Build.extract flow c).2 ∧
      cfg.buildMulti flow c = (.ok m, (Build.extract flow c).2) ∧ m.game = g ∧
      List.Forall₂ (fun a e => Network.entity a.data = .ok e ∧ e.id = a.id) g.entities
        m.networkEntities := by
  obtain ⟨g, hg, hspec⟩ := buildSingle_spec cfg flow c
  obtain ⟨es, hes, hrel⟩ := Network.mapM_entity g.entities fun a ha => (hspec.entities.2 a ha).1
  have hsingle : Build.singlePlayer cfg.compile (Build.extract flow c).1 (Build.extract flow c).2 =
      (.ok g, (Build.extract flow c).2) := hg
  refine ⟨g, ?m, hg, hspec, ?multi, ?game, ?entities⟩
  case multi =>
    simp only [buildMulti, hsingle, Build.next_ok, hes, ok_bind]
    rfl
  case game => rfl
  case entities => exact hrel

theorem buildMulti_session {cfg : GameConfig} {flow : Json} {c : IdCounter} {m : MultiplayerData}
    (h : (cfg.buildMulti flow c).1 = .ok m) :
    m.playerSpawnPoint = Build.spawnPoint m.game.entities (Build.extract flow c).1.spaces ∧
      m.authScreen = Build.authScreen (Build.extract flow c).1.spaces.head? ∧
      m.server = Build.serverConfig cfg.multiplayer (Build.extract flow c).1.universo := by
  obtain ⟨g, hg, hspec⟩ := buildSingle_spec cfg flow c
  obtain ⟨es, hes, -⟩ := Network.mapM_entity g.entities fun a ha => (hspec.entities.2 a ha).1
  have hsingle : Build.singlePlayer cfg.compile (Build.extract flow c).1 (Build.extract flow c).2 =
      (.ok g, (Build.extract flow c).2) := hg
  simp only [buildMulti, hsingle, Build.next_ok, hes, ok_bind, pure, Except.pure,
    Except.ok.injEq] at h
  subst h
  exact ⟨rfl, rfl, rfl⟩

theorem buildMulti_ok (cfg : GameConfig) (flow : Json) (c : IdCounter) :
    ∃ m, (cfg.buildMulti flow c).1 = .ok m := by
  obtain ⟨-, m, -, -, hm, -⟩ := buildMulti_spec cfg flow c
  exact ⟨m, by rw [hm]⟩

theorem buildSingle_compile (cfg : GameConfig) (mode : GameMode) (mp : MultiplayerConfig)
    (flow : Json) (c : IdCounter) :
    ({ cfg with gameMode := mode, multiplayer := mp } : GameConfig).buildSingle flow c =
      cfg.buildSingle flow c := rfl

theorem build_of_ok {cfg : GameConfig} {flow : Json} {c c' : IdCounter} {g : GameData}
    {m : MultiplayerData} (hg : cfg.buildSingle flow c = (.ok g, c'))
    (hm : cfg.buildMulti flow c = (.ok m, c')) :
    cfg.build flow c = (.ok (match cfg.gameMode with
      | .singleplayer => .singleplayer g
      | .multiplayer => .multiplayer m), c') := by
  unfold build
  cases cfg.gameMode with
  | singleplayer => simp [hg, Except.map]
  | multiplayer => simp [hm, Except.map]

/-! ## Builds -/

/-- One build assigns ids in category order from the counter's start `n`, and the counter then
stays where assignment left it: no compiler draws another id. -/
theorem build_assigns_ids_in_category_order (cfg : GameConfig) (flow : Json) (n : Nat) :
    let x := ExtractedNodes.ofJson flow
    let y := (Build.extract flow (IdCounter.startingAt n)).1
    let c := IdCounter.startingAt (n + missingIds (x.tagged.map Prod.snd))
    y.tagged = assignedFrom n x.tagged ∧
      (∃ g, cfg.buildSingle flow (IdCounter.startingAt n) = (.ok g, c) ∧
        g.Compiled cfg.compile y c) ∧
      (∃ m, cfg.buildMulti flow (IdCounter.startingAt n) = (.ok m, c) ∧
        m.game.Compiled cfg.compile y c) := by
  intro x y c
  obtain ⟨htagged, hcount⟩ := Build.assignAll_spec x (IdCounter.startingAt n)
  rw [IdCounter.startingAt_next, assignedFrom_mod] at htagged
  rw [IdCounter.startingAt_next, Nat.mod_add_mod] at hcount
  have hc : (Build.extract flow (IdCounter.startingAt n)).2 = c := IdCounter.eq_startingAt hcount
  obtain ⟨g, m, hg, hspec, hm, hgame, -⟩ :=
    GameConfig.buildMulti_spec cfg flow (IdCounter.startingAt n)
  rw [hc] at hg hm hspec
  exact ⟨htagged, ⟨g, hg, hspec⟩, ⟨m, hm, hgame ▸ hspec⟩⟩

/-- A multiplayer build is the single-player build of the same flow, from the same counter, plus
the entities' wire records; the single-player build reads only the compile options. -/
theorem multiplayer_extends_single_player (cfg : GameConfig) (flow : Json) (c : IdCounter) :
    ∃ g m c', cfg.buildMulti flow c = (.ok m, c') ∧ m.game = g ∧
      (∀ mode mp, ({ cfg with gameMode := mode, multiplayer := mp } : GameConfig).buildSingle
        flow c = (.ok g, c')) ∧
      List.Forall₂ (fun a e => Network.entity a.data = .ok e ∧ e.id = a.id) g.entities
        m.networkEntities ∧
      cfg.build flow c = (.ok (match cfg.gameMode with
        | .singleplayer => .singleplayer g
        | .multiplayer => .multiplayer m), c') := by
  obtain ⟨g, m, hg, -, hm, hgame, hrel⟩ := GameConfig.buildMulti_spec cfg flow c
  refine ⟨g, m, _, hm, hgame, fun mode mp => ?_, hrel, GameConfig.build_of_ok hg hm⟩
  rw [GameConfig.buildSingle_compile, hg]

/-- Every build returns a result: no panic and no compile error, for any flow. -/
theorem build_never_fails (cfg : GameConfig) (flow : Json) (c : IdCounter) :
    (∃ g, (cfg.buildSingle flow c).1 = .ok g) ∧ (∃ m, (cfg.buildMulti flow c).1 = .ok m) ∧
      ∃ out, (cfg.build flow c).1 = .ok out := by
  obtain ⟨g, m, hg, -, hm, -⟩ := GameConfig.buildMulti_spec cfg flow c
  refine ⟨⟨g, by rw [hg]⟩, ⟨m, by rw [hm]⟩, ?_⟩
  rw [GameConfig.build_of_ok hg hm]
  exact ⟨_, rfl⟩

end GameConfig

end SceneScript
