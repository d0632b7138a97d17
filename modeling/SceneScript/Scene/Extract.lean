import SceneScript.Scene.Flow

/-!
# Extracted nodes

Extraction sorts the nodes of a flow by role into eight categories. Each space contributes
itself (as a node) to `spaces` and its lists to the other categories, `lights` taking its
`lights` then its `light` entries. The scenes of the multi-scene container come first, in
order (a scene without space data contributes nothing), then the single space. A value that
is not a flow extracts to nothing.

Categories are independent: one id may appear in several of them and is never merged.
-/

namespace SceneScript

structure ExtractedNodes where
  spaces : List Node
  entities : List Node
  components : List Node
  events : List Node
  actions : List Node
  datas : List Node
  universo : List Node
  lights : List Node
  deriving Repr

namespace ExtractedNodes

def empty : ExtractedNodes := ⟨[], [], [], [], [], [], [], []⟩

def append (a b : ExtractedNodes) : ExtractedNodes :=
  ⟨a.spaces ++ b.spaces, a.entities ++ b.entities, a.components ++ b.components,
   a.events ++ b.events, a.actions ++ b.actions, a.datas ++ b.datas,
   a.universo ++ b.universo, a.lights ++ b.lights⟩

instance : Append ExtractedNodes := ⟨append⟩

def total (x : ExtractedNodes) : Nat :=
  x.spaces.length + x.entities.length + x.components.length + x.events.length +
    x.actions.length + x.datas.length + x.universo.length + x.lights.length

def ofSpace (s : Space) : ExtractedNodes :=
  ⟨[s.asNode], s.entities, s.components, s.events, s.actions, s.datas, s.universo, s.lights⟩

def ofScenes : List SceneEntry → ExtractedNodes
  | [] => empty
  | e :: rest =>
      match e.spaceData with
      | some s => ofSpace s ++ ofScenes rest
      | none => ofScenes rest

/-- The nodes of a flow: its scenes, then its single space. -/
def ofFlow (f : Flow) : ExtractedNodes :=
  (match f.multiScene with
    | some scenes => ofScenes scenes
    | none => empty) ++
  (match f.updlSpace with
    | some s => ofSpace s
    | none => empty)

/-- The nodes of any value: nothing when it is not a flow. -/
def ofJson (v : Json) : ExtractedNodes :=
  match Flow.ofJson v with
  | .ok f => ofFlow f
  | .error _ => empty

end ExtractedNodes

end SceneScript
