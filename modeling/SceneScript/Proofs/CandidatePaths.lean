import Mathlib
import SceneScript.Compile.Params

/-!
# Candidate paths: the first defined value, not the first number

A parameter of a node may sit at several paths, tried in order. `Node.number?` takes the value
at the first path that is defined (present and not `null`) and only then reads it as a number,
so a first defined value that is not a number hides every later path: the parameter falls back
to its default. The rule "the first numeric value wins" (`Node.firstNumber?`) passes over such a
value and goes on to the next path. The two agree exactly when the first defined value, if any,
reads as a number.

The same shape, "find the first defined item, then read it", returns in the server settings of a
multiplayer build, so the agreement is proved once for `List.findSome?`
(`findSome?_bind_of_isSome`).

Main statement: `trading_reads_first_defined_value`, the price per ton and the interaction range
of a trading post under both rules.
-/

namespace SceneScript

/-- Reading the first item that `f` finds with `g` is finding the first item that reads, as long
as whatever `f` finds first reads. -/
theorem findSome?_bind_of_isSome {α β γ : Type} {l : List α} {f : α → Option β}
    {g : β → Option γ} (h : ∀ b, l.findSome? f = some b → (g b).isSome) :
    (l.findSome? f).bind g = l.findSome? fun a => (f a).bind g := by
  induction l with
  | nil => rfl
  | cons a l ih =>
    rw [List.findSome?_cons] at h
    rw [List.findSome?_cons, List.findSome?_cons]
    cases hfa : f a with
    | none =>
      rw [hfa] at h
      exact ih h
    | some b =>
      rw [hfa] at h
      obtain ⟨c, hc⟩ := Option.isSome_iff_exists.1 (h b rfl)
      simp only [Option.bind_some, hc]

namespace Node

/-- The first number at the paths, in order: a path whose value is missing, `null`, or does not
read as a number is passed over. -/
def firstNumber? (n : Node) (paths : List (List String)) : Option Binary64 :=
  paths.findSome? fun p => (n.data.lookup p).bind Json.toNumber?

theorem number?_eq_firstNumber? {n : Node} {ps : List (List String)}
    (h : ∀ v, n.resolve ps = some v → (Json.toNumber? v).isSome) :
    n.number? ps = n.firstNumber? ps :=
  findSome?_bind_of_isSome h

theorem number?_eq_none {n : Node} {ps : List (List String)} {v : Json}
    (hv : n.resolve ps = some v) (hnum : Json.toNumber? v = none) : n.number? ps = none := by
  rw [number?, hv, Option.bind_some, hnum]

theorem nonNegative_number?_getD (n : Node) (ps : List (List String)) (d : Binary64) :
    ((∀ v, n.resolve ps = some v → (Json.toNumber? v).isSome) →
      (Binary64.nonNegative? (n.number? ps)).getD d =
        (Binary64.nonNegative? (n.firstNumber? ps)).getD d) ∧
    (∀ v, n.resolve ps = some v → Json.toNumber? v = none →
      (Binary64.nonNegative? (n.number? ps)).getD d = d) := by
  refine ⟨fun h => by rw [number?_eq_firstNumber? h], fun v hv hnum => ?_⟩
  rw [number?_eq_none hv hnum]
  rfl

end Node

namespace TradingParams

/-- A trading post's price per ton and interaction range are read at five candidate paths each.
Each follows the first number at its paths, kept when at least zero (else the default 10 or
15), when the first defined value is a number or none is defined. When the first defined value
is not a number, the setting is its default even if a later path holds a number. -/
theorem trading_reads_first_defined_value (n : Node) :
    ((∀ v, n.resolve pricePerTonPaths = some v → (Json.toNumber? v).isSome) →
      (ofNode n).pricePerTon =
        (Binary64.nonNegative? (n.firstNumber? pricePerTonPaths)).getD default.pricePerTon) ∧
    (∀ v, n.resolve pricePerTonPaths = some v → Json.toNumber? v = none →
      (ofNode n).pricePerTon = default.pricePerTon) ∧
    ((∀ v, n.resolve interactionRangePaths = some v → (Json.toNumber? v).isSome) →
      (ofNode n).interactionRange =
        (Binary64.nonNegative? (n.firstNumber? interactionRangePaths)).getD
          default.interactionRange) ∧
    (∀ v, n.resolve interactionRangePaths = some v → Json.toNumber? v = none →
      (ofNode n).interactionRange = default.interactionRange) :=
  ⟨(n.nonNegative_number?_getD pricePerTonPaths _).1,
    (n.nonNegative_number?_getD pricePerTonPaths _).2,
    (n.nonNegative_number?_getD interactionRangePaths _).1,
    (n.nonNegative_number?_getD interactionRangePaths _).2⟩

/-- A price under `inputs` comes before one under `properties`, and it is a number: the post
follows the first number. -/
theorem trading_reads_inputs_price_first :
    let n : Node := ⟨some "t", .obj [("inputs", .obj [("pricePerTon", .int 25)]),
      ("properties", .obj [("pricePerTon", .int 99)])]⟩
    (∀ v, n.resolve pricePerTonPaths = some v → (Json.toNumber? v).isSome) ∧
      (ofNode n).pricePerTon =
        (Binary64.nonNegative? (n.firstNumber? pricePerTonPaths)).getD default.pricePerTon := by
  intro n
  have hfirst : ∀ v, n.resolve pricePerTonPaths = some v → (Json.toNumber? v).isSome := by
    intro v hv
    have hres : n.resolve pricePerTonPaths = some (.int 25) := rfl
    rw [hres, Option.some.injEq] at hv
    subst hv
    decide +kernel
  exact ⟨hfirst, (trading_reads_first_defined_value n).1 hfirst⟩

/-- A price that is not a number, written directly, hides the number under `inputs`: the first
number is 25, yet the post buys at the default 10. -/
theorem trading_price_hidden_by_text :
    let n : Node := ⟨some "t", .obj [("inputs", .obj [("pricePerTon", .int 25)]),
      ("pricePerTon", .str "junk")]⟩
    n.firstNumber? pricePerTonPaths = some (Binary64.ofInt 25) ∧
      (ofNode n).pricePerTon = Binary64.ofNat 10 ∧ Binary64.ofNat 10 ≠ Binary64.ofInt 25 := by
  decide +kernel

end TradingParams

end SceneScript
