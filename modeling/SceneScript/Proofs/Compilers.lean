import Mathlib
import SceneScript.Proofs.Faultless
import SceneScript.Proofs.IdAssignment

/-!
# What each compiler does with the counter

Every category compiler returns a script, for every node and every counter, and moves the counter
exactly as drawing ids for its nodes would: a node compiler as `Node.idOrDraw` with its prefix,
a list compiler as `Build.assignIds` over its list. A node that already has a usable id
therefore costs no draw. The lemmas here are the compilers' contracts; the build proofs cite
them and never open a compiler.

A fragment that cannot fail for any writer is turned into a function by `Classical.skolem`, so
that a compiler's writer, however long, is rewritten without being spelled out.
-/

namespace SceneScript


namespace ComponentScript

theorem attachInto_ok (comp : AttachedComponent) (var : String) (w : ScriptWriter) :
    ∃ r, attachInto comp var w = .ok r := by
  unfold attachInto
  split
  · rename_i fragment h
    obtain ⟨w', hw⟩ := Fragment.attach?_ok h w
    simp [hw]
  · exact ⟨_, rfl⟩

theorem writeBlock_ok (n : Node) (c : IdCounter) (w : ScriptWriter) :
    ∃ w', writeBlock n c w = (.ok w', (n.idOrDraw "component" c).2) := by
  obtain ⟨fragment, hfragment⟩ :=
    Classical.skolem.1 (Creation.fragment_ok (ComponentKind.parse n.componentTypeName) n)
  simp [writeBlock, Script.json_eq, hfragment]

theorem writeBlocks_ok (nodes : List Node) (c : IdCounter) (w : ScriptWriter) :
    ∃ w', writeBlocks nodes c w = (.ok w', (Build.assignIds "component" nodes c).2) := by
  induction nodes generalizing c w with
  | nil => exact ⟨w, rfl⟩
  | cons n rest ih =>
      obtain ⟨w₁, h₁⟩ := writeBlock_ok n c w
      obtain ⟨w₂, h₂⟩ := ih (n.idOrDraw "component" c).snd w₁
      refine ⟨w₂, ?_⟩
      rw [Build.assignIds_cons_counter]
      unfold writeBlocks
      rw [h₁]
      exact h₂

theorem process_ok (opts : CompileOptions) (nodes : List Node) (c : IdCounter) :
    ∃ s, process opts nodes c = (.ok s, (Build.assignIds "component" nodes c).2) := by
  obtain ⟨w, hw⟩ := writeBlocks_ok nodes c (ScriptWriter.start opts.includeComments)
  simp only [process, hw]
  exact ⟨_, rfl⟩

end ComponentScript

namespace EntityScript

theorem attachAll_ok (comps : List AttachedComponent) (w : ScriptWriter) :
    ∃ w', attachAll comps w = .ok w' := by
  induction comps generalizing w with
  | nil => exact ⟨w, rfl⟩
  | cons comp rest ih =>
      obtain ⟨r, hr⟩ := ComponentScript.attachInto_ok comp "entity" w
      simp [attachAll, hr, ih]

theorem compile_ok (opts : CompileOptions) (n : Node) (c : IdCounter) :
    ∃ s, compile opts n c = (.ok s, (n.idOrDraw "entity" c).2) := by
  obtain ⟨attach, hattach⟩ := Classical.skolem.1 (attachAll_ok n.attachedComponents)
  simp [compile, Script.json_eq, hattach]
  split <;> exact ⟨_, rfl⟩

end EntityScript


namespace SpaceScript

theorem compile_ok (opts : CompileOptions) (n : Node) (c : IdCounter) :
    ∃ s, compile opts n c = (.ok s, (n.idOrDraw "space" c).2) := by
  obtain ⟨settings, hsettings⟩ := SpaceSettings.ofNode_ok n (n.idOrDraw "space" c).1
  simp [compile, hsettings, Script.json_eq]

end SpaceScript

namespace LightScript

theorem compile_ok (opts : CompileOptions) (n : Node) (c : IdCounter) :
    ∃ s, compile opts n c = (.ok s, (n.idOrDraw "light" c).2) := by
  obtain ⟨color, hcolor⟩ := Color.resolve_ok n.data
  simp [compile, hcolor, Rgb.scaled_eq]
  split <;> exact ⟨_, rfl⟩

end LightScript

namespace DataScript

theorem writeEntry_ok (n : Node) (c : IdCounter) (w : ScriptWriter) :
    ∃ w', writeEntry n c w = (.ok w', (n.idOrDraw "data" c).2) := by
  simp [writeEntry, Script.json_eq]

theorem writeEntries_ok (nodes : List Node) (c : IdCounter) (w : ScriptWriter) :
    ∃ w', writeEntries nodes c w = (.ok w', (Build.assignIds "data" nodes c).2) := by
  induction nodes generalizing c w with
  | nil => exact ⟨w, rfl⟩
  | cons n rest ih =>
      obtain ⟨w₁, h₁⟩ := writeEntry_ok n c w
      obtain ⟨w₂, h₂⟩ := ih (n.idOrDraw "data" c).snd w₁
      refine ⟨w₂, ?_⟩
      rw [Build.assignIds_cons_counter]
      unfold writeEntries
      rw [h₁]
      exact h₂

theorem process_ok (opts : CompileOptions) (nodes : List Node) (c : IdCounter) :
    ∃ s, process opts nodes c = (.ok s, (Build.assignIds "data" nodes c).2) := by
  unfold process
  split
  · rename_i h
    simp [List.isEmpty_iff.1 h, Build.assignIds]
  · obtain ⟨write, hwrite⟩ := Classical.skolem.1 (writeEntries_ok nodes c)
    simp only [hwrite]
    exact ⟨_, rfl⟩

end DataScript

namespace ActionScript

theorem writeActions_counter (nodes : List Node) (c : IdCounter) (w : ScriptWriter) :
    (writeActions nodes c w).2 = (Build.assignIds "action" nodes c).2 := by
  induction nodes generalizing c w with
  | nil => rfl
  | cons n rest ih =>
      rw [Build.assignIds_cons_counter, ← ih (n.idOrDraw "action" c).snd ((writeAction n c w).1)]
      rfl

theorem process_counter (opts : CompileOptions) (nodes : List Node) (c : IdCounter) :
    (process opts nodes c).2 = (Build.assignIds "action" nodes c).2 := by
  unfold process
  split
  · rename_i h
    simp [List.isEmpty_iff.1 h, Build.assignIds]
  · exact writeActions_counter nodes c _

end ActionScript

namespace EventScript

theorem writeEvents_counter (nodes : List Node) (c : IdCounter) (w : ScriptWriter) :
    (writeEvents nodes c w).2 = (Build.assignIds "event" nodes c).2 := by
  induction nodes generalizing c w with
  | nil => rfl
  | cons n rest ih =>
      rw [Build.assignIds_cons_counter, ← ih (n.idOrDraw "event" c).snd ((writeEvent n c w).1)]
      rfl

theorem process_counter (opts : CompileOptions) (nodes : List Node) (c : IdCounter) :
    (process opts nodes c).2 = (Build.assignIds "event" nodes c).2 := by
  unfold process
  split
  · rename_i h
    simp [List.isEmpty_iff.1 h, Build.assignIds]
  · exact writeEvents_counter nodes c _

end EventScript

end SceneScript
