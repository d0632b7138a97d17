import SceneScript.Proofs.Attachments

/-!
# Writing one level deeper

A script writer indents by its depth alone. Started one level deeper, each of its steps writes
the lines it writes at its own level with four more spaces before every non-empty line, and ends
one level deeper (`ShiftsOneLevel`): `line`, `comment` and `openBlock` at every depth,
`closeBlock` from depth one up. A close never goes below depth zero, so a close at depth one
writes what a close at depth zero writes, not indented. A text of blanks only is written as
empty lines, the same at every depth.

Every generator handed a writer (the creation fragments, the attachment fragments and the
behaviours) and every writer of one node's block (components, events, actions) gives the writer
back at the depth it found it at. Each opens a block before it closes it, so the close that
stops at zero never comes into play.
-/

namespace SceneScript

namespace ScriptWriter

/-- Started one level deeper than `depth`, the step writes what it writes at `depth` indented
once and ends one level deeper; the text before it and the comments flag stay. -/
def ShiftsOneLevel (step : ScriptWriter → ScriptWriter) (depth : Nat) : Prop :=
  ∀ out comments, step ⟨out, depth + 1, comments⟩ =
    ⟨out ++ indentLines (step ⟨"", depth, comments⟩).out, (step ⟨"", depth, comments⟩).depth + 1,
      comments⟩

@[simp] theorem indentLines_empty : indentLines "" = "" := rfl

theorem lineText_succ (depth : Nat) (t : String) :
    lineText (depth + 1) t = indentLines (lineText depth t) := by
  have h := indentFrom_lineText depth t []
  simp only [List.append_nil, indentFrom] at h
  rw [indentLines, h, String.ofList_toList]

section Steps

variable (t : String) (depth : Nat)

theorem line_shifts : ShiftsOneLevel (·.line t) depth := by
  intro out comments
  simp [line, emit, lineText_succ]

theorem comment_shifts : ShiftsOneLevel (·.comment t) depth := by
  intro out comments
  cases comments with
  | true => exact line_shifts _ depth out true
  | false => simp [comment]

theorem openBlock_shifts : ShiftsOneLevel (·.openBlock t) depth := by
  intro out comments
  simp [openBlock, line, emit, lineText_succ]

theorem closeBlock_shifts : ShiftsOneLevel (·.closeBlock t) (depth + 1) := by
  intro out comments
  simp [closeBlock, line, emit, lineText_succ]

theorem closeBlock_one (out : String) (comments : Bool) :
    (⟨out, 1, comments⟩ : ScriptWriter).closeBlock t =
      ⟨out ++ ((⟨"", 0, comments⟩ : ScriptWriter).closeBlock t).out, 0, comments⟩ := by
  simp [closeBlock, line, emit]

end Steps

theorem isBlankText_of_mem_splitLines {t l : String} (ht : Text.isBlankText t = true)
    (hl : l ∈ splitLines t) : Text.isBlankText l = true := by
  obtain ⟨cs, hcs, rfl⟩ := List.mem_map.1 hl
  simp only [Text.isBlankText, List.all_eq_true, String.toList_ofList] at ht ⊢
  intro c hc
  rcases mem_of_mem_splitLinesAux hcs hc with h | h
  · simp at h
  · exact ht c h

theorem lineText_of_isBlankText {t : String} (ht : Text.isBlankText t = true) (depth : Nat) :
    lineText depth t = lineText 0 t ∧ ∀ c ∈ (lineText depth t).toList, c = '\n' := by
  have hfeeds : ∀ d, lineText d t =
      if t.isEmpty then "\n" else String.join ((splitLines t).map fun _ => "\n") := by
    intro d
    unfold lineText
    split
    · rfl
    · congr 1
      refine List.map_congr_left fun l hl => ?_
      simp [renderLine, isBlankText_of_mem_splitLines ht hl]
  refine ⟨by rw [hfeeds, hfeeds], ?_⟩
  rw [hfeeds]
  split
  · simp
  · intro c hc
    simp [String.toList_join] at hc
    exact hc.2

end ScriptWriter

open ScriptWriter

/-! ## Generators give the writer back at its depth -/

namespace Creation

theorem fragment_depth (kind : ComponentKind) (n : Node) (w : ScriptWriter) :
    ∃ w', fragment kind n w = .ok w' ∧ w'.depth = w.depth := by
  obtain ⟨step, hblock, hfragment⟩ := fragment_writesBlock kind n
  exact ⟨step w, hfragment w, hblock.depth w⟩

end Creation

namespace Fragment

theorem attach?_depth {kind : ComponentKind} {n : Node} {var : String}
    {fragment : ScriptWriter → Except Fault ScriptWriter} (h : attach? kind n var = some fragment)
    (w : ScriptWriter) : ∃ w', fragment w = .ok w' ∧ w'.depth = w.depth := by
  obtain ⟨ts, hts⟩ := attach?_lines h
  exact ⟨w.lines ts, hts w, lines_depth w ts⟩

end Fragment

namespace Behavior

theorem fragment_writesBlock (kind : EntityKind) (n : Node) : WritesBlock (fragment kind n) := by
  refine ⟨fragment_prepend kind n, fun w => ?_, fun w => ?_⟩ <;>
    cases kind <;>
    simp [fragment, player, interactive, vehicle, ship, station, asteroid, gate, static,
      updateHook, Fragment.inventory, Fragment.trading, Fragment.mineable, Fragment.portal]

end Behavior

namespace ComponentScript

theorem writeBlock_depth (n : Node) (c : IdCounter) (w : ScriptWriter) :
    ∃ w', (writeBlock n c w).1 = .ok w' ∧ w'.depth = w.depth := by
  obtain ⟨step, hblock, hfragment⟩ :=
    Creation.fragment_writesBlock (ComponentKind.parse n.componentTypeName) n
  rcases h : n.idOrDraw "component" c with ⟨id, c'⟩
  simp only [writeBlock, h, Script.json_eq, ok_bind, hfragment]
  exact ⟨_, rfl, by simp [hblock.depth]⟩

end ComponentScript

namespace EventScript

theorem writeEvent_depth (n : Node) (c : IdCounter) (w : ScriptWriter) :
    (writeEvent n c w).1.depth = w.depth := by
  rcases h : n.idOrDraw "event" c with ⟨id, c'⟩
  simp [writeEvent, h]

end EventScript

namespace ActionScript

theorem writeAction_depth (n : Node) (c : IdCounter) (w : ScriptWriter) :
    (writeAction n c w).1.depth = w.depth := by
  rcases h : n.idOrDraw "action" c with ⟨id, c'⟩
  simp only [writeAction, h]
  split <;> simp

end ActionScript

/-! ## The writer's indentation -/

/-- Writing one level deeper indents: `line`, `comment` and `openBlock` started one level deeper
write what they write at their level with four more spaces before each non-empty line and end
one level deeper, and so does `closeBlock` from depth one up; a close at depth one writes
unindented, like a close at depth zero. A text of blanks is written as line feeds at every depth.
Every creation fragment, attachment fragment, behaviour and writer of a component, event or
action block gives the writer back at the depth it started at. -/
theorem nested_writes_indent_and_generators_keep_depth :
    (∀ (t : String) (depth : Nat),
      ShiftsOneLevel (·.line t) depth ∧ ShiftsOneLevel (·.comment t) depth ∧
        ShiftsOneLevel (·.openBlock t) depth ∧ ShiftsOneLevel (·.closeBlock t) (depth + 1)) ∧
    (∀ (t out : String) (comments : Bool),
      (⟨out, 1, comments⟩ : ScriptWriter).closeBlock t =
        ⟨out ++ ((⟨"", 0, comments⟩ : ScriptWriter).closeBlock t).out, 0, comments⟩) ∧
    (∀ (t : String) (depth : Nat), Text.isBlankText t = true →
      lineText depth t = lineText 0 t ∧ ∀ c ∈ (lineText depth t).toList, c = '\n') ∧
    (∀ (kind : ComponentKind) (n : Node) (w : ScriptWriter),
      ∃ w', Creation.fragment kind n w = .ok w' ∧ w'.depth = w.depth) ∧
    (∀ (kind : ComponentKind) (n : Node) (var : String)
      (fragment : ScriptWriter → Except Fault ScriptWriter),
      Fragment.attach? kind n var = some fragment →
        ∀ w, ∃ w', fragment w = .ok w' ∧ w'.depth = w.depth) ∧
    (∀ (kind : EntityKind) (n : Node) (w : ScriptWriter),
      (Behavior.fragment kind n w).depth = w.depth) ∧
    (∀ (n : Node) (c : IdCounter) (w : ScriptWriter),
      ∃ w', (ComponentScript.writeBlock n c w).1 = .ok w' ∧ w'.depth = w.depth) ∧
    (∀ (n : Node) (c : IdCounter) (w : ScriptWriter),
      (EventScript.writeEvent n c w).1.depth = w.depth) ∧
    (∀ (n : Node) (c : IdCounter) (w : ScriptWriter),
      (ActionScript.writeAction n c w).1.depth = w.depth) :=
  ⟨fun t depth => ⟨line_shifts t depth, comment_shifts t depth, openBlock_shifts t depth,
      closeBlock_shifts t depth⟩,
    closeBlock_one, fun _ depth ht => lineText_of_isBlankText ht depth, Creation.fragment_depth,
    fun _ _ _ _ h => Fragment.attach?_depth h,
    fun kind n w => (Behavior.fragment_writesBlock kind n).depth w,
    ComponentScript.writeBlock_depth, EventScript.writeEvent_depth, ActionScript.writeAction_depth⟩

/-- A line of blanks nested two levels down, and the portal fragment of a component, written at
depth three. -/
theorem blank_line_and_portal_keep_depth :
    Text.isBlankText " \t " = true ∧ lineText 2 " \t " = lineText 0 " \t " ∧
      ∃ fragment, Fragment.attach? .portal ⟨some "p", .null⟩ "gate" = some fragment ∧
        ∃ w', fragment ⟨"", 3, true⟩ = .ok w' ∧ w'.depth = 3 := by
  have hblank : Text.isBlankText " \t " = true := by decide
  refine ⟨hblank, (nested_writes_indent_and_generators_keep_depth.2.2.1 _ 2 hblank).1, _, rfl, ?_⟩
  exact nested_writes_indent_and_generators_keep_depth.2.2.2.2.1 .portal _ "gate" _ rfl _

/-- From depth one a close is not indented against a close at depth zero: both write `x` at the
left margin, where the indented text would start with four spaces. -/
theorem close_from_depth_one_is_not_indented :
    ((⟨"", 1, true⟩ : ScriptWriter).closeBlock "x").out = "x\n" ∧
      indentLines ((⟨"", 0, true⟩ : ScriptWriter).closeBlock "x").out = "    x\n" ∧
      ¬ ShiftsOneLevel (·.closeBlock "x") 0 := by
  have hdeep : ((⟨"", 1, true⟩ : ScriptWriter).closeBlock "x").out = "x\n" := by decide
  have hindent : indentLines ((⟨"", 0, true⟩ : ScriptWriter).closeBlock "x").out = "    x\n" := by
    decide
  refine ⟨hdeep, hindent, fun h => ?_⟩
  have hout := congrArg ScriptWriter.out (h "" true)
  exact absurd hout (by decide)

end SceneScript
