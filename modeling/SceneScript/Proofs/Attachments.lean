import SceneScript.Proofs.Blocks

/-!
# One attachment fragment, three places

The attachment fragment of a component is written in three places: on its own by
`ComponentScript.attach`, inside a component's creation block as the body of
`component.applyTo`, and inside the script of every entity the component is wired into. The
two dispatch tables, `Fragment.attach?` and `Creation.fragment`, pick the same fragment, and a
fragment only writes fixed lines, so the three texts differ by indentation alone.

`ScriptWriter.indentLines` puts four spaces before every non-empty line. Writing a line one
level deeper is indenting what it writes one level up (`lineText_succ`), blank lines staying
empty; so the fragment inside `applyTo` and inside an entity is the standalone fragment
indented once.
-/

namespace SceneScript

namespace ScriptWriter

/-- Four spaces before every character that starts a non-empty line; `atStart` tells whether
the first character starts a line. -/
def indentFrom : Bool → List Char → List Char
  | _, [] => []
  | atStart, c :: rest =>
      if c = '\n' then '\n' :: indentFrom true rest
      else if atStart then indentUnit.toList ++ c :: indentFrom false rest
      else c :: indentFrom false rest

def indentLines (s : String) : String :=
  String.ofList (indentFrom true s.toList)

/-! ## Indenting lines -/

theorem indentFrom_false_line {l : List Char} (hl : '\n' ∉ l) (rest : List Char) :
    indentFrom false (l ++ '\n' :: rest) = l ++ '\n' :: indentFrom true rest := by
  induction l with
  | nil => simp [indentFrom]
  | cons c l ih =>
      have hc : c ≠ '\n' := fun h => hl (h ▸ List.mem_cons_self)
      simp [indentFrom, hc, ih (fun h => hl (List.mem_cons_of_mem c h))]

theorem indentFrom_true_line {l : List Char} (hl : '\n' ∉ l) (hne : l ≠ []) (rest : List Char) :
    indentFrom true (l ++ '\n' :: rest) = indentUnit.toList ++ l ++ '\n' :: indentFrom true rest := by
  obtain ⟨c, l, rfl⟩ := List.exists_cons_of_ne_nil hne
  have hc : c ≠ '\n' := fun h => hl (h ▸ List.mem_cons_self)
  simp [indentFrom, hc, indentFrom_false_line (fun h => hl (List.mem_cons_of_mem c h))]

theorem indentation_succ (depth : Nat) : indentation (depth + 1) = indentUnit ++ indentation depth := by
  simp [indentation, List.replicate_succ]

theorem indentFrom_renderLine (depth : Nat) {l : String} (hl : '\n' ∉ l.toList)
    (rest : List Char) :
    indentFrom true ((renderLine depth l).toList ++ rest) =
      (renderLine (depth + 1) l).toList ++ indentFrom true rest := by
  unfold renderLine
  split
  · simp [indentFrom]
  · rename_i hblank
    have hne : (indentation depth ++ l).toList ≠ [] := by
      intro h
      obtain ⟨-, hl⟩ : indentation depth = "" ∧ l = "" := by simpa using congrArg List.length h
      simp [hl, Text.isBlankText] at hblank
    have hnl : '\n' ∉ (indentation depth ++ l).toList := by
      simp only [String.toList_append, List.mem_append, not_or]
      refine ⟨fun h => ?_, hl⟩
      exact absurd (within_indentation (p := fun c => c == ' ') rfl depth '\n' h) (by decide)
    have h := indentFrom_true_line hnl hne rest
    simp only [String.toList_append, List.append_assoc, List.cons_append, List.nil_append,
      String.reduceToList] at h ⊢
    rw [h, indentation_succ]
    simp

theorem newline_not_mem_splitLinesAux {cur cs l : List Char} (hcur : '\n' ∉ cur)
    (hl : l ∈ splitLinesAux cur cs) : '\n' ∉ l := by
  induction cs generalizing cur with
  | nil =>
      simp only [splitLinesAux] at hl
      split at hl
      · simp at hl
      · simp only [List.mem_singleton] at hl
        subst hl
        simpa using hcur
  | cons d rest ih =>
      by_cases hd : d = '\n'
      · subst hd
        simp only [splitLinesAux, List.mem_cons] at hl
        rcases hl with rfl | hl
        · exact fun h => hcur (dropReturn_subset cur (List.mem_reverse.1 h))
        · exact ih (by simp) hl
      · rw [splitLinesAux.eq_3 _ _ _ hd] at hl
        refine ih ?_ hl
        simp only [List.mem_cons, not_or]
        exact ⟨Ne.symm hd, hcur⟩

theorem newline_not_mem_of_mem_splitLines {t l : String} (hl : l ∈ splitLines t) :
    '\n' ∉ l.toList := by
  obtain ⟨cs, hcs, rfl⟩ := List.mem_map.1 hl
  rw [String.toList_ofList]
  exact newline_not_mem_splitLinesAux (by simp) hcs

theorem indentFrom_lineText (depth : Nat) (t : String) (rest : List Char) :
    indentFrom true ((lineText depth t).toList ++ rest) =
      (lineText (depth + 1) t).toList ++ indentFrom true rest := by
  unfold lineText
  split
  · simp [indentFrom]
  · have hlines : ∀ l ∈ splitLines t, '\n' ∉ l.toList := fun l hl =>
      newline_not_mem_of_mem_splitLines hl
    generalize splitLines t = ls at hlines ⊢
    induction ls generalizing rest with
    | nil => simp
    | cons l ls ih =>
        simp only [List.map_cons, String.join_cons, String.toList_append, List.append_assoc]
        rw [indentFrom_renderLine depth (hlines l List.mem_cons_self),
          ih _ (fun l' hl' => hlines l' (List.mem_cons_of_mem l hl'))]

theorem indentLines_lines (depth : Nat) (comments comments' : Bool) (ts : List String) :
    indentLines ((⟨"", depth, comments⟩ : ScriptWriter).lines ts).out =
      ((⟨"", depth + 1, comments'⟩ : ScriptWriter).lines ts).out := by
  have hjoin : ∀ rest : List Char,
      indentFrom true ((String.join (ts.map (lineText depth))).toList ++ rest) =
        (String.join (ts.map (lineText (depth + 1)))).toList ++ indentFrom true rest := by
    induction ts with
    | nil => simp
    | cons t ts ih =>
        intro rest
        simp only [List.map_cons, String.join_cons, String.toList_append, List.append_assoc]
        rw [indentFrom_lineText, ih]
  have h := hjoin []
  simp only [List.append_nil, indentFrom] at h
  simp only [indentLines, lines_out, String.empty_append, h, String.ofList_toList]

end ScriptWriter

open ScriptWriter

/-! ## The two dispatch tables -/

namespace ComponentKind

theorem isSome_attach?_iff (kind : ComponentKind) (n : Node) (var : String) :
    (Fragment.attach? kind n var).isSome = kind.attachable := by
  cases kind <;> rfl

end ComponentKind

namespace ComponentScript

theorem attachInto_lines (comp : AttachedComponent) (var : String) :
    ∃ ts, ∀ w, attachInto comp var w =
      .ok (w.lines ts, (ComponentKind.parse comp.componentType).attachable) := by
  unfold attachInto
  split
  · rename_i fragment hattach
    obtain ⟨ts, hts⟩ := Fragment.attach?_lines hattach
    have hkind := ComponentKind.isSome_attach?_iff (ComponentKind.parse comp.componentType)
      comp.node var
    rw [hattach, Option.isSome_some] at hkind
    exact ⟨ts, fun w => by simp [hts, ← hkind]⟩
  · rename_i hattach
    have hkind := ComponentKind.isSome_attach?_iff (ComponentKind.parse comp.componentType)
      comp.node var
    rw [hattach, Option.isSome_none] at hkind
    exact ⟨[], fun w => by simp [← hkind]; rfl⟩

theorem attach_eq_lines {comp : AttachedComponent} {var : String} {ts : List String}
    (h : ∀ w, attachInto comp var w =
      .ok (w.lines ts, (ComponentKind.parse comp.componentType).attachable)) :
    attach comp var =
      .ok ((ScriptWriter.plain.lines ts).out, (ComponentKind.parse comp.componentType).attachable) := by
  simp [attach, h]

end ComponentScript

/-! ## Inside a creation block -/

namespace Creation

theorem lineText_applyTo :
    lineText 0 "component.applyTo = function (entity) \x7b" =
      "component.applyTo = function (entity) \x7b\n" := by
  rw [lineText_single (by decide) (by decide)]
  rfl

theorem lineText_applyTo_end : lineText 0 "\x7d;" = "\x7d;\n" := by
  rw [lineText_single (by decide) (by decide)]
  rfl

theorem fragment_eq_applyTo_attach {n : Node} (h : n.componentKind.attachable) :
    (fragment n.componentKind n ScriptWriter.plain).map (·.out) =
      (ComponentScript.attach (AttachedComponent.ofNode n) "entity").map fun r =>
        "component.applyTo = function (entity) \x7b\n" ++ indentLines r.1 ++ "\x7d;\n" := by
  obtain ⟨f, hf⟩ := Option.isSome_iff_exists.1
    ((ComponentKind.isSome_attach?_iff n.componentKind n "entity").trans h)
  obtain ⟨ts, hts⟩ := Fragment.attach?_lines hf
  have hinto : ∀ w, ComponentScript.attachInto (AttachedComponent.ofNode n) "entity" w =
      .ok (w.lines ts, true) := by
    intro w
    have hf' : Fragment.attach? (ComponentKind.parse (AttachedComponent.ofNode n).componentType)
        (AttachedComponent.ofNode n).node "entity" = some f := hf
    simp only [ComponentScript.attachInto, hf', hts, ok_bind]
    rfl
  have hattach : ComponentScript.attach (AttachedComponent.ofNode n) "entity" =
      .ok ((ScriptWriter.plain.lines ts).out, true) := by
    simp [ComponentScript.attach, hinto]
  have hindent : indentLines (ScriptWriter.plain.lines ts).out =
      ((⟨"", 1, false⟩ : ScriptWriter).lines ts).out :=
    indentLines_lines 0 false false ts
  rw [fragment_of_attach? hf, hattach, map_ok, hindent]
  simp only [wrap, hts, ok_bind, pure, Except.pure, map_ok]
  simp [closeBlock, openBlock, plain, start, lines_out, lineText_applyTo, lineText_applyTo_end,
    String.append_assoc]

end Creation

/-! ## Inside an entity -/

namespace ScriptWriter

theorem out_eq_of_prepend {step : ScriptWriter → ScriptWriter}
    (h : ∀ s w, step (w.prepend s) = (step w).prepend s) (w : ScriptWriter) :
    (step w).out = w.out ++ (step w.cleared).out := by
  conv_lhs => rw [← prepend_cleared w, h]
  rfl

end ScriptWriter

namespace Behavior

theorem fragment_prepend (kind : EntityKind) (n : Node) (s : String) (w : ScriptWriter) :
    fragment kind n (w.prepend s) = (fragment kind n w).prepend s := by
  cases kind <;>
    simp [fragment, player, interactive, vehicle, ship, station, asteroid, gate, static,
      updateHook, Fragment.inventory, Fragment.trading, Fragment.mineable, Fragment.portal]

end Behavior

namespace EntityScript

/-- The statements of an entity's script before its components: its comment and opening line,
the statements that create, name and place the entity, and the network statements when its
`networked` flag is set. -/
def opening (opts : CompileOptions) (n : Node) (rawId : String) : Except Fault ScriptWriter := do
  let kind := EntityKind.parse n.entityTypeName
  let transform := Transform.ofJson (n.field? "transform")
  let networked := ((n.field? "networked").bind Json.toFlag?).getD false
  let name := (n.text? namePaths).getD rawId
  let id := Script.str rawId
  let w := ScriptWriter.start opts.includeComments
  let w := w.comment ("Entity: " ++ rawId ++ " (" ++ n.entityTypeName ++ ")")
  let w := w.openBlock "(function () \x7b"
  let w := w.line ("const entity = new pc.Entity(" ++ Script.str name ++ ");")
  let w := w.line ("entity.updlId = " ++ id ++ ";")
  let w := w.line ("entity.updlType = " ++ Script.str kind.name ++ ";")
  let w := w.line ("entity.updlProperties = " ++ (← Script.json n.properties) ++ ";")
  let w := w.line ("entity.setLocalPosition(" ++ transform.position.scriptText ++ ");")
  let w := w.line ("entity.setLocalEulerAngles(" ++ transform.rotation.scriptText ++ ");")
  let w := w.line ("entity.setLocalScale(" ++ transform.scale.scriptText ++ ");")
  pure <|
    if networked then
      (w.comment "Network").line (Script.block [
        "entity.networked = true;",
        "entity.networkId = " ++ id ++ ";",
        "app.fire(\"network:register\", entity);"])
    else w

/-- The statements of an entity's script after its components: the behaviour of its kind, the
registry statements and the closing line. -/
def closing (opts : CompileOptions) (n : Node) (rawId : String) (w : ScriptWriter) : ScriptWriter :=
  let kind := EntityKind.parse n.entityTypeName
  let registry := Script.ident opts.entityRegistry
  let id := Script.str rawId
  let w := w.comment ("Behavior: " ++ kind.name)
  let w := Behavior.fragment kind n w
  let w := (w.comment "Registry").line (Script.block [
    "app.root.addChild(entity);",
    "globalThis." ++ registry ++ " = globalThis." ++ registry ++ " || new Map();",
    "globalThis." ++ registry ++ ".set(" ++ id ++ ", entity);",
    "entity.once(\"destroy\", function () \x7b",
    "    globalThis." ++ registry ++ ".delete(" ++ id ++ ");",
    "\x7d);"])
  w.closeBlock "\x7d)();"

theorem compile_eq (opts : CompileOptions) (n : Node) (c : IdCounter) :
    compile opts n c =
      ((do
        let w ← opening opts n (n.idOrDraw "entity" c).1
        let w ← if n.attachedComponents.isEmpty then pure w
          else attachAll n.attachedComponents (w.comment "Components")
        pure (closing opts n (n.idOrDraw "entity" c).1 w).out),
        (n.idOrDraw "entity" c).2) := by
  rcases hid : n.idOrDraw "entity" c with ⟨rawId, c'⟩
  obtain ⟨attach, hattach⟩ := Classical.skolem.1 (attachAll_ok n.attachedComponents)
  unfold compile
  simp only [hid, opening, closing, Script.json_eq, ok_bind, hattach]
  by_cases h : n.attachedComponents.isEmpty <;> simp [h, pure, Except.pure]

theorem opening_ok (opts : CompileOptions) (n : Node) (rawId : String) :
    ∃ w, opening opts n rawId = .ok w ∧ w.depth = 1 ∧ w.comments = opts.includeComments := by
  simp only [opening, Script.json_eq, ok_bind]
  split <;> exact ⟨_, rfl, by simp [start], by simp [start]⟩

theorem closing_prepend (opts : CompileOptions) (n : Node) (rawId s : String) (w : ScriptWriter) :
    closing opts n rawId (w.prepend s) = (closing opts n rawId w).prepend s := by
  simp [closing, Behavior.fragment_prepend]

theorem attachAll_lines {tsOf : AttachedComponent → List String}
    (h : ∀ comp w, ComponentScript.attachInto comp "entity" w =
      .ok (w.lines (tsOf comp), (ComponentKind.parse comp.componentType).attachable))
    (comps : List AttachedComponent) (w : ScriptWriter) :
    attachAll comps w = .ok (w.lines (comps.flatMap tsOf)) := by
  induction comps generalizing w with
  | nil => rfl
  | cons comp rest ih => simp [attachAll, h, ih, lines_append]

theorem mapM_attach {tsOf : AttachedComponent → List String}
    (h : ∀ comp w, ComponentScript.attachInto comp "entity" w =
      .ok (w.lines (tsOf comp), (ComponentKind.parse comp.componentType).attachable))
    (comps : List AttachedComponent) :
    comps.mapM (ComponentScript.attach · "entity") =
      .ok (comps.map fun comp =>
        ((ScriptWriter.plain.lines (tsOf comp)).out, (ComponentKind.parse comp.componentType).attachable)) := by
  induction comps with
  | nil => rfl
  | cons comp rest ih =>
      simp [List.mapM_cons, ComponentScript.attach_eq_lines (h comp), ih, pure, Except.pure]

theorem lines_flatMap_out (tsOf : AttachedComponent → List String) (comments : Bool)
    (comps : List AttachedComponent) :
    ((⟨"", 1, comments⟩ : ScriptWriter).lines (comps.flatMap tsOf)).out =
      String.join (comps.map fun comp => indentLines (ScriptWriter.plain.lines (tsOf comp)).out) := by
  have hindent : ∀ ts, indentLines (ScriptWriter.plain.lines ts).out =
      ((⟨"", 1, comments⟩ : ScriptWriter).lines ts).out :=
    fun ts => indentLines_lines 0 false comments ts
  induction comps with
  | nil => rfl
  | cons comp rest ih =>
      simp only [List.flatMap_cons, List.map_cons, String.join_cons, hindent] at ih ⊢
      rw [← ih]
      simp [lines_out]

theorem comment_components_out (w : ScriptWriter) (hdepth : w.depth = 1) :
    (w.comment "Components").out =
      w.out ++ if w.comments then "    // Components\n" else "" := by
  rw [comment_out, hdepth]
  split <;> simp [indentation, indentUnit, flatten, isLineBreak]

theorem compile_eq_sections (opts : CompileOptions) (e : Node) (c : IdCounter) :
    ∃ w parts,
      opening opts e (e.idOrDraw "entity" c).1 = .ok w ∧
      e.attachedComponents.mapM (ComponentScript.attach · "entity") = .ok parts ∧
      compile opts e c =
        (.ok (w.out ++
          (if opts.includeComments && !e.attachedComponents.isEmpty then "    // Components\n"
            else "") ++
          String.join (parts.map fun r => indentLines r.1) ++
          (closing opts e (e.idOrDraw "entity" c).1 ⟨"", 1, opts.includeComments⟩).out),
          (e.idOrDraw "entity" c).2) := by
  obtain ⟨tsOf, htsOf⟩ := Classical.skolem.1 fun comp => ComponentScript.attachInto_lines comp "entity"
  obtain ⟨w, hw, hdepth, hcomments⟩ := opening_ok opts e (e.idOrDraw "entity" c).1
  refine ⟨w, _, hw, mapM_attach htsOf _, ?_⟩
  have hclose : ∀ v : ScriptWriter, v.depth = 1 → v.comments = opts.includeComments →
      (closing opts e (e.idOrDraw "entity" c).1 v).out =
        v.out ++ (closing opts e (e.idOrDraw "entity" c).1 ⟨"", 1, opts.includeComments⟩).out := by
    intro v hvd hvc
    rw [out_eq_of_prepend (closing_prepend opts e _) v]
    cases v
    simp only at hvd hvc
    subst hvd hvc
    rfl
  rw [compile_eq, hw]
  by_cases hempty : e.attachedComponents.isEmpty
  · simp only [hempty, if_true, ok_bind, pure, Except.pure]
    rw [hclose w hdepth hcomments]
    simp [List.isEmpty_iff.1 hempty]
  · have hjoin : String.join ((e.attachedComponents.map fun comp =>
          ((plain.lines (tsOf comp)).out, (ComponentKind.parse comp.componentType).attachable)).map
          fun r => indentLines r.1) =
        String.join ((e.attachedComponents.flatMap tsOf).map (lineText 1)) := by
      have h := lines_flatMap_out tsOf opts.includeComments e.attachedComponents
      rw [lines_out] at h
      simpa [List.map_map, Function.comp_def] using h.symm
    simp only [hempty, Bool.false_eq_true, if_false, attachAll_lines htsOf, ok_bind, pure,
      Except.pure, Bool.not_false, Bool.and_true]
    rw [hclose _ (by simp [hdepth]) (by simp [hcomments]), lines_out,
      comment_components_out w hdepth, comment_depth, hdepth, hjoin, hcomments]

end EntityScript

/-! ## The same fragment in all three places -/

theorem ComponentScript.attach_of_not_attachable {comp : AttachedComponent} {var : String}
    (h : (ComponentKind.parse comp.componentType).attachable = false) :
    ComponentScript.attach comp var = .ok ("", false) := by
  have hnone : Fragment.attach? (ComponentKind.parse comp.componentType) comp.node var = none := by
    rw [← Option.not_isSome_iff_eq_none, ComponentKind.isSome_attach?_iff, h]
    decide
  simp [ComponentScript.attach, ComponentScript.attachInto, hnone, pure, Except.pure]
  rfl

/-- The attachment fragment of a component is one text, indented once where it is nested: the
body of `component.applyTo` in the component's creation block, and the part of every entity's
script between its opening statements and its behaviour, after the `// Components` comment,
where the fragments of the wired components stand in order. Kinds without a fragment write
nothing. -/
theorem attachment_fragment_same_everywhere :
    (∀ n : Node, n.componentKind.attachable = true →
      (Creation.fragment n.componentKind n ScriptWriter.plain).map (·.out) =
        (ComponentScript.attach (AttachedComponent.ofNode n) "entity").map fun r =>
          "component.applyTo = function (entity) \x7b\n" ++ indentLines r.1 ++ "\x7d;\n") ∧
    (∀ (opts : CompileOptions) (e : Node) (c : IdCounter), ∃ w parts,
      EntityScript.opening opts e (e.idOrDraw "entity" c).1 = .ok w ∧
      e.attachedComponents.mapM (ComponentScript.attach · "entity") = .ok parts ∧
      EntityScript.compile opts e c =
        (.ok (w.out ++
          (if opts.includeComments && !e.attachedComponents.isEmpty then "    // Components\n"
            else "") ++
          String.join (parts.map fun r => indentLines r.1) ++
          (EntityScript.closing opts e (e.idOrDraw "entity" c).1
            ⟨"", 1, opts.includeComments⟩).out),
          (e.idOrDraw "entity" c).2)) ∧
    (∀ comp : AttachedComponent, (ComponentKind.parse comp.componentType).attachable = false →
      ComponentScript.attach comp "entity" = .ok ("", false)) :=
  ⟨fun _ h => Creation.fragment_eq_applyTo_attach h, EntityScript.compile_eq_sections,
    fun _ h => ComponentScript.attach_of_not_attachable h⟩

/-- A mineable component, whose fragment is nested, and a physics component, which attaches
nothing. -/
theorem mineable_nested_physics_empty :
    let n : Node := ⟨some "ore", .obj [("componentType", .str "mineable")]⟩
    let comp : AttachedComponent := ⟨none, "physics", .null, ⟨none, .null⟩⟩
    n.componentKind.attachable = true ∧
      (Creation.fragment n.componentKind n ScriptWriter.plain).map (·.out) =
        (ComponentScript.attach (AttachedComponent.ofNode n) "entity").map (fun r =>
          "component.applyTo = function (entity) \x7b\n" ++ indentLines r.1 ++ "\x7d;\n") ∧
      (ComponentKind.parse comp.componentType).attachable = false ∧
      ComponentScript.attach comp "entity" = .ok ("", false) := by
  intro n comp
  have hn : n.componentKind.attachable = true := by decide
  have hcomp : (ComponentKind.parse comp.componentType).attachable = false := by decide
  exact ⟨hn, attachment_fragment_same_everywhere.1 n hn, hcomp,
    attachment_fragment_same_everywhere.2.2 comp hcomp⟩

end SceneScript
