import SceneScript.Proofs.Compilers
import SceneScript.Proofs.OutputLines

/-!
# Category scripts are made of one block per node

The components, events, actions and data of a build each compile into one script. Every writer
of a node's block only appends to the script, and what it appends depends on nothing but the
node, the depth it starts at and whether comments are on; it also leaves the writer at the depth
it found it at. A block that opened a level and did not close it would shift every later block,
so this balance is what makes a category script the concatenation of its nodes' blocks.

The frame lemmas (`line_prepend` and its siblings) say that a writer step does the same thing
whatever was written before; `WritesBlock` packs them with the balance of depth. From there,
for nodes that carry usable ids (so that no id is drawn):

* the components script is the concatenation of one block per node, in order
  (`ComponentScript.process_eq_blocks`), so compiling `xs ++ ys` gives the script of `xs`
  followed by that of `ys`;
* the event, action and data scripts of a non-empty list are a fixed header, one block per node
  in order, and the closing line `})();`. An empty list gives the empty script, with no header.
-/

namespace SceneScript

@[simp] theorem error_bind {ε α β : Type} (e : ε) (f : α → Except ε β) :
    (Except.error e >>= f) = .error e := rfl

@[simp] theorem map_ok {ε α β : Type} (f : α → β) (a : α) :
    (Except.ok a : Except ε α).map f = .ok (f a) := rfl

@[simp] theorem map_error {ε α β : Type} (f : α → β) (e : ε) :
    (Except.error e : Except ε α).map f = .error e := rfl

@[simp] theorem fmap_ok {ε α β : Type} (f : α → β) (a : α) :
    (f <$> (Except.ok a : Except ε α)) = .ok (f a) := rfl

@[simp] theorem fmap_error {ε α β : Type} (f : α → β) (e : ε) :
    (f <$> (Except.error e : Except ε α)) = .error e := rfl

namespace ScriptWriter

def prepend (s : String) (w : ScriptWriter) : ScriptWriter :=
  { w with out := s ++ w.out }

def cleared (w : ScriptWriter) : ScriptWriter :=
  { w with out := "" }

def lines (w : ScriptWriter) (ts : List String) : ScriptWriter :=
  ts.foldl line w

section Frames

variable (s t : String) (w : ScriptWriter)

@[simp] theorem prepend_out : (w.prepend s).out = s ++ w.out := rfl
@[simp] theorem prepend_depth : (w.prepend s).depth = w.depth := rfl
@[simp] theorem prepend_comments : (w.prepend s).comments = w.comments := rfl
@[simp] theorem cleared_out : w.cleared.out = "" := rfl
@[simp] theorem cleared_depth : w.cleared.depth = w.depth := rfl
@[simp] theorem cleared_comments : w.cleared.comments = w.comments := rfl

theorem prepend_cleared : w.cleared.prepend w.out = w := by
  simp [prepend, cleared]

/-! Every writer step does the same whatever was written before it. -/

@[simp] theorem line_prepend : (w.prepend s).line t = (w.line t).prepend s := by
  simp [line, emit, prepend, String.append_assoc]

@[simp] theorem comment_prepend : (w.prepend s).comment t = (w.comment t).prepend s := by
  unfold comment
  split <;> simp_all

@[simp] theorem openBlock_prepend : (w.prepend s).openBlock t = (w.openBlock t).prepend s := by
  simp [openBlock, line, emit, prepend, String.append_assoc]

@[simp] theorem closeBlock_prepend : (w.prepend s).closeBlock t = (w.closeBlock t).prepend s := by
  simp [closeBlock, line, emit, prepend, String.append_assoc]

/-! Only opening and closing a block moves the depth, and nothing changes the comments flag. -/

@[simp] theorem line_depth : (w.line t).depth = w.depth := rfl
@[simp] theorem line_comments : (w.line t).comments = w.comments := rfl
@[simp] theorem line_out : (w.line t).out = w.out ++ lineText w.depth t := rfl

@[simp] theorem comment_depth : (w.comment t).depth = w.depth := by
  unfold comment
  split <;> rfl

@[simp] theorem comment_comments : (w.comment t).comments = w.comments := by
  unfold comment
  split <;> rfl

@[simp] theorem openBlock_depth : (w.openBlock t).depth = w.depth + 1 := rfl
@[simp] theorem openBlock_comments : (w.openBlock t).comments = w.comments := rfl
@[simp] theorem closeBlock_depth : (w.closeBlock t).depth = w.depth - 1 := rfl
@[simp] theorem closeBlock_comments : (w.closeBlock t).comments = w.comments := rfl

end Frames

section Lines

variable (s : String) (w : ScriptWriter)

@[simp] theorem lines_nil : w.lines [] = w := rfl

@[simp] theorem lines_cons (t : String) (ts : List String) :
    w.lines (t :: ts) = (w.line t).lines ts := rfl

@[simp] theorem lines_append (ts us : List String) : w.lines (ts ++ us) = (w.lines ts).lines us :=
  List.foldl_append

@[simp] theorem lines_prepend (ts : List String) : (w.prepend s).lines ts = (w.lines ts).prepend s := by
  induction ts generalizing w with
  | nil => rfl
  | cons t ts ih => simp [ih]

@[simp] theorem lines_depth (ts : List String) : (w.lines ts).depth = w.depth := by
  induction ts generalizing w with
  | nil => rfl
  | cons t ts ih => simp [ih]

@[simp] theorem lines_comments (ts : List String) : (w.lines ts).comments = w.comments := by
  induction ts generalizing w with
  | nil => rfl
  | cons t ts ih => simp [ih]

theorem lines_out (ts : List String) :
    (w.lines ts).out = w.out ++ String.join (ts.map (lineText w.depth)) := by
  induction ts generalizing w with
  | nil => simp
  | cons t ts ih => simp [ih, String.append_assoc]

end Lines

/-- A writer step that writes one block: it does the same whatever was written before it, and it
leaves the depth and the comments flag as it found them. -/
structure WritesBlock (step : ScriptWriter → ScriptWriter) : Prop where
  prepend : ∀ s w, step (w.prepend s) = (step w).prepend s
  depth : ∀ w, (step w).depth = w.depth
  comments : ∀ w, (step w).comments = w.comments

namespace WritesBlock

variable {step : ScriptWriter → ScriptWriter}

theorem eq (h : WritesBlock step) (w : ScriptWriter) :
    step w = { w with out := w.out ++ (step w.cleared).out } := by
  have hw : step w = (step w.cleared).prepend w.out := by
    rw [← h.prepend, prepend_cleared]
  rw [hw]
  simp only [ScriptWriter.prepend, h.depth, h.comments, cleared_depth, cleared_comments]

theorem lines (ts : List String) : WritesBlock (·.lines ts) :=
  ⟨fun s w => lines_prepend s w ts, fun w => lines_depth w ts, fun w => lines_comments w ts⟩

theorem nest (h : WritesBlock step) (opening closing : String) :
    WritesBlock fun w => (step (w.openBlock opening)).closeBlock closing :=
  ⟨fun s w => by simp [h.prepend], fun w => by simp [h.depth], fun w => by simp [h.comments]⟩

end WritesBlock

end ScriptWriter

open ScriptWriter

/-! ## Fragments write fixed lines -/

namespace Fragment

theorem attach?_lines {kind : ComponentKind} {n : Node} {var : String}
    {fragment : ScriptWriter → Except Fault ScriptWriter} (h : attach? kind n var = some fragment) :
    ∃ ts, ∀ w, fragment w = .ok (w.lines ts) := by
  cases kind <;> simp only [attach?, Option.some.injEq, reduceCtorEq] at h <;> subst h
  case render =>
    obtain ⟨p, hp⟩ := RenderParams.ofNode_ok n
    by_cases hv : p.visible
    · simp only [hp, ok_bind, render, hv, if_true]
      exact ⟨[_], fun w => rfl⟩
    · simp only [hp, ok_bind, render, hv]
      exact ⟨[_, _], fun w => rfl⟩
  case inventory =>
    simp only [InventoryParams.ofNode_eq, ok_bind]
    exact ⟨[_], fun w => rfl⟩
  all_goals exact ⟨[_], fun w => rfl⟩

end Fragment

namespace Creation

theorem fragment_writesBlock (kind : ComponentKind) (n : Node) :
    ∃ step, WritesBlock step ∧ ∀ w, fragment kind n w = .ok (step w) := by
  cases hattach : Fragment.attach? kind n "entity" with
  | some f =>
      obtain ⟨ts, hts⟩ := Fragment.attach?_lines hattach
      refine ⟨_, (WritesBlock.lines ts).nest "component.applyTo = function (entity) \x7b" "\x7d;",
        fun w => ?_⟩
      simp [fragment_of_attach? hattach, wrap, hts]
  | none =>
      cases kind <;> simp only [Fragment.attach?, reduceCtorEq] at hattach
      case audio =>
        simp only [fragment, audio, volume, Binary64.one,
          Binary64.clampAssert_of_le _ (Binary64.zero_le_ofNat 1), ok_bind]
        exact ⟨_, WritesBlock.lines [_], fun w => rfl⟩
      all_goals exact ⟨_, WritesBlock.lines [_], fun w => rfl⟩

end Creation

/-! ## Lists of blocks

The four category compilers write their nodes with the same two kinds of loops: one over a writer
that may fail (components, data) and one over a writer that cannot (events, actions). A node
with a usable id draws no id, so its block is what its writer appends at the current depth,
whichever counter is passed.
-/

abbrev NodeWriter := Node → IdCounter → ScriptWriter → Except Fault ScriptWriter × IdCounter

abbrev PureNodeWriter := Node → IdCounter → ScriptWriter → ScriptWriter × IdCounter

def blockResult (write : NodeWriter) (depth : Nat) (comments : Bool) (n : Node) :
    Except Fault String :=
  (write n ⟨0⟩ ⟨"", depth, comments⟩).1.map (·.out)

def blockText (write : PureNodeWriter) (depth : Nat) (comments : Bool) (n : Node) : String :=
  (write n ⟨0⟩ ⟨"", depth, comments⟩).1.out

section Loops

variable {write : NodeWriter} {writeAll : List Node → IdCounter → ScriptWriter → Except Fault ScriptWriter × IdCounter}

theorem NodeWriter.eq_block {n : Node} {step : ScriptWriter → ScriptWriter}
    (hstep : WritesBlock step) (hwrite : ∀ c w, write n c w = (.ok (step w), c))
    (c : IdCounter) (w : ScriptWriter) :
    write n c w = ((blockResult write w.depth w.comments n).map fun b => { w with out := w.out ++ b },
      c) := by
  simp only [blockResult, hwrite, map_ok]
  exact congrArg (fun w => (Except.ok w, c)) (hstep.eq w)

/-- A loop over a node writer that appends each node's block, stopping at the first failure,
appends the blocks of all the nodes in order. -/
theorem loop_eq_blocks (hnil : ∀ c w, writeAll [] c w = (.ok w, c))
    (hok : ∀ n rest c w w' c', write n c w = (.ok w', c') → writeAll (n :: rest) c w = writeAll rest c' w')
    (herror : ∀ n rest c w f c', write n c w = (.error f, c') →
      writeAll (n :: rest) c w = (.error f, c'))
    (hwrite : ∀ n, n.id?.isSome → ∀ c w,
      write n c w = ((blockResult write w.depth w.comments n).map fun b => { w with out := w.out ++ b },
        c))
    (nodes : List Node) (hid : ∀ n ∈ nodes, n.id?.isSome) (c : IdCounter) (w : ScriptWriter) :
    writeAll nodes c w =
      ((nodes.mapM (blockResult write w.depth w.comments)).map
        fun bs => { w with out := w.out ++ String.join bs }, c) := by
  induction nodes generalizing w with
  | nil =>
      have hblocks : (([] : List Node).mapM (blockResult write w.depth w.comments)).map
          (fun bs => { w with out := w.out ++ String.join bs }) = .ok w := by
        simp only [List.mapM_nil, pure, Except.pure, map_ok, String.join_nil, String.append_empty]
      rw [hnil, hblocks]
  | cons n rest ih =>
      have hrest : ∀ m ∈ rest, m.id?.isSome := fun m hm => hid m (List.mem_cons_of_mem n hm)
      have hhead := hwrite n (hid n List.mem_cons_self) c w
      rw [List.mapM_cons]
      cases hb : blockResult write w.depth w.comments n with
      | error f =>
          rw [hb, map_error] at hhead
          simp [herror n rest c w f c hhead]
      | ok b =>
          rw [hb, map_ok] at hhead
          simp only [hok n rest c w _ c hhead, ih hrest, ok_bind]
          cases rest.mapM (blockResult write w.depth w.comments) <;> simp [String.append_assoc]

end Loops

section PureLoops

variable {write : PureNodeWriter} {writeAll : List Node → IdCounter → ScriptWriter → ScriptWriter × IdCounter}

theorem PureNodeWriter.eq_block {n : Node} {step : ScriptWriter → ScriptWriter}
    (hstep : WritesBlock step) (hwrite : ∀ c w, write n c w = (step w, c)) (c : IdCounter)
    (w : ScriptWriter) :
    write n c w = ({ w with out := w.out ++ blockText write w.depth w.comments n }, c) := by
  simp only [blockText, hwrite]
  exact congrArg (·, c) (hstep.eq w)

theorem pureLoop_eq_blocks (hnil : ∀ c w, writeAll [] c w = (w, c))
    (hcons : ∀ n rest c w, writeAll (n :: rest) c w = writeAll rest (write n c w).2 (write n c w).1)
    (hwrite : ∀ n, n.id?.isSome → ∀ c w,
      write n c w = ({ w with out := w.out ++ blockText write w.depth w.comments n }, c))
    (nodes : List Node) (hid : ∀ n ∈ nodes, n.id?.isSome) (c : IdCounter) (w : ScriptWriter) :
    writeAll nodes c w =
      ({ w with out := w.out ++ String.join (nodes.map (blockText write w.depth w.comments)) }, c) := by
  induction nodes generalizing w with
  | nil =>
      rw [hnil]
      simp only [List.map_nil, String.join_nil, String.append_empty]
  | cons n rest ih =>
      have hrest : ∀ m ∈ rest, m.id?.isSome := fun m hm => hid m (List.mem_cons_of_mem n hm)
      rw [hcons, hwrite n (hid n List.mem_cons_self), ih hrest]
      simp [String.append_assoc]

end PureLoops

/-! ## Components -/

namespace ComponentScript

def block (opts : CompileOptions) (n : Node) : Except Fault String :=
  blockResult writeBlock 0 opts.includeComments n

theorem writeBlock_writesBlock {n : Node} (h : n.id?.isSome) :
    ∃ step, WritesBlock step ∧ ∀ c w, writeBlock n c w = (.ok (step w), c) := by
  obtain ⟨i, hi⟩ := Option.isSome_iff_exists.1 h
  obtain ⟨fragment, hblock, hfragment⟩ :=
    Creation.fragment_writesBlock (ComponentKind.parse n.componentTypeName) n
  simp only [writeBlock, Node.idOrDraw_of_id? hi, Script.json_eq, ok_bind, hfragment]
  refine ⟨_, ⟨fun s w => ?_, fun w => ?_, fun w => ?_⟩, fun c w => rfl⟩
  · simp [hblock.prepend]
  · simp [hblock.depth]
  · simp [hblock.comments]

theorem process_eq_blocks (opts : CompileOptions) (nodes : List Node)
    (hid : ∀ n ∈ nodes, n.id?.isSome) (c : IdCounter) :
    process opts nodes c = ((nodes.mapM (block opts)).map String.join, c) := by
  have hloop := @loop_eq_blocks writeBlock writeBlocks (fun _ _ => rfl)
    (fun n rest c w w' c' h => by conv_lhs => unfold writeBlocks
                                  rw [h])
    (fun n rest c w f c' h => by conv_lhs => unfold writeBlocks
                                 rw [h])
    (fun n h => let ⟨_, hstep, hwrite⟩ := writeBlock_writesBlock h; NodeWriter.eq_block hstep hwrite)
    nodes hid c (ScriptWriter.start opts.includeComments)
  have hout : ∀ x : Except Fault (List String),
      (x.map fun bs => ({ out := String.join bs, depth := 0, comments := opts.includeComments } :
        ScriptWriter)).map (·.out) = x.map String.join := by
    intro x
    cases x <;> rfl
  simp only [process, hloop]
  exact congrArg (·, c) (hout _)

end ComponentScript

/-! ## Events, actions and data -/

section Closing

theorem lineText_single {t : String} (hnl : '\n' ∉ t.toList) (hblank : Text.isBlankText t = false)
    (depth : Nat) : lineText depth t = indentation depth ++ t ++ "\n" := by
  have hne : t.toList.isEmpty = false := by
    cases h : t.toList with
    | nil => simp [Text.isBlankText, h] at hblank
    | cons c cs => rfl
  have hlines : splitLines t = [t] := by
    rw [splitLines, splitLinesAux_of_not_mem hnl, List.isEmpty_nil, Bool.true_and, hne,
      if_neg Bool.false_ne_true, List.reverse_nil, List.nil_append, List.map_singleton,
      String.ofList_toList]
  have hempty : t.isEmpty = false := by
    rw [String.isEmpty_eq_false_iff]
    rintro rfl
    simp at hne
  simp [lineText, hlines, renderLine, hblank, hempty, String.append_assoc]

theorem lineText_closing : lineText 0 "\x7d)();" = "\x7d)();\n" := by
  rw [lineText_single (by decide) (by decide)]
  rfl

end Closing

namespace EventScript

def header (opts : CompileOptions) : String :=
  (((ScriptWriter.start opts.includeComments).comment "Events").openBlock "(function () \x7b").line
    prologue |>.out

def block (opts : CompileOptions) (n : Node) : String :=
  blockText writeEvent 1 opts.includeComments n

theorem writeEvent_writesBlock {n : Node} (h : n.id?.isSome) :
    ∃ step, WritesBlock step ∧ ∀ c w, writeEvent n c w = (step w, c) := by
  obtain ⟨i, hi⟩ := Option.isSome_iff_exists.1 h
  simp only [writeEvent, Node.idOrDraw_of_id? hi]
  exact ⟨_, ⟨fun s w => by simp, fun w => by simp, fun w => by simp⟩, fun c w => rfl⟩

theorem process_eq_blocks (opts : CompileOptions) (nodes : List Node)
    (hid : ∀ n ∈ nodes, n.id?.isSome) (c : IdCounter) :
    process opts nodes c =
      (if nodes = [] then "" else header opts ++ String.join (nodes.map (block opts)) ++ "\x7d)();\n",
        c) := by
  have hloop := @pureLoop_eq_blocks writeEvent writeEvents
    (fun _ _ => rfl) (fun _ _ _ _ => rfl)
    (fun n h => let ⟨_, hstep, hwrite⟩ := writeEvent_writesBlock h; PureNodeWriter.eq_block hstep hwrite)
    nodes hid c
  unfold process
  split
  · rename_i hnil
    simp [List.isEmpty_iff.1 hnil]
  · rename_i hnil
    have hblock : block opts = blockText writeEvent 1 opts.includeComments := rfl
    simp only [hloop, List.isEmpty_iff] at hnil ⊢
    simp [hnil, hblock, closeBlock, header, start, lineText_closing, String.append_assoc]

end EventScript

namespace ActionScript

def header (opts : CompileOptions) : String :=
  (((ScriptWriter.start opts.includeComments).comment "Actions").openBlock "(function () \x7b").line
    (prologue (Script.ident opts.entityRegistry)) |>.out

def block (opts : CompileOptions) (n : Node) : String :=
  blockText writeAction 1 opts.includeComments n

theorem writeAction_writesBlock {n : Node} (h : n.id?.isSome) :
    ∃ step, WritesBlock step ∧ ∀ c w, writeAction n c w = (step w, c) := by
  obtain ⟨i, hi⟩ := Option.isSome_iff_exists.1 h
  simp only [writeAction, Node.idOrDraw_of_id? hi]
  refine ⟨_, ⟨fun s w => ?_, fun w => ?_, fun w => ?_⟩, fun c w => rfl⟩ <;> split <;> simp

theorem process_eq_blocks (opts : CompileOptions) (nodes : List Node)
    (hid : ∀ n ∈ nodes, n.id?.isSome) (c : IdCounter) :
    process opts nodes c =
      (if nodes = [] then "" else header opts ++ String.join (nodes.map (block opts)) ++ "\x7d)();\n",
        c) := by
  have hloop := @pureLoop_eq_blocks writeAction writeActions
    (fun _ _ => rfl) (fun _ _ _ _ => rfl)
    (fun n h => let ⟨_, hstep, hwrite⟩ := writeAction_writesBlock h; PureNodeWriter.eq_block hstep hwrite)
    nodes hid c
  unfold process
  split
  · rename_i hnil
    simp [List.isEmpty_iff.1 hnil]
  · rename_i hnil
    have hblock : block opts = blockText writeAction 1 opts.includeComments := rfl
    simp only [hloop, List.isEmpty_iff] at hnil ⊢
    simp [hnil, hblock, closeBlock, header, start, lineText_closing, String.append_assoc]

end ActionScript

namespace DataScript

def header (opts : CompileOptions) : String :=
  (((ScriptWriter.start opts.includeComments).comment "Data").openBlock "(function () \x7b").line
    "app.updlData = app.updlData || \x7b global: \x7b\x7d, local: \x7b\x7d \x7d;" |>.out

def block (opts : CompileOptions) (n : Node) : Except Fault String :=
  blockResult writeEntry 1 opts.includeComments n

theorem writeEntry_writesBlock {n : Node} (h : n.id?.isSome) :
    ∃ step, WritesBlock step ∧ ∀ c w, writeEntry n c w = (.ok (step w), c) := by
  obtain ⟨i, hi⟩ := Option.isSome_iff_exists.1 h
  simp only [writeEntry, Node.idOrDraw_of_id? hi, Script.json_eq, ok_bind]
  exact ⟨_, ⟨fun s w => by simp, fun w => by simp, fun w => by simp⟩, fun c w => rfl⟩

theorem process_eq_blocks (opts : CompileOptions) (nodes : List Node)
    (hid : ∀ n ∈ nodes, n.id?.isSome) (c : IdCounter) :
    process opts nodes c =
      (if nodes = [] then .ok ""
        else (nodes.mapM (block opts)).map fun bs => header opts ++ String.join bs ++ "\x7d)();\n",
        c) := by
  unfold process
  split
  · rename_i hnil
    simp [List.isEmpty_iff.1 hnil]
  · rename_i hnil
    simp only [List.isEmpty_iff] at hnil
    simp only [hnil, if_false]
    generalize hw : (((ScriptWriter.start opts.includeComments).comment "Data").openBlock
      "(function () \x7b").line "app.updlData = app.updlData || \x7b global: \x7b\x7d, local: \x7b\x7d \x7d;" = w
    have hloop := @loop_eq_blocks writeEntry writeEntries (fun _ _ => rfl)
      (fun n rest c w w' c' h => by conv_lhs => unfold writeEntries
                                    rw [h])
      (fun n rest c w f c' h => by conv_lhs => unfold writeEntries
                                   rw [h])
      (fun n h => let ⟨_, hstep, hwrite⟩ := writeEntry_writesBlock h; NodeWriter.eq_block hstep hwrite)
      nodes hid c w
    have hout : ∀ x : Except Fault (List String),
        ((x.map fun bs => { w with out := w.out ++ String.join bs }).map
          fun w => (w.closeBlock "\x7d)();").out) =
        x.map fun bs => header opts ++ String.join bs ++ "\x7d)();\n" := by
      intro x
      cases x with
      | error f => rfl
      | ok bs => simp [← hw, header, closeBlock, start, lineText_closing, String.append_assoc]
    have hblock : block opts = blockResult writeEntry w.depth w.comments := by
      funext n
      simp [block, ← hw, start]
    rw [hloop, hblock]
    exact congrArg (·, c) (hout _)

end DataScript

/-! ## Category scripts -/

/-- For nodes with usable ids, every category script is made of one block per node, in order,
each block a function of its node and the options: the components script is the concatenation
of its blocks, so compiling a split list gives the two scripts one after the other; the events,
actions and data scripts are empty for no nodes and otherwise a fixed header, the blocks and the
closing line. -/
theorem category_scripts_are_blocks_in_order (opts : CompileOptions) (c : IdCounter)
    (nodes : List Node) (hid : ∀ n ∈ nodes, n.id?.isSome) :
    ComponentScript.process opts nodes c =
        ((nodes.mapM (ComponentScript.block opts)).map String.join, c) ∧
      (∀ xs ys, nodes = xs ++ ys →
        (ComponentScript.process opts nodes c).1 =
          (do
            let a ← (ComponentScript.process opts xs c).1
            let b ← (ComponentScript.process opts ys c).1
            pure (a ++ b))) ∧
      EventScript.process opts nodes c =
        (if nodes = [] then ""
          else EventScript.header opts ++ String.join (nodes.map (EventScript.block opts)) ++
            "\x7d)();\n", c) ∧
      ActionScript.process opts nodes c =
        (if nodes = [] then ""
          else ActionScript.header opts ++ String.join (nodes.map (ActionScript.block opts)) ++
            "\x7d)();\n", c) ∧
      DataScript.process opts nodes c =
        (if nodes = [] then .ok ""
          else (nodes.mapM (DataScript.block opts)).map
            fun bs => DataScript.header opts ++ String.join bs ++ "\x7d)();\n", c) := by
  refine ⟨ComponentScript.process_eq_blocks opts nodes hid c, ?_,
    EventScript.process_eq_blocks opts nodes hid c, ActionScript.process_eq_blocks opts nodes hid c,
    DataScript.process_eq_blocks opts nodes hid c⟩
  rintro xs ys rfl
  have hxs : ∀ n ∈ xs, n.id?.isSome := fun n hn => hid n (List.mem_append_left ys hn)
  have hys : ∀ n ∈ ys, n.id?.isSome := fun n hn => hid n (List.mem_append_right xs hn)
  rw [ComponentScript.process_eq_blocks opts _ hid, ComponentScript.process_eq_blocks opts _ hxs,
    ComponentScript.process_eq_blocks opts _ hys, List.mapM_append]
  cases xs.mapM (ComponentScript.block opts) <;> cases ys.mapM (ComponentScript.block opts) <;>
    simp [String.join_append]

/-- Two events, an action and a data node with ids, compiled with the default options. -/
theorem category_scripts_of_two_nodes :
    let opts : CompileOptions := ⟨true, "UPDLEntities"⟩
    let nodes : List Node := [⟨some "a", .null⟩, ⟨some "b", .null⟩]
    (∀ n ∈ nodes, n.id?.isSome) ∧
      EventScript.process opts nodes ⟨1⟩ =
        (EventScript.header opts ++ EventScript.block opts ⟨some "a", .null⟩ ++
          EventScript.block opts ⟨some "b", .null⟩ ++ "\x7d)();\n", ⟨1⟩) := by
  intro opts nodes
  have hid : ∀ n ∈ nodes, n.id?.isSome := by decide
  refine ⟨hid, ?_⟩
  rw [(category_scripts_are_blocks_in_order opts ⟨1⟩ nodes hid).2.2.1]
  simp [nodes, String.append_assoc]

/-- No fixed prologue and epilogue frame the events script of every list: the empty list
compiles to the empty script, while a non-empty list carries the header and the closing line
once, whatever its length. -/
theorem events_script_has_no_fixed_frame :
    ¬ ∃ (prologue epilogue : String) (block : Node → String),
      ∀ nodes : List Node, (∀ n ∈ nodes, n.id?.isSome) →
        (EventScript.process ⟨true, "UPDLEntities"⟩ nodes ⟨1⟩).1 =
          prologue ++ String.join (nodes.map block) ++ epilogue := by
  rintro ⟨prologue, epilogue, block, h⟩
  let opts : CompileOptions := ⟨true, "UPDLEntities"⟩
  let n : Node := ⟨some "e", .null⟩
  have hn : n.id?.isSome := by decide
  have hid₁ : ∀ m ∈ [n], m.id?.isSome := by simp [hn]
  have hid₂ : ∀ m ∈ [n, n], m.id?.isSome := by simp [hn]
  have h₀ := h [] (by simp)
  have h₁ := h [n] hid₁
  have h₂ := h [n, n] hid₂
  rw [EventScript.process_eq_blocks opts _ (by simp) ⟨1⟩] at h₀
  rw [EventScript.process_eq_blocks opts _ hid₁ ⟨1⟩] at h₁
  rw [EventScript.process_eq_blocks opts _ hid₂ ⟨1⟩] at h₂
  -- compare lengths: the empty list leaves no room for a frame, two events would repeat it
  have hclose : "\x7d)();\n".length = 6 := by decide
  have l₀ := congrArg String.length h₀
  have l₁ := congrArg String.length h₁
  have l₂ := congrArg String.length h₂
  simp only [List.cons_ne_nil, if_true, if_false, List.map_cons, List.map_nil, String.join_cons,
    String.join_nil, String.append_empty, String.length_append, String.length_empty] at l₀ l₁ l₂
  omega

end SceneScript
