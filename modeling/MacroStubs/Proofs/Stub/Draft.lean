import MacroStubs.Proofs.Stub.Layout

/-! # Drafts

A sheet that is written step by step: text, lines, declarations, and blocks that are entered and left,
normally or by a failure. The depth is at all times the number of class bodies that are open, so each
step adds its own lines at that depth, and whatever happens within a block, it is left at the depth at
which it was entered.
-/

namespace MacroStubs

/-- A sheet with the blocks that are open on it, the innermost first. -/
structure Draft where
  sheet : Sheet := {}
  blocks : List Block := []

/-- How deep these blocks indent what is written within them. -/
def Block.depthOf (blocks : List Block) : Nat := blocks.count .classBody

@[simp] theorem Block.depthOf_region (blocks : List Block) :
    depthOf (.region :: blocks) = depthOf blocks :=
  List.count_cons_of_ne (by decide)

@[simp] theorem Block.depthOf_classBody (blocks : List Block) :
    depthOf (.classBody :: blocks) = depthOf blocks + 1 :=
  List.count_cons_self

namespace Draft

inductive Step where
  | write (text : String)
  | line (text : String)
  | declare (name : String) (parameters : ParameterList) (docstring : Option String) (static : Bool)
  | enter (block : Block) (name : String)
  /-- Leaves the innermost block. -/
  | leave (failed : Bool)

namespace Step

variable {labels : Labels} {block : Block} {blocks : List Block}

/-- Whether the defaults of what is declared have literal texts or are left out. -/
def IsWritable (labels : Labels) : Step → Prop
  | declare _ ps _ _ => ∀ p ∈ ps, p.IsWritable labels
  | _ => True

/-- The blocks that are open after a step. -/
def blocksAfter (blocks : List Block) : Step → List Block
  | enter block _ => block :: blocks
  | leave _ => blocks.tail
  | _ => blocks

/-- What leaving a block adds: a region that is left normally is closed. -/
def closing (depth : Nat) (failed : Bool) : Block → List Line
  | .region => if failed then [] else Line.at' depth [ClassStub.closing]
  | .classBody => []

/-- What a step adds where these blocks are open. -/
def added (labels : Labels) (blocks : List Block) : Step → List Char
  | write text => text.toList
  | line text => Line.written (Line.at' (Block.depthOf blocks) [text])
  | declare name ps doc static =>
    Line.written (Writing.declaredLines labels name ps doc static (Block.depthOf blocks))
  | enter .region name => Line.written (Line.at' (Block.depthOf blocks) ["", "# region " ++ name])
  | enter .classBody name => Line.written (Line.at' (Block.depthOf blocks) ["class " ++ name ++ ":"])
  | leave failed => Line.written ((blocks.head?.map (closing (Block.depthOf blocks) failed)).getD [])

/-- Steps that leave each block that they enter, and no other. -/
inductive Nested : List Step → Prop
  | nil : Nested []
  | plain {step : Step} {later : List Step} (h : ∀ blocks, step.blocksAfter blocks = blocks)
      (hl : Nested later) : Nested (step :: later)
  | block {block : Block} {name : String} {failed : Bool} {inner later : List Step}
      (hi : Nested inner) (hl : Nested later) :
      Nested (enter block name :: (inner ++ leave failed :: later))

/-- A line without text is a line feed alone, and any other has four blanks for each class body in front. -/
theorem added_line (text : String) : (line text).added labels blocks =
    (if text = "" then [] else List.replicate (4 * Block.depthOf blocks) ' ' ++ text.toList) ++ ['\n'] := by
  rw [added, Line.at', List.map_singleton, Line.written_cons, Line.written_nil]
  split
  · rename_i h
    rw [Line.characters_of_empty h]
  · rename_i h
    rw [Line.characters_of_ne_empty h]

theorem added_leave (block : Block) (failed : Bool) : (leave failed).added labels (block :: blocks) =
    if block = .region ∧ failed = false then
      List.replicate (4 * Block.depthOf blocks) ' ' ++ "# endregion".toList ++ ['\n'] else [] := by
  have hclosing : ClassStub.closing ≠ "" := by decide
  cases block with
  | classBody => rfl
  | region =>
    cases failed with
    | true => rfl
    | false =>
      change Line.written [{ depth := Block.depthOf (.region :: blocks), text := ClassStub.closing }] = _
      rw [Line.written_cons, Line.characters_of_ne_empty hclosing, Block.depthOf_region]
      rfl

end Step

variable {labels : Labels} {d : Draft} {step : Step} {steps inner : List Step}

/-- What a step does, and whether it fails. -/
def perform (labels : Labels) (d : Draft) : Step → Except Failure Unit × Draft
  | .write text => (.ok (), { d with sheet := d.sheet.write text })
  | .line text => (.ok (), { d with sheet := d.sheet.writeLine text })
  | .declare name ps doc static =>
    let (result, sheet) := (Writing.declare labels name ps doc static).run d.sheet
    (result, { d with sheet })
  | .enter block name =>
    (.ok (), { sheet := d.sheet.openBlock block name, blocks := block :: d.blocks })
  | .leave failed =>
    match d.blocks with
    | [] => (.ok (), d)
    | block :: rest => (.ok (), { sheet := d.sheet.closeBlock block failed, blocks := rest })

/-- A draft after steps, of which some may have failed. -/
def after (labels : Labels) (d : Draft) (steps : List Step) : Draft :=
  steps.foldl (fun d step => (d.perform labels step).2) d

/-- Lines are written at the depth of the blocks that are open. -/
def IsIndented (d : Draft) : Prop := d.sheet.depth = Block.depthOf d.blocks

@[simp] theorem after_cons (labels : Labels) (d : Draft) (step : Step) (steps : List Step) :
    d.after labels (step :: steps) = (d.perform labels step).2.after labels steps := rfl

theorem after_append (labels : Labels) (d : Draft) (steps later : List Step) :
    d.after labels (steps ++ later) = (d.after labels steps).after labels later :=
  List.foldl_append

theorem blocks_perform (labels : Labels) (d : Draft) (step : Step) :
    (d.perform labels step).2.blocks = step.blocksAfter d.blocks := by
  cases step with
  | leave failed =>
    obtain ⟨s, blocks⟩ := d
    cases blocks <;> rfl
  | _ => rfl

/-- What happens within a block does not leave it. -/
theorem blocks_after (labels : Labels) (h : Step.Nested inner) (d : Draft) :
    (d.after labels inner).blocks = d.blocks := by
  induction h generalizing d with
  | nil => rfl
  | plain h _ ih => rw [after_cons, ih, blocks_perform, h]
  | block _ _ ihi ihl =>
    rw [after_cons, after_append, after_cons, ihl, blocks_perform, ihi, blocks_perform]
    rfl

theorem perform_isOk_iff (labels : Labels) (d : Draft) (step : Step) :
    (d.perform labels step).1 = .ok () ↔ step.IsWritable labels := by
  cases step with
  | declare name ps doc static =>
    obtain ⟨s, hrun, -⟩ := Writing.declare_of_depth labels (s := d.sheet) rfl name ps doc static
    have hresult : (d.perform labels (.declare name ps doc static)).1 =
        (ParameterList.text labels ps).map fun _ => () := congrArg Prod.fst hrun
    rw [hresult, map_eq_ok, Step.IsWritable, ← ParameterList.text_isOk_iff]
    simp
  | leave failed =>
    obtain ⟨s, blocks⟩ := d
    cases blocks <;> exact iff_of_true rfl trivial
  | _ => exact iff_of_true rfl trivial

/-- Entering a block writes its first lines, and a class body is one deeper. -/
theorem perform_enter (h : d.IsIndented) (block : Block) (name : String) :
    (d.perform labels (.enter block name)).2.IsIndented ∧
      (d.perform labels (.enter block name)).2.sheet.text.toList =
        d.sheet.text.toList ++ (Step.enter block name).added labels d.blocks := by
  cases block with
  | region =>
    have hd := (Sheet.depth_writeLine "" d.sheet).trans h
    refine ⟨(Sheet.depth_writeLine _ _).trans (hd.trans (Block.depthOf_region _).symm), ?_⟩
    change ((d.sheet.writeLine "").writeLine ("# region " ++ name)).text.toList = _
    rw [Writing.toList_writeLine_of_depth _ hd, Writing.toList_writeLine_of_depth _ h]
    simp [Step.added, Line.at']
  | classBody =>
    refine ⟨?_, Writing.toList_writeLine_of_depth _ h⟩
    change (d.sheet.writeLine _).depth + 1 = Block.depthOf (.classBody :: d.blocks)
    rw [Sheet.depth_writeLine, h, Block.depthOf_classBody]

/-- Leaving a block gives the depth back, and closes a region unless something failed within it. -/
theorem closeBlock_of_depth {s : Sheet} {block : Block} {rest : List Block}
    (hs : s.depth = Block.depthOf (block :: rest)) (failed : Bool) :
    (s.closeBlock block failed).depth = Block.depthOf rest ∧
      (s.closeBlock block failed).text.toList = s.text.toList ++
        Line.written (Step.closing (Block.depthOf (block :: rest)) failed block) := by
  cases block with
  | classBody =>
    refine ⟨?_, (List.append_nil _).symm⟩
    rw [Sheet.closeBlock, Sheet.dedent, hs, Block.depthOf_classBody, Nat.add_sub_cancel]
  | region =>
    rw [Block.depthOf_region] at hs ⊢
    cases failed with
    | true => exact ⟨hs, (List.append_nil _).symm⟩
    | false =>
      rw [Sheet.closeBlock, if_neg Bool.false_ne_true]
      exact ⟨(Sheet.depth_writeLine _ s).trans hs, Writing.toList_writeLine_of_depth _ hs⟩

theorem perform_leave (h : d.IsIndented) (failed : Bool) :
    (d.perform labels (.leave failed)).2.IsIndented ∧
      (d.perform labels (.leave failed)).2.sheet.text.toList =
        d.sheet.text.toList ++ (Step.leave failed).added labels d.blocks := by
  obtain ⟨s, blocks⟩ := d
  cases blocks with
  | nil => exact ⟨h, (List.append_nil _).symm⟩
  | cons block rest => exact closeBlock_of_depth h failed

/-- A step keeps the indentation and adds its lines. -/
theorem perform_of_isIndented (h : d.IsIndented) (step : Step) :
    (d.perform labels step).2.IsIndented ∧ (d.perform labels step).2.sheet.text.toList =
      d.sheet.text.toList ++ step.added labels d.blocks := by
  cases step with
  | write text => exact ⟨h, String.toList_append⟩
  | line text =>
    exact ⟨(Sheet.depth_writeLine text d.sheet).trans h, Writing.toList_writeLine_of_depth text h⟩
  | declare name ps doc static =>
    obtain ⟨s, hrun, hd, ht⟩ := Writing.declare_of_depth labels h name ps doc static
    have hsheet : (d.perform labels (.declare name ps doc static)).2 = { d with sheet := s } :=
      congrArg (fun out => { d with sheet := out.2 }) hrun
    rw [hsheet]
    exact ⟨hd, ht⟩
  | enter block name => exact perform_enter h block name
  | leave failed => exact perform_leave h failed

theorem isIndented_after (h : d.IsIndented) (steps : List Step) : (d.after labels steps).IsIndented := by
  induction steps generalizing d with
  | nil => exact h
  | cons step rest ih => exact ih (perform_of_isIndented h step).1

/-- Whatever has been done on a sheet, also where something failed:
* the depth is the number of class bodies that are open;
* a step fails exactly if it declares what cannot be written, and adds its own lines;
* a line is behind four blanks for each class body, and one without text has none;
* steps that leave what they enter give the depth back;
* a block is left at the depth at which it was entered, and only a region that is left normally is
  closed by a line. -/
theorem indents_and_closes (labels : Labels) (done : List Step) :
    let d := after labels {} done
    d.sheet.depth = Block.depthOf d.blocks ∧
    (∀ step : Step, ((d.perform labels step).1 = .ok () ↔ step.IsWritable labels) ∧
      (d.perform labels step).2.sheet.text.toList =
        d.sheet.text.toList ++ step.added labels d.blocks) ∧
    (∀ text, (d.perform labels (.line text)).2.sheet.text.toList = d.sheet.text.toList ++
      (if text = "" then [] else List.replicate (4 * d.sheet.depth) ' ' ++ text.toList) ++ ['\n']) ∧
    (∀ inner, Step.Nested inner → (d.after labels inner).blocks = d.blocks ∧
      (d.after labels inner).sheet.depth = d.sheet.depth) ∧
    ∀ block name inner failed, Step.Nested inner →
      let within := d.after labels (.enter block name :: inner)
      let outside := (within.perform labels (.leave failed)).2
      within.blocks = block :: d.blocks ∧ outside.blocks = d.blocks ∧
      outside.sheet.depth = d.sheet.depth ∧
      outside.sheet.text.toList = within.sheet.text.toList ++
        (if block = .region ∧ failed = false then
          List.replicate (4 * d.sheet.depth) ' ' ++ "# endregion".toList ++ ['\n'] else []) := by
  intro d
  have hfresh : ({} : Draft).IsIndented := rfl
  have hd : d.IsIndented := isIndented_after hfresh done
  have hnested : ∀ {inner}, Step.Nested inner → (d.after labels inner).sheet.depth = d.sheet.depth := by
    intro inner hi
    rw [show d.sheet.depth = _ from hd, isIndented_after hd inner, blocks_after labels hi]
  refine ⟨hd, fun step => ⟨perform_isOk_iff labels d step, (perform_of_isIndented hd step).2⟩,
    fun text => ?_, fun inner hi => ⟨blocks_after labels hi d, hnested hi⟩, ?_⟩
  · rw [(perform_of_isIndented hd _).2, Step.added_line, List.append_assoc, hd]
  intro block name inner failed hi within outside
  have hwithin : within.IsIndented := isIndented_after hd _
  have hblocks : within.blocks = block :: d.blocks := blocks_after labels hi _
  have houtside : outside = d.after labels (.enter block name :: (inner ++ [.leave failed])) := by
    rw [after_cons, after_append]
    rfl
  have hsame : Step.Nested (.enter block name :: (inner ++ [.leave failed])) := .block hi .nil
  refine ⟨hblocks, ?_, ?_, ?_⟩
  · rw [houtside, blocks_after labels hsame]
  · rw [houtside, hnested hsame]
  · rw [(perform_of_isIndented hwithin _).2, hblocks, Step.added_leave, hd]

/-- A class whose body fails after a line. -/
def brokenClass : List Step := [.enter .classBody "Shop", .line "open: bool", .leave true]

/-- The region of a class that failed is closed, without an indent. -/
theorem closes_region_of_brokenClass :
    Step.Nested brokenClass ∧
      (after (Labels.plain "") {} (.enter .region "app" :: (brokenClass ++ [.leave false]))).sheet.depth = 0 ∧
      (after (Labels.plain "") {} (.enter .region "app" :: (brokenClass ++ [.leave false]))).sheet.text.toList =
        (after (Labels.plain "") {} (.enter .region "app" :: brokenClass)).sheet.text.toList ++
          "# endregion\n".toList := by
  have hnested : Step.Nested brokenClass := .block (.plain (fun _ => rfl) .nil) .nil
  obtain ⟨-, -, -, -, hblock⟩ := indents_and_closes (Labels.plain "") []
  obtain ⟨-, -, hdepth, htext⟩ := hblock .region "app" brokenClass false hnested
  exact ⟨hnested, hdepth, htext⟩

end Draft
end MacroStubs
