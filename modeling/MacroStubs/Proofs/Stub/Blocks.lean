import MacroStubs.Proofs.Stub.Completion

/-! # Blocks of a stub

A stub is its header and one block for each class, which is what is written for the class on a sheet of
its own. Where a class cannot be told, the blocks of the classes before it are there as a whole, and
something of its own may follow.
-/

namespace MacroStubs

variable {w : World} {σ : State}

namespace Writing

variable {α : Type} {x y : Writing Unit}

/-- A step that takes nothing back of what stands on a sheet, however it ends. -/
def Grows (x : Writing Unit) : Prop := ∀ s, ∃ more, (x.run s).2.text = s.text ++ more

namespace Grows

theorem of_exists {f : Sheet → Sheet} (h : ∀ s, ∃ more, (f s).text = s.text ++ more) :
    Grows (modify f) := h

theorem of_text {f : Sheet → Sheet} (h : ∀ s, (f s).text = s.text) : Grows (modify f) := fun s =>
  ⟨"", by rw [String.append_empty]; exact h s⟩

theorem pure : Grows (Pure.pure ()) := of_text fun _ => rfl

theorem throw (f : Failure) : Grows (throw f) := fun _ => ⟨"", String.append_empty.symm⟩

theorem seq (hx : Grows x) (hy : Grows y) : Grows (do x; y) := by
  intro s
  obtain ⟨more, hs⟩ := hx s
  rw [Run.run_bind]
  split
  · rename_i t hrun
    obtain ⟨later, ht⟩ := hy t
    rw [hrun] at hs
    exact ⟨more ++ later, by rw [ht, hs, String.append_assoc]⟩
  · rename_i t hrun
    rw [hrun] at hs
    exact ⟨more, hs⟩

/-- What is told, or fails to be, adds nothing itself. -/
theorem ofExcept {e : Except Failure α} {f : α → Writing Unit} (hf : ∀ a, Grows (f a)) :
    Grows (do f (← Writing.ofExcept e)) := by
  cases e with
  | error failure => exact throw failure
  | ok a => exact hf a

end Grows

theorem exists_text_writeLine (text : String) (s : Sheet) :
    ∃ more, (s.writeLine text).text = s.text ++ more := by
  rw [Sheet.writeLine]
  split
  · exact ⟨_, rfl⟩
  · exact ⟨_, rfl⟩

theorem exists_text_writeLines (texts : List String) (s : Sheet) :
    ∃ more, (s.writeLines texts).text = s.text ++ more := by
  induction texts generalizing s with
  | nil => exact ⟨"", String.append_empty.symm⟩
  | cons text rest ih =>
    obtain ⟨more, hs⟩ := exists_text_writeLine text s
    obtain ⟨later, ht⟩ := ih (s.writeLine text)
    exact ⟨more ++ later, by rw [← String.append_assoc, ← hs]; exact ht⟩

theorem grows_line (text : String) : Grows (line text) := exists_text_writeLine text

theorem exists_text_openBlock (block : Block) (name : String) (s : Sheet) :
    ∃ more, (s.openBlock block name).text = s.text ++ more := by
  cases block with
  | classBody => exact exists_text_writeLine _ s
  | region =>
    obtain ⟨more, hs⟩ := exists_text_writeLine "" s
    obtain ⟨later, ht⟩ := exists_text_writeLine ("# region " ++ name) (s.writeLine "")
    exact ⟨more ++ later, by rw [← String.append_assoc, ← hs]; exact ht⟩

theorem exists_text_closeBlock (block : Block) (failed : Bool) (s : Sheet) :
    ∃ more, (s.closeBlock block failed).text = s.text ++ more := by
  cases block with
  | classBody => exact ⟨"", String.append_empty.symm⟩
  | region =>
    rw [Sheet.closeBlock]
    split
    · exact ⟨"", String.append_empty.symm⟩
    · exact exists_text_writeLine _ s

theorem grows_within (block : Block) (name : String) (hx : Grows x) : Grows (within block name x) := by
  intro s
  obtain ⟨opening, ho⟩ := exists_text_openBlock block name s
  obtain ⟨body, hb⟩ := hx (s.openBlock block name)
  rw [run_within]
  split <;>
  · rename_i t hrun
    obtain ⟨closing, hc⟩ := exists_text_closeBlock block _ t
    rw [hrun] at hb
    exact ⟨opening ++ body ++ closing, by rw [hc, hb, ho]; simp only [String.append_assoc]⟩

variable (labels : Labels)

theorem grows_declare (name : String) (ps : ParameterList) (doc : Option String) (static : Bool) :
    Grows (declare labels name ps doc static) := by
  have hrest : Grows (do
      modify (·.note (ParameterList.notes labels ps))
      let list ← ofExcept (ParameterList.text labels ps)
      line ("def " ++ name ++ "(" ++ String.ofList list ++ "):")
      modify (·.indent)
      modify (·.writeLines (docstringLines (doc.getD "")))
      line "..."
      modify (·.dedent)) :=
    .seq (.of_text fun _ => rfl) <| .ofExcept fun list => .seq (grows_line _) <|
      .seq (.of_text fun _ => rfl) <| .seq (.of_exists (exists_text_writeLines _)) <|
        .seq (grows_line _) (.of_text fun _ => rfl)
  rw [declare]
  split
  · exact .seq (grows_line _) hrest
  · exact hrest

theorem grows_write (owner : String) (r : Reflection) :
    Grows (Declaration.write labels owner r) := by
  intro s
  change ∃ more, (Declaration.write labels owner r s).2.text = s.text ++ more
  rw [Reflection.write_eq]
  cases r.method? with
  | error f => exact ⟨"", String.append_empty.symm⟩
  | ok m => exact grows_declare labels m.name m.parameters m.docstring m.static (s.note _)

theorem grows_writeAll (owner : String) (rs : List Reflection) :
    Grows (Declaration.writeAll labels owner rs) := by
  induction rs with
  | nil => exact .pure
  | cons r rest ih =>
    cases rest with
    | nil => exact grows_write labels owner r
    | cons next rest => exact .seq (grows_write labels owner r) (.seq (grows_line "") ih)

/-- Writing the block of a class takes nothing back, also where it fails. -/
theorem grows_writeClass (c : ClassReflection) : Grows (Declaration.writeClass labels c) :=
  .ofExcept fun module => grows_within .region module <| .ofExcept fun className =>
    grows_within .classBody className (grows_writeAll labels _ c.entries)

theorem grows_writeClasses (classes : List ClassReflection) :
    Grows (classes.forM (Declaration.writeClass labels)) := by
  induction classes with
  | nil => exact .pure
  | cons c rest ih => exact .seq (grows_writeClass labels c) ih

end Writing

namespace ClassMacros

/-- The block of a class, as it is written on a sheet of its own. -/
def block (w : World) (σ : State) (c : ClassMacros) : String :=
  ((Declaration.writeClass (labels w (Reach.of w) σ) (c.reflect w (Reach.of w) σ)).run {}).2.text

/-- The text of a stub with these blocks. -/
def sheetText (blocks : List String) : String := stubHeader ++ "\n" ++ String.join blocks

/-- Writes what stands below the header. -/
def writeBlocks (w : World) (σ : State) (classes : List ClassMacros) : Writing Unit :=
  (classes.map (·.reflect w (Reach.of w) σ)).forM
    (Declaration.writeClass (labels w (Reach.of w) σ))

theorem writeBlocks_append (classes later : List ClassMacros) :
    writeBlocks w σ (classes ++ later) =
      (do writeBlocks w σ classes; writeBlocks w σ later) := by
  rw [writeBlocks, List.map_append]
  exact List.forM_append

/-- Writing classes that can be told adds their blocks. -/
theorem run_writeBlocks {classes : List ClassMacros} (h : ∀ c ∈ classes, c.IsTold w σ) {s : Sheet}
    (hs : s.depth = 0) : ∃ s', (writeBlocks w σ classes).run s = (.ok (), s') ∧ s'.depth = 0 ∧
      s'.text = s.text ++ String.join (classes.map (·.block w σ)) := by
  induction classes generalizing s with
  | nil => exact ⟨s, rfl, hs, String.append_empty.symm⟩
  | cons c rest ih =>
    obtain ⟨hc, hrest⟩ := List.forall_mem_cons.mp h
    obtain ⟨stub, hstub⟩ := stub?_isOk_iff.mpr hc
    have hyields := Writing.yields_writeClass (labels w (Reach.of w) σ) (c.reflect w (Reach.of w) σ)
    rw [hstub] at hyields
    obtain ⟨s₁, hrun, hlines⟩ := hyields s hs
    obtain ⟨hd, htext⟩ := hlines _ rfl
    obtain ⟨s₀, hrun₀, hlines₀⟩ := hyields {} rfl
    have hblock : s₁.text = s.text ++ c.block w σ := by
      apply String.toList_inj.mp
      rw [htext, block, hrun₀, String.toList_append, (hlines₀ _ rfl).2]
      rfl
    obtain ⟨s₂, hrun', hd', htext'⟩ := ih hrest hd
    refine ⟨s₂, (Run.bind_of_ok hrun).trans hrun', hd', ?_⟩
    rw [htext', hblock, String.append_assoc, List.map_cons, String.join_cons]

/-- Before the classes a stub has its header. -/
theorem write_eq (w : World) (σ : State) (classes : List ClassMacros) :
    ∃ s : Sheet, s.depth = 0 ∧ s.text = sheetText [] ∧
      write w σ classes = (writeBlocks w σ classes).run s :=
  ⟨({} : Sheet).writeLine stubHeader, rfl, rfl, rfl⟩

theorem sheetText_nil_append (blocks : List String) :
    sheetText [] ++ String.join blocks = sheetText blocks := by
  rw [sheetText, sheetText, String.join_nil, String.append_empty]

/-- A stub that is written to its end is its header and the blocks of its classes. -/
theorem text_write {classes : List ClassMacros} (h : ∀ c ∈ classes, c.IsTold w σ) :
    (write w σ classes).2.text = sheetText (classes.map (·.block w σ)) := by
  obtain ⟨s, hd, ht, hwrite⟩ := write_eq w σ classes
  obtain ⟨s', hrun, -, htext⟩ := run_writeBlocks h hd
  rw [hwrite, hrun, htext, ht, sheetText_nil_append]

/-- A stub that fails has the blocks of the classes before the first that cannot be told. -/
theorem text_write_of_error {classes : List ClassMacros} {f : Failure}
    (h : (write w σ classes).1 = .error f) :
    ∃ done failing rest, classes = done ++ failing :: rest ∧ (∀ c ∈ done, c.IsTold w σ) ∧
      ¬ failing.IsTold w σ ∧
      ∃ more, (write w σ classes).2.text = sheetText (done.map (·.block w σ)) ++ more := by
  classical
  have huntold : (classes.find? fun c => decide (¬ c.IsTold w σ)).isSome = true := by
    by_contra hnone
    have hall : ∀ c ∈ classes, c.IsTold w σ := by simpa using hnone
    rw [write_isOk_iff.mpr hall] at h
    cases h
  obtain ⟨failing, hfailing⟩ := Option.isSome_iff_exists.mp huntold
  obtain ⟨hf, done, rest, rfl, hdone⟩ := List.find?_eq_some_iff_append.mp hfailing
  have htold : ∀ c ∈ done, c.IsTold w σ := fun c hc => by simpa using hdone c hc
  refine ⟨done, failing, rest, rfl, htold, of_decide_eq_true hf, ?_⟩
  obtain ⟨s, hd, ht, hwrite⟩ := write_eq w σ (done ++ failing :: rest)
  obtain ⟨s', hrun, -, htext⟩ := run_writeBlocks htold hd
  obtain ⟨more, hmore⟩ := Writing.grows_writeClasses (labels w (Reach.of w) σ)
    ((failing :: rest).map (·.reflect w (Reach.of w) σ)) s'
  refine ⟨more, ?_⟩
  rw [hwrite, writeBlocks_append, Run.bind_of_ok hrun, ← sheetText_nil_append, ← ht, ← htext]
  exact hmore

end ClassMacros
end MacroStubs
