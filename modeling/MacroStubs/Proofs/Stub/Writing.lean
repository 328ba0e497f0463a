import MacroStubs.Proofs.Declaration.Method
import MacroStubs.Proofs.Docstring.ReadBack
import MacroStubs.Proofs.Stub.Lines

/-! # Writing the lines of a stub

Writing a stub adds its lines to a sheet, or fails with the first part that cannot be told.
-/

namespace MacroStubs

variable {labels : Labels}

/-- The declaration of a reflected macro with its parameters written. -/
def Reflection.declared? (labels : Labels) (r : Reflection) : Except Failure Declared := do
  let m ← r.method?
  let text ← ParameterList.text labels m.parameters
  pure { name := m.name, parameters := String.ofList text, docstring := m.docstring }

/-- A reflected class with its declarations. -/
def ClassReflection.stub? (labels : Labels) (c : ClassReflection) : Except Failure ClassStub := do
  let module ← c.module
  let className ← c.className
  let declarations ← c.entries.mapM (·.declared? labels)
  pure { module, className, declarations }

def ClassReflection.stubs? (labels : Labels) (classes : List ClassReflection) :
    Except Failure (List ClassStub) :=
  classes.mapM fun c => c.stub? labels

namespace Writing

variable {x y : Writing Unit} {d : Nat} {e e' : Except Failure (List Line)}

/-- What a step does on any sheet of this depth: it adds the lines, or fails. -/
def Yields (x : Writing Unit) (d : Nat) (e : Except Failure (List Line)) : Prop :=
  ∀ s : Sheet, s.depth = d → ∃ s', x.run s = (e.map fun _ => (), s') ∧
    ∀ lines, e = .ok lines →
      s'.depth = d ∧ s'.text.toList = s.text.toList ++ Line.written lines

theorem yields_nil : Yields (pure ()) d (.ok []) := by
  intro s hs
  refine ⟨s, rfl, ?_⟩
  rintro _ ⟨⟩
  exact ⟨hs, by simp⟩

theorem yields_line (text : String) : Yields (line text) d (.ok [{ depth := d, text }]) := by
  intro s hs
  refine ⟨s.writeLine text, rfl, ?_⟩
  rintro _ ⟨⟩
  refine ⟨(Sheet.depth_writeLine text s).trans hs, ?_⟩
  rw [toList_writeLine, hs]
  simp [Line.characters]

/-- One step behind another. -/
theorem Yields.seq (hx : Yields x d e) (hy : Yields y d e') :
    Yields (do x; y) d (do pure ((← e) ++ (← e'))) := by
  intro s hs
  obtain ⟨s₁, hrun, hlines⟩ := hx s hs
  cases e with
  | error f => exact ⟨s₁, Run.bind_of_error hrun, nofun⟩
  | ok lines =>
    obtain ⟨hd, ht⟩ := hlines lines rfl
    obtain ⟨s₂, hrun', hlater⟩ := hy s₁ hd
    refine ⟨s₂, ?_, ?_⟩
    · rw [Run.bind_of_ok hrun, hrun']
      cases e' <;> rfl
    · intro all hall
      cases e' with
      | error f => cases hall
      | ok later =>
        obtain ⟨hd', ht'⟩ := hlater later rfl
        obtain rfl : lines ++ later = all := Except.ok.inj hall
        exact ⟨hd', by rw [ht', ht, Line.written_append, List.append_assoc]⟩

theorem yields_ofExcept {α : Type} (told : Except Failure α) {f : α → Writing Unit}
    {g : α → Except Failure (List Line)} (h : ∀ a, Yields (f a) d (g a)) :
    Yields (do f (← ofExcept told)) d (told >>= g) := by
  cases told with
  | error failure => exact fun s _ => ⟨s, rfl, nofun⟩
  | ok a => exact h a

theorem run_within (block : Block) (name : String) (x : Writing Unit) (s : Sheet) :
    (within block name x).run s = match x.run (s.openBlock block name) with
      | (.ok (), s) => (.ok (), s.closeBlock block false)
      | (.error f, s) => (.error f, s.closeBlock block true) := by
  change within block name x s = _
  unfold within
  generalize x.run (s.openBlock block name) = written
  obtain ⟨result, s⟩ := written
  cases result <;> rfl

/-- A block adds the lines that open it, those within it, and the lines that close it. -/
theorem Yields.within {block : Block} {name : String} {inner : Nat} {opening closing : List Line}
    (h : Yields x inner e)
    (hopen : ∀ s : Sheet, s.depth = d → (s.openBlock block name).depth = inner ∧
      (s.openBlock block name).text.toList = s.text.toList ++ Line.written opening)
    (hclose : ∀ s : Sheet, s.depth = inner → (s.closeBlock block false).depth = d ∧
      (s.closeBlock block false).text.toList = s.text.toList ++ Line.written closing) :
    Yields (Writing.within block name x) d (do pure (opening ++ (← e) ++ closing)) := by
  intro s hs
  obtain ⟨ho, hot⟩ := hopen s hs
  obtain ⟨s', hrun, hlines⟩ := h _ ho
  cases e with
  | error f =>
    refine ⟨s'.closeBlock block true, ?_, nofun⟩
    rw [run_within, hrun]
    rfl
  | ok lines =>
    obtain ⟨hd, ht⟩ := hlines lines rfl
    obtain ⟨hc, hct⟩ := hclose s' hd
    refine ⟨s'.closeBlock block false, ?_, ?_⟩
    · rw [run_within, hrun]
      rfl
    intro all hall
    obtain rfl : opening ++ lines ++ closing = all := Except.ok.inj hall
    exact ⟨hc, by simp [hct, ht, hot]⟩

theorem toList_writeLine_of_depth (text : String) {s : Sheet} (hs : s.depth = d) :
    (s.writeLine text).text.toList =
      s.text.toList ++ Line.written [{ depth := d, text }] := by
  rw [toList_writeLine, hs]
  simp [Line.characters]

theorem yields_region (name : String) (h : Yields x d e) :
    Yields (within .region name x) d
      (do pure (Line.at' d ["", "# region " ++ name] ++ (← e) ++ Line.at' d [ClassStub.closing])) := by
  refine h.within (fun s hs => ?_) fun s hs => ?_
  · have hd := (Sheet.depth_writeLine "" s).trans hs
    refine ⟨(Sheet.depth_writeLine _ _).trans hd, ?_⟩
    rw [Sheet.openBlock, toList_writeLine_of_depth _ hd, toList_writeLine_of_depth _ hs]
    simp [Line.at']
  · rw [Sheet.closeBlock, if_neg Bool.false_ne_true]
    exact ⟨(Sheet.depth_writeLine _ s).trans hs, toList_writeLine_of_depth _ hs⟩

theorem yields_classBody (name : String) (h : Yields x (d + 1) e) :
    Yields (within .classBody name x) d
      (do pure (Line.at' d ["class " ++ name ++ ":"] ++ (← e) ++ [])) := by
  refine h.within (fun s hs => ?_) fun s hs => ?_
  · refine ⟨?_, toList_writeLine_of_depth _ hs⟩
    simp [Sheet.openBlock, Sheet.indent, Sheet.depth_writeLine, hs]
  · exact ⟨by simp [Sheet.closeBlock, Sheet.dedent, hs], by simp [Sheet.closeBlock, Sheet.dedent]⟩

theorem toList_writeLines_of_depth (texts : List String) {s : Sheet} (hs : s.depth = d) :
    (s.writeLines texts).text.toList = s.text.toList ++ Line.written (Line.at' d texts) := by
  rw [toList_writeLines, hs]
  simp [Line.written, Line.at', List.flatMap_map, Line.characters]

/-- A sheet on which a declaration has been begun. -/
def begun (labels : Labels) (ps : ParameterList) (static : Bool) (s : Sheet) : Sheet :=
  (if static then s.writeLine "@staticmethod" else s).note (ParameterList.notes labels ps)

theorem run_declare (name : String) (ps : ParameterList) (doc : Option String) (static : Bool)
    (s : Sheet) :
    (declare labels name ps doc static).run s =
      match ParameterList.text labels ps with
      | .error f => (.error f, begun labels ps static s)
      | .ok text =>
        (.ok (), ((((begun labels ps static s).writeLine
          ("def " ++ name ++ "(" ++ String.ofList text ++ "):")).indent.writeLines
          (docstringLines (doc.getD ""))).writeLine "...").dedent) := by
  unfold declare
  cases ParameterList.text labels ps <;> cases static <;> rfl

theorem begun_of_depth (labels : Labels) {s : Sheet} (hs : s.depth = d) (ps : ParameterList) (static : Bool) :
    (begun labels ps static s).depth = d ∧ (begun labels ps static s).text.toList =
      s.text.toList ++ Line.written (Line.at' d (if static then ["@staticmethod"] else [])) := by
  cases static with
  | false => exact ⟨hs, (List.append_nil _).symm⟩
  | true =>
    change (s.writeLine "@staticmethod").depth = d ∧ (s.writeLine "@staticmethod").text.toList = _
    exact ⟨(Sheet.depth_writeLine _ s).trans hs, toList_writeLine_of_depth _ hs⟩

/-- What a declaration adds: its decorator, and the rest if its parameters can be written. -/
def declaredLines (labels : Labels) (name : String) (ps : ParameterList) (doc : Option String)
    (static : Bool) (depth : Nat) : List Line :=
  Line.at' depth (if static then ["@staticmethod"] else []) ++
    match ParameterList.text labels ps with
    | .error _ => []
    | .ok text =>
      let declared : Declared := { name, parameters := String.ofList text, docstring := doc }
      Line.at' depth [declared.definition] ++ Line.at' (depth + 1) declared.body

theorem declare_of_depth (labels : Labels) {s : Sheet} (hs : s.depth = d) (name : String)
    (ps : ParameterList) (doc : Option String) (static : Bool) :
    ∃ s', (declare labels name ps doc static).run s =
        ((ParameterList.text labels ps).map fun _ => (), s') ∧ s'.depth = d ∧
      s'.text.toList = s.text.toList ++
        Line.written (declaredLines labels name ps doc static d) := by
  rw [run_declare]
  obtain ⟨hd, hb⟩ := begun_of_depth labels hs ps static
  rw [declaredLines]
  cases ParameterList.text labels ps with
  | error f => exact ⟨_, rfl, hd, by rw [hb, List.append_nil]⟩
  | ok text =>
    refine ⟨_, rfl, ?_⟩
    set s₁ := (begun labels ps static s).writeLine
      ("def " ++ name ++ "(" ++ String.ofList text ++ "):") with hs₁
    have hd₁ : s₁.depth = d := (Sheet.depth_writeLine _ _).trans hd
    have hd₂ : s₁.indent.depth = d + 1 := by rw [Sheet.indent, hd₁]
    have hd₃ := (Sheet.depth_writeLines (docstringLines (doc.getD "")) _).trans hd₂
    constructor
    · rw [Sheet.dedent, Sheet.depth_writeLine, hd₃, Nat.add_sub_cancel]
    · rw [Sheet.dedent, toList_writeLine_of_depth _ hd₃, toList_writeLines_of_depth _ hd₂,
        Sheet.indent, hs₁, toList_writeLine_of_depth _ hd, hb]
      simp [Declared.body, Declared.definition, Line.at']

/-- A declaration is written if its parameters can be. -/
theorem yields_declare (labels : Labels) (name : String) (ps : ParameterList) (doc : Option String) :
    Yields (declare labels name ps doc (!isMarked doc)) d
      (do
        let text ← ParameterList.text labels ps
        pure (Declared.lines { name, parameters := String.ofList text, docstring := doc } d)) := by
  intro s hs
  obtain ⟨s', hrun, hd, ht⟩ := declare_of_depth labels hs name ps doc (!isMarked doc)
  rw [declaredLines] at ht
  cases htext : ParameterList.text labels ps with
  | error f => exact ⟨s', by rw [hrun, htext]; rfl, nofun⟩
  | ok text =>
    refine ⟨s', by rw [hrun, htext]; rfl, ?_⟩
    rintro _ ⟨⟩
    rw [htext] at ht
    refine ⟨hd, ht.trans ?_⟩
    cases hm : isMarked doc <;> simp [Declared.lines, Declared.heads, Line.at', hm]

/-- Writing a reflected macro writes its declaration, if it can be told. -/
theorem yields_write (labels : Labels) (owner : String) (r : Reflection) :
    Yields (Declaration.write labels owner r) d
      (do let declared ← r.declared? labels; pure (declared.lines d)) := by
  intro s hs
  change ∃ s', Declaration.write labels owner r s = _ ∧ _
  rw [Reflection.write_eq, Reflection.declared?]
  cases hm : r.method? with
  | error f => exact ⟨_, rfl, nofun⟩
  | ok m =>
    obtain ⟨ps, doc, -, -, rfl⟩ := Reflection.method?_eq_ok.mp hm
    simp only [bind_assoc, pure_bind]
    exact yields_declare labels r.name (Declaration.declared r.includesReceiver (isMarked doc) ps) doc
      (s.note (r.warnings owner)) hs

/-- Declarations are written with an empty line between each two. -/
theorem yields_writeAll (labels : Labels) (owner : String) (rs : List Reflection) :
    Yields (Declaration.writeAll labels owner rs) d (do
      let declarations ← rs.mapM fun r => r.declared? labels
      pure ((Line.at' d [""]).intercalate (declarations.map (·.lines d)))) := by
  induction rs with
  | nil => exact yields_nil
  | cons r rest ih =>
    cases rest with
    | nil =>
      have h := yields_write (d := d) labels owner r
      simpa [Declaration.writeAll, bind_assoc] using h
    | cons next rest =>
      have h := (yields_write labels owner r).seq ((yields_line "").seq ih)
      rw [Declaration.writeAll.eq_3 labels owner r (next :: rest) nofun]
      convert h using 1
      rw [List.mapM_cons, List.mapM_cons]
      cases r.declared? labels <;> cases next.declared? labels <;>
        cases rest.mapM fun r => r.declared? labels <;>
        simp [bind, Except.bind, pure, Except.pure, List.intercalate_cons_cons, Line.at']

/-- The block of a class is written if all that it tells can be told. -/
theorem yields_writeClass (labels : Labels) (c : ClassReflection) :
    Yields (Declaration.writeClass labels c) 0
      (do let stub ← c.stub? labels; pure stub.lines) := by
  have h := yields_ofExcept c.module fun module =>
    yields_region module <| yields_ofExcept c.className fun className =>
      yields_classBody (d := 0) className <|
        yields_writeAll labels (qualifiedName module className) c.entries
  rw [Declaration.writeClass]
  convert h using 1
  rw [ClassReflection.stub?]
  cases c.module <;> cases c.className <;> cases c.entries.mapM fun r => r.declared? labels <;>
    simp [bind, Except.bind, pure, Except.pure, ClassStub.lines, ClassStub.opening, Line.at']

theorem yields_writeClasses (labels : Labels) (classes : List ClassReflection) :
    Yields (classes.forM (Declaration.writeClass labels)) 0
      (do
        let stubs ← ClassReflection.stubs? labels classes
        pure (stubs.flatMap (·.lines))) := by
  induction classes with
  | nil => exact yields_nil
  | cons c rest ih =>
    have h := (yields_writeClass labels c).seq ih
    rw [ClassReflection.stubs?, List.mapM_cons]
    change Yields (do Declaration.writeClass labels c; rest.forM _) 0 _
    convert h using 1
    rw [ClassReflection.stubs?]
    cases c.stub? labels <;> cases rest.mapM fun c => c.stub? labels <;> rfl

/-- A stub is written exactly if all of its classes can be told. -/
theorem yields_writeStub (labels : Labels) (classes : List ClassReflection) :
    Yields (Declaration.writeStub labels classes) 0
      (do let stubs ← ClassReflection.stubs? labels classes; pure (ClassStub.linesOf stubs)) := by
  have h := (yields_line (d := 0) stubHeader).seq (yields_writeClasses labels classes)
  rw [Declaration.writeStub]
  convert h using 1
  cases ClassReflection.stubs? labels classes <;> rfl

end Writing

/-- Writing a stub succeeds exactly if each class can be told, and then its text is that of the
lines. -/
theorem Declaration.writeStub_run (labels : Labels) (classes : List ClassReflection) :
    ∃ s, (writeStub labels classes).run {} =
        ((ClassReflection.stubs? labels classes).map fun _ => (), s) ∧
      ∀ stubs, ClassReflection.stubs? labels classes = .ok stubs →
        s.text.toList = Line.written (ClassStub.linesOf stubs) := by
  obtain ⟨s, hrun, hlines⟩ := Writing.yields_writeStub labels classes {} rfl
  refine ⟨s, ?_, ?_⟩
  · rw [hrun]
    cases ClassReflection.stubs? labels classes <;> rfl
  · intro stubs h
    rw [h] at hlines
    exact (hlines _ rfl).2

theorem Declaration.writeStub_eq_ok {classes : List ClassReflection} {s : Sheet}
    (h : (writeStub labels classes).run {} = (.ok (), s)) :
    ∃ stubs, ClassReflection.stubs? labels classes = .ok stubs ∧
      s.text.toList = Line.written (ClassStub.linesOf stubs) := by
  obtain ⟨s', hrun, hlines⟩ := writeStub_run labels classes
  rw [h] at hrun
  obtain ⟨hok, rfl⟩ := Prod.mk.inj hrun
  obtain ⟨stubs, hstubs, -⟩ := map_eq_ok.mp hok.symm
  exact ⟨stubs, hstubs, hlines stubs hstubs⟩

end MacroStubs
