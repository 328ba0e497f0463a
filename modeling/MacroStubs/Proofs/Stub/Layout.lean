import MacroStubs.Proofs.Stub.Completion

/-! # Layout of stubs

What the blanks in front of the lines of a stub tell. Classes stand at no depth, the heads of their
declarations behind four blanks, and all that comes of docstrings behind eight or more, so a reader
that looks at the first two only finds the classes and their declarations as they were written.
-/

namespace MacroStubs
open Text

namespace Layout

/-- The number of blanks in front. -/
def leading (line : List Char) : Nat := (line.takeWhile (· == ' ')).length

/-- Whether a line that is not empty stands at a depth, four blanks for each level. -/
def isIndented (depth : Nat) (line : List Char) : Bool :=
  !line.isEmpty && leading line == 4 * depth

theorem leading_replicate_append (n : Nat) (line : List Char) :
    leading (List.replicate n ' ' ++ line) = n + leading line := by
  induction n with
  | zero => rw [List.replicate_zero, List.nil_append, Nat.zero_add]
  | succ n ih =>
    rw [List.replicate_succ, List.cons_append, leading, List.takeWhile_cons_of_pos rfl,
      List.length_cons, ← leading, ih]
    omega

theorem leading_of_head? {line : List Char} (h : line.head? ≠ some ' ') : leading line = 0 := by
  cases line with
  | nil => rfl
  | cons c rest =>
    have hc : (c == ' ') = false := by simpa using h
    rw [leading, List.takeWhile_cons, hc]
    rfl

end Layout

namespace Line
open Layout

/-- A line as stubs have them: it holds no line feed, and what stands at no depth or at the first
begins with no blank. -/
structure IsLaid (l : Line) : Prop where
  single : '\n' ∉ l.text.toList
  shallow : l.depth < 2 → l.text.toList.head? ≠ some ' '

variable {l : Line} {lines : List Line} {depth : Nat}

theorem characters_of_empty (h : l.text = "") : l.characters = [] := by
  rw [characters, h]
  rfl

theorem characters_of_ne_empty (h : l.text ≠ "") :
    l.characters = List.replicate (4 * l.depth) ' ' ++ l.text.toList := by
  have hn : l.text.toList.isEmpty = false := by simpa using h
  rw [characters, padded, hn, if_neg Bool.false_ne_true, blanks]

theorem characters_of_zero (text : String) : characters { depth := 0, text } = text.toList := by
  rw [characters, padded, blanks]
  split
  · rename_i he
    exact (List.isEmpty_iff.mp he).symm
  · rfl

theorem leading_characters (h : l.text ≠ "") :
    leading l.characters = 4 * l.depth + leading l.text.toList := by
  rw [characters_of_ne_empty h, leading_replicate_append]

/-- The blanks in front of a line tell its depth, if this is small. -/
theorem IsLaid.isIndented_characters (h : l.IsLaid) (hd : depth < 2) :
    isIndented depth l.characters = l.isAt depth := by
  by_cases he : l.text = ""
  · rw [isIndented, characters_of_empty he, isAt, he]
    simp
  · have hn : l.text.toList ≠ [] := by simpa using he
    have hc : l.characters ≠ [] := by simp [characters_of_ne_empty he, hn]
    have hdepth : leading l.characters = 4 * depth ↔ l.depth = depth := by
      rw [leading_characters he]
      constructor
      · intro heq
        have hl : leading l.text.toList = 0 := leading_of_head? (h.shallow (by omega))
        omega
      · intro heq
        rw [leading_of_head? (h.shallow (heq ▸ hd)), heq, Nat.add_zero]
    rw [Bool.eq_iff_iff]
    simp [isIndented, isAt, hc, he, hdepth]

/-- A line with anything in it stands at no depth, at the first, or behind eight blanks or more. -/
theorem IsLaid.leading_cases (h : l.IsLaid) (hn : l.characters ≠ []) :
    leading l.characters = 0 ∨ leading l.characters = 4 ∨ 8 ≤ leading l.characters := by
  have he : l.text ≠ "" := fun he => hn (characters_of_empty he)
  rw [leading_characters he]
  by_cases hd : l.depth < 2
  · rw [leading_of_head? (h.shallow hd)]
    omega
  · omega

/-- The lines of a text are those that were written and an empty one at the end. -/
theorem splitOn_written (h : ∀ l ∈ lines, l.IsLaid) :
    splitOn '\n' (written lines) = lines.map characters ++ [[]] := by
  have hs : ∀ line ∈ lines.map characters, '\n' ∉ line := by
    intro line hl
    obtain ⟨l, hm, rfl⟩ := List.mem_map.mp hl
    exact newline_not_mem_padded (h l hm).single
  rw [← splitOn_flatMap hs List.not_mem_nil, List.flatMap_map, List.append_nil]
  rfl

theorem filter_characters (h : ∀ l ∈ lines, l.IsLaid) (hd : depth < 2) :
    (lines.map characters ++ [[]]).filter (isIndented depth) =
      (lines.filter (isAt depth)).map characters := by
  rw [List.filter_append, List.filter_map]
  have hend : [([] : List Char)].filter (isIndented depth) = [] := rfl
  rw [hend, List.append_nil]
  congr 1
  exact List.filter_congr fun l hl => (h l hl).isIndented_characters hd

end Line

theorem Text.newline_not_mem_of_mem_lines {cs line : List Char} (h : line ∈ lines cs) :
    '\n' ∉ line := by
  have hne : ∀ {c : Char}, ¬ isLineBoundary c = true → '\n' ≠ c := by
    rintro c hc rfl
    exact hc (by decide)
  induction cs using lines.induct generalizing line with
  | case1 => cases h
  | case2 rest ih =>
    rw [lines] at h
    rcases List.mem_cons.mp h with rfl | h
    · exact List.not_mem_nil
    · exact ih h
  | case3 c rest hcr hb ih =>
    rw [lines.eq_3 c rest hcr, if_pos hb] at h
    rcases List.mem_cons.mp h with rfl | h
    · exact List.not_mem_nil
    · exact ih h
  | case4 c rest hcr hb hl ih =>
    rw [lines.eq_3 c rest hcr, if_neg hb, hl] at h
    rw [List.mem_singleton.mp h, List.mem_singleton]
    exact hne hb
  | case5 c rest hcr hb first later hl ih =>
    rw [lines.eq_3 c rest hcr, if_neg hb, hl] at h
    rw [hl] at ih
    rcases List.mem_cons.mp h with rfl | h
    · simp [hne hb, ih List.mem_cons_self]
    · exact ih (List.mem_cons_of_mem _ h)

/-- No line of a docstring holds a line feed. -/
theorem newline_not_mem_docstringLines {doc text : String} (h : text ∈ docstringLines doc) :
    '\n' ∉ text.toList := by
  have hlines : ∀ t ∈ (lines (escapeDocstring doc.toList)).map String.ofList, '\n' ∉ t.toList := by
    intro t ht
    obtain ⟨line, hl, rfl⟩ := List.mem_map.mp ht
    rw [String.toList_ofList]
    exact newline_not_mem_of_mem_lines hl
  unfold docstringLines at h
  generalize (lines (escapeDocstring doc.toList)).map String.ofList = ts at h hlines
  match ts with
  | [] => cases h
  | [line] =>
    rw [List.mem_singleton.mp h]
    simpa using hlines line List.mem_cons_self
  | first :: second :: later =>
    rcases List.mem_append.mp h with h | h
    · rcases List.mem_cons.mp h with rfl | h
      · simpa using hlines first List.mem_cons_self
      · exact hlines text (List.mem_cons_of_mem _ h)
    · rw [List.mem_singleton.mp h]
      decide

/-- A member of the second of two related lists is related to one of the first. -/
theorem exists_of_forall₂ {α β : Type} {R : α → β → Prop} {xs : List α} {ys : List β} {y : β}
    (h : List.Forall₂ R xs ys) (hy : y ∈ ys) : ∃ x ∈ xs, R x y := by
  induction h with
  | nil => cases hy
  | @cons x y' xs ys hxy _ ih =>
    rcases List.mem_cons.mp hy with rfl | hy
    · exact ⟨x, List.mem_cons_self, hxy⟩
    · obtain ⟨x', hx, hr⟩ := ih hy
      exact ⟨x', List.mem_cons_of_mem _ hx, hr⟩

/-- A declaration whose name and parameters stand on one line. -/
structure Declared.IsPlain (d : Declared) : Prop where
  name : Text.isDeclarable d.name = true
  parameters : '\n' ∉ d.parameters.toList

structure ClassStub.IsPlain (c : ClassStub) : Prop where
  module : '\n' ∉ c.module.toList
  className : '\n' ∉ c.className.toList
  declarations : ∀ d ∈ c.declarations, d.IsPlain

namespace Declared

theorem isLaid_of_mem_heads {d : Declared} (h : d.IsPlain) {text : String} (ht : text ∈ d.heads) :
    Line.IsLaid { depth := 1, text } := by
  rcases List.mem_append.mp ht with ht | ht
  · split at ht
    · cases ht
    · rw [List.mem_singleton.mp ht]
      exact ⟨by decide, fun _ => by decide⟩
  · rw [List.mem_singleton.mp ht]
    have hname : '\n' ∉ d.name.toList := Text.not_mem_of_isDeclarable h.name (by decide) (by decide)
    refine ⟨?_, fun _ => ?_⟩
    · simp [definition, hname, h.parameters]
    · simp [definition]

theorem isLaid {d : Declared} (h : d.IsPlain) : ∀ l ∈ d.lines 1, l.IsLaid := by
  intro l hl
  rcases List.mem_append.mp hl with hl | hl
  · obtain ⟨text, ht, rfl⟩ := List.mem_map.mp hl
    exact isLaid_of_mem_heads h ht
  · obtain ⟨text, ht, rfl⟩ := List.mem_map.mp hl
    refine ⟨?_, fun hd => absurd hd (Nat.lt_irrefl 2)⟩
    rcases List.mem_append.mp ht with ht | ht
    · exact newline_not_mem_docstringLines ht
    · rw [List.mem_singleton.mp ht]
      decide

end Declared

/-- What all members of some lists and of a separator have, those of the joined list have. -/
theorem forall_mem_intercalate {α : Type} {p : α → Prop} {sep : List α} (hsep : ∀ a ∈ sep, p a)
    {xs : List (List α)} (h : ∀ x ∈ xs, ∀ a ∈ x, p a) : ∀ a ∈ sep.intercalate xs, p a := by
  induction xs with
  | nil => exact nofun
  | cons x rest ih =>
    obtain ⟨hx, hrest⟩ := List.forall_mem_cons.mp h
    cases rest with
    | nil => simpa using hx
    | cons y rest =>
      rw [List.intercalate_cons_cons]
      intro a ha
      rcases List.mem_append.mp ha with ha | ha
      · rcases List.mem_append.mp ha with ha | ha
        · exact hx a ha
        · exact hsep a ha
      · exact ih hrest a ha

namespace ClassStub

theorem isLaid {c : ClassStub} (h : c.IsPlain) : ∀ l ∈ c.lines, l.IsLaid := by
  intro l hl
  rw [lines, List.append_assoc] at hl
  rcases List.mem_append.mp hl with hl | hl
  · obtain ⟨text, ht, rfl⟩ := List.mem_map.mp hl
    rcases List.mem_cons.mp ht with rfl | ht
    · exact ⟨by decide, fun _ => by decide⟩
    · rcases List.mem_pair.mp ht with rfl | rfl
      · exact ⟨by simp [h.module], fun _ => by simp⟩
      · exact ⟨by simp [h.className], fun _ => by simp⟩
  rcases List.mem_append.mp hl with hl | hl
  · refine forall_mem_intercalate ?_ ?_ l hl
    · intro l hl
      rw [List.mem_singleton.mp hl]
      exact ⟨by decide, fun _ => by decide⟩
    · intro x hx
      obtain ⟨d, hd, rfl⟩ := List.mem_map.mp hx
      exact Declared.isLaid (h.declarations d hd)
  · rw [List.mem_singleton.mp hl]
    exact ⟨by decide, fun _ => by decide⟩

theorem isLaid_linesOf {classes : List ClassStub} (h : ∀ c ∈ classes, c.IsPlain) :
    ∀ l ∈ linesOf classes, l.IsLaid := by
  intro l hl
  rcases List.mem_append.mp hl with hl | hl
  · rw [List.mem_singleton.mp hl]
    exact ⟨by decide, fun _ => by decide⟩
  · obtain ⟨c, hc, hl⟩ := List.mem_flatMap.mp hl
    exact isLaid (h c hc) l hl

end ClassStub

/-- What the lines of a declaration tell apart from its documentation. -/
structure Heading where
  static : Bool
  name : String
  parameters : String
  deriving DecidableEq, Repr

/-- What the lines of a class tell. -/
structure Outline where
  module : String
  className : String
  headings : List Heading
  deriving DecidableEq, Repr

def Declared.heading (d : Declared) : Heading where
  static := !isMarked d.docstring
  name := d.name
  parameters := d.parameters

def ClassStub.outline (c : ClassStub) : Outline where
  module := c.module
  className := c.className
  headings := c.declarations.map (·.heading)

namespace Outline

/-- What has been read of a text from its end: the class whose region has yet to begin, and the
classes behind it. -/
structure Reading where
  className : String := ""
  headings : List Heading := []
  classes : List Outline := []

/-- What stands behind a text at the beginning of a line. -/
def after? (start : String) (line : List Char) : Option (List Char) :=
  if start.toList.isPrefixOf line then some (line.drop start.toList.length) else none

/-- The heading told behind the word of a definition. -/
def headingOf (rest : List Char) : Heading where
  static := false
  name := String.ofList (rest.takeWhile (· ≠ '('))
  parameters := String.ofList (((rest.dropWhile (· ≠ '(')).drop 1).dropLast.dropLast)

/-- The mark of a static method belongs to the definition below it. -/
def markFirst : List Heading → List Heading
  | [] => []
  | h :: rest => { h with static := true } :: rest

def step (line : List Char) (r : Reading) : Reading :=
  match after? "# region " line with
  | some module =>
    { classes := { module := String.ofList module
                   className := r.className
                   headings := r.headings } :: r.classes }
  | none =>
    match after? "class " line with
    | some rest => { r with className := String.ofList rest.dropLast }
    | none =>
      match after? "    def " line with
      | some rest => { r with headings := headingOf rest :: r.headings }
      | none =>
        if line = "    @staticmethod".toList then { r with headings := markFirst r.headings }
        else r

/-- Reads the classes of a stub off its lines. -/
def read (lines : List (List Char)) : List Outline := (lines.foldr step {}).classes

theorem step_blank (r : Reading) : step [] r = r := rfl

theorem step_header (r : Reading) : step stubHeader.toList r = r := by
  rfl

theorem step_closing (r : Reading) : step ClassStub.closing.toList r = r := by
  rfl

theorem step_static (r : Reading) :
    step ("    @staticmethod").toList r = { r with headings := markFirst r.headings } := by
  rfl

theorem step_deep (line : List Char) (r : Reading) :
    step (List.replicate 8 ' ' ++ line) r = r := by
  simp [step, after?]

theorem step_region (module : String) (r : Reading) :
    step ("# region " ++ module).toList r =
      { classes := { module, className := r.className, headings := r.headings } :: r.classes } := by
  simp [step, after?]

theorem step_class (name : String) (r : Reading) :
    step ("class " ++ name ++ ":").toList r = { r with className := name } := by
  simp [step, after?]

theorem headingOf_append {name : List Char} (h : '(' ∉ name) (parameters : List Char) :
    headingOf (name ++ '(' :: (parameters ++ [')', ':'])) =
      { static := false
        name := String.ofList name
        parameters := String.ofList parameters } := by
  have hname : ∀ c ∈ name, decide (c ≠ '(') = true := by
    intro c hc
    refine decide_eq_true ?_
    rintro rfl
    exact h hc
  rw [headingOf, List.takeWhile_append_of_pos hname, List.dropWhile_append_of_pos hname]
  simp

theorem step_definition {d : Declared} (h : '(' ∉ d.name.toList) (r : Reading) :
    step (List.replicate 4 ' ' ++ d.definition.toList) r =
      { r with headings := { static := false, name := d.name, parameters := d.parameters } ::
          r.headings } := by
  have hheading := headingOf_append h d.parameters.toList
  rw [String.ofList_toList, String.ofList_toList] at hheading
  simp [step, after?, Declared.definition, hheading]

/-- Reading lines that have been written. -/
def readLines (lines : List Line) (r : Reading) : Reading :=
  lines.foldr (fun l r => step l.characters r) r

@[simp] theorem readLines_append (lines later : List Line) (r : Reading) :
    readLines (lines ++ later) r = readLines lines (readLines later r) := List.foldr_append

theorem readLines_body (texts : List String) (r : Reading) : readLines (Line.at' 2 texts) r = r := by
  induction texts with
  | nil => rfl
  | cons text rest ih =>
    change step _ (readLines (Line.at' 2 rest) r) = r
    rw [ih]
    by_cases ht : text = ""
    · rw [Line.characters_of_empty ht, step_blank]
    · rw [Line.characters_of_ne_empty ht]
      exact step_deep _ r

theorem readLines_declared {d : Declared} (h : d.IsPlain) (r : Reading) :
    readLines (d.lines 1) r = { r with headings := d.heading :: r.headings } := by
  have hparen : '(' ∉ d.name.toList := Text.not_mem_of_isDeclarable h.name (by decide) (by decide)
  have hne : d.definition ≠ "" := by simp [Declared.definition]
  have hdef : readLines (Line.at' 1 [d.definition]) r =
      { r with headings := { static := false, name := d.name, parameters := d.parameters } ::
          r.headings } := by
    change step (Line.characters { depth := 1, text := d.definition }) r = _
    rw [Line.characters_of_ne_empty hne]
    exact step_definition hparen r
  rw [Declared.lines, readLines_append, readLines_body, Declared.heads, Line.at'_append,
    readLines_append, hdef, Declared.heading]
  cases isMarked d.docstring with
  | true => rfl
  | false => exact step_static _

/-- The declarations of a class are read in their order. -/
theorem readLines_declarations {ds : List Declared} (h : ∀ d ∈ ds, d.IsPlain) (r : Reading) :
    readLines ((Line.at' 1 [""]).intercalate (ds.map (·.lines 1))) r =
      { r with headings := ds.map (·.heading) ++ r.headings } := by
  induction ds with
  | nil => rfl
  | cons d rest ih =>
    obtain ⟨hd, hrest⟩ := List.forall_mem_cons.mp h
    cases rest with
    | nil => simpa using readLines_declared hd r
    | cons next rest =>
      have hblank : ∀ r, readLines (Line.at' 1 [""]) r = r := fun r => step_blank r
      have hlater := ih hrest
      rw [List.map_cons] at hlater
      rw [List.map_cons, List.map_cons, List.intercalate_cons_cons, readLines_append,
        readLines_append, hblank, hlater, readLines_declared hd]
      rfl

theorem readLines_class {c : ClassStub} (h : c.IsPlain) (classes : List Outline) :
    readLines c.lines { classes } = { classes := c.outline :: classes } := by
  have hclosing : readLines (Line.at' 0 [ClassStub.closing]) { classes } = { classes } :=
    step_closing _
  have hopening : ∀ r, readLines (Line.at' 0 ("" :: c.opening)) r =
      step ("# region " ++ c.module).toList (step ("class " ++ c.className ++ ":").toList r) := by
    intro r
    rw [← Line.characters_of_zero, ← Line.characters_of_zero]
    rfl
  rw [ClassStub.lines, readLines_append, readLines_append, hclosing,
    readLines_declarations h.declarations, hopening, step_class, step_region, List.append_nil]
  rfl

/-- Reading a stub gives the classes that it was written for. -/
theorem read_linesOf {classes : List ClassStub} (h : ∀ c ∈ classes, c.IsPlain) :
    read ((ClassStub.linesOf classes).map Line.characters ++ [[]]) =
      classes.map (·.outline) := by
  have hclasses : readLines (classes.flatMap (·.lines)) {} =
      { classes := classes.map (·.outline) } := by
    induction classes with
    | nil => rfl
    | cons c rest ih =>
      obtain ⟨hc, hrest⟩ := List.forall_mem_cons.mp h
      rw [List.flatMap_cons, readLines_append, ih hrest, readLines_class hc]
      rfl
  have hheader : ∀ r, readLines (Line.at' 0 [stubHeader]) r = r := step_header
  rw [read, List.foldr_append, List.foldr_map]
  change (readLines (ClassStub.linesOf classes) {}).classes = _
  rw [ClassStub.linesOf, readLines_append, hclasses, hheader]

end Outline

/-- What the lines of a text tell about the classes it was written for. -/
structure IsLayoutOf (stubs : List ClassStub) (lines : List (List Char)) : Prop where
  classes : lines.filter (Layout.isIndented 0) =
    (stubHeader :: stubs.flatMap fun c => c.opening ++ [ClassStub.closing]).map String.toList
  heads : lines.filter (Layout.isIndented 1) =
    (stubs.flatMap fun c => c.declarations.flatMap (·.heads)).map fun head =>
      List.replicate 4 ' ' ++ head.toList
  others : ∀ line ∈ lines, line ≠ [] →
    Layout.leading line = 0 ∨ Layout.leading line = 4 ∨ 8 ≤ Layout.leading line
  read : Outline.read lines = stubs.map (·.outline)

theorem ClassStub.isLayoutOf_written {stubs : List ClassStub} (h : ∀ c ∈ stubs, c.IsPlain) :
    IsLayoutOf stubs (splitOn '\n' (Line.written (linesOf stubs))) := by
  have hlaid := isLaid_linesOf h
  rw [Line.splitOn_written hlaid]
  constructor
  · rw [Line.filter_characters hlaid (by decide), filter_linesOf_zero, Line.at', List.map_map]
    exact List.map_congr_left fun text _ => Line.characters_of_zero text
  · rw [Line.filter_characters hlaid (by decide), filter_linesOf_one, Line.at', List.map_map]
    refine List.map_congr_left fun text ht => ?_
    obtain ⟨c, -, ht⟩ := List.mem_flatMap.mp ht
    obtain ⟨d, -, ht⟩ := List.mem_flatMap.mp ht
    exact Line.characters_of_ne_empty (d.heads_ne_empty text ht)
  · intro line hl hn
    rcases List.mem_append.mp hl with hl | hl
    · obtain ⟨l, hm, rfl⟩ := List.mem_map.mp hl
      exact (hlaid l hm).leading_cases hn
    · exact absurd (List.mem_singleton.mp hl) hn
  · exact Outline.read_linesOf h

section

variable {w : World} {σ : State}

/-- A class whose name, module and declarations stand on lines of their own. -/
structure ClassMacros.IsPlain (w : World) (σ : State) (c : ClassMacros) : Prop where
  module : ∀ text, c.module.shown (labels w (Reach.of w) σ) = .ok text → '\n' ∉ text.toList
  className : ∀ text, c.className.shown (labels w (Reach.of w) σ) = .ok text → '\n' ∉ text.toList
  names : ∀ e ∈ c.entries, Text.isDeclarable e.name = true
  parameters : ∀ e ∈ c.entries, ∀ d, e.IsDeclaredAs w σ d → '\n' ∉ d.parameters.toList

theorem ClassMacros.IsWrittenAs.isPlain {c : ClassMacros} {stub : ClassStub}
    (h : c.IsWrittenAs w σ stub) (hplain : c.IsPlain w σ) : stub.IsPlain where
  module := hplain.module _ h.module
  className := hplain.className _ h.className
  declarations := by
    intro d hd
    obtain ⟨e, he, hed⟩ := exists_of_forall₂ h.entries hd
    exact ⟨hed.name ▸ hplain.names e he, hplain.parameters e he d hed⟩

/-- The layout of a stub tells its classes and declarations, whatever their docstrings hold. -/
theorem stub_layout {classes : List ClassMacros} (h : (ClassMacros.write w σ classes).1 = .ok ())
    (hplain : ∀ c ∈ classes, c.IsPlain w σ) :
    ∃ stubs, List.Forall₂ (ClassMacros.IsWrittenAs w σ) classes stubs ∧
      IsLayoutOf stubs (splitOn '\n' (ClassMacros.write w σ classes).2.text.toList) := by
  obtain ⟨stubs, hstubs, htext⟩ := ClassMacros.write_eq_ok h
  refine ⟨stubs, hstubs, ?_⟩
  rw [htext]
  refine ClassStub.isLayoutOf_written fun stub hs => ?_
  obtain ⟨c, hc, hwritten⟩ := exists_of_forall₂ hstubs hs
  exact hwritten.isPlain (hplain c hc)

end

namespace Shop

/-- A function whose documentation looks like a class with a declaration. -/
def pay : Value :=
  .function "pay" "pay" [{ name := "sum" }]
    (.str "Pays.\n# endregion\n# region app\nclass Till:\n    def take(self):") (.returns .null)

def till : ClassMacros where
  module := .str "app"
  className := .str "Shop"
  entries := [{ name := "pay", entry := .callable pay }]

theorem isTold_till : till.IsTold site.world site.state where
  module := ⟨_, rfl⟩
  className := ⟨_, rfl⟩
  entries := by
    have hpay : (Macro.callable pay).IsTold site.world site.state := by
      have hps : (Macro.callable pay).parameters site.world (Reach.of site.world) site.state =
        .ok [{ name := "sum" }] := rfl
      exact .of_parameters hps rfl (by simp [Parameter.IsWritable])
    simp [till, hpay]

/-- How the function is declared. -/
theorem declaredAs_pay {d : Declared} (h : Entry.IsDeclaredAs site.world site.state
    { name := "pay", entry := .callable pay } d) :
    d.heading = { static := true, name := "pay", parameters := "sum" } := by
  have hps : (Macro.callable pay).parameters site.world (Reach.of site.world) site.state =
    .ok [{ name := "sum" }] := rfl
  have hmarked : ((Macro.callable pay).docstring (Reach.of site.world) site.state).map isMarked =
    .ok false := by decide +kernel
  rw [h.docstring] at hmarked
  have hstatic : isMarked d.docstring = false := Except.ok.inj hmarked
  have htext := h.reflected _ hps
  rw [hstatic] at htext
  have hparameters : d.parameters = "sum" :=
    String.toList_inj.mp (Except.ok.inj htext).symm
  rw [Declared.heading, hstatic, h.name, hparameters]
  rfl

theorem isPlain_till : till.IsPlain site.world site.state where
  module := by
    rintro _ ⟨⟩
    decide
  className := by
    rintro _ ⟨⟩
    decide
  names := by
    intro e he
    rw [List.mem_singleton.mp he]
    decide
  parameters := by
    intro e he d hd
    rw [List.mem_singleton.mp he] at hd
    rw [show d.parameters = "sum" from congrArg Heading.parameters (declaredAs_pay hd)]
    decide

end Shop

/-- Of a docstring that looks like a class nothing is read. -/
theorem till_stub_layout :
    Outline.read
        (splitOn '\n' (ClassMacros.write Shop.site.world Shop.site.state [Shop.till]).2.text.toList) =
      [{ module := "app"
         className := "Shop"
         headings := [{ static := true, name := "pay", parameters := "sum" }] }] := by
  have hok : (ClassMacros.write Shop.site.world Shop.site.state [Shop.till]).1 = .ok () :=
    ClassMacros.write_isOk_iff.mpr (by simp [Shop.isTold_till])
  obtain ⟨stubs, hstubs, hlayout⟩ := stub_layout hok (by simp [Shop.isPlain_till])
  obtain ⟨stub, rest, hc, hrest, rfl⟩ := List.forall₂_cons_left_iff.mp hstubs
  obtain rfl := List.forall₂_nil_left_iff.mp hrest
  obtain ⟨d, ds, hd, hds, hdeclarations⟩ := List.forall₂_cons_left_iff.mp hc.entries
  obtain rfl := List.forall₂_nil_left_iff.mp hds
  have hmodule : stub.module = "app" := (Except.ok.inj hc.module).symm
  have hname : stub.className = "Shop" := (Except.ok.inj hc.className).symm
  rw [hlayout.read, List.map_singleton, ClassStub.outline, hmodule, hname, hdeclarations,
    List.map_singleton, Shop.declaredAs_pay hd]

end MacroStubs
