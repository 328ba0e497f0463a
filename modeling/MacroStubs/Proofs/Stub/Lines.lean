import MacroStubs.Proofs.Docstring.Layout
import MacroStubs.Stub.Declaration

/-! # Lines of a stub

A stub as data: its classes, the declarations of each, and the lines that all of it is written as. A
class stands at no depth and the heads of its declarations at the first; nothing else does.
-/

namespace MacroStubs

/-- A line with the depth at which it is written. -/
structure Line where
  depth : Nat
  text : String

namespace Line

def characters (l : Line) : List Char := Text.padded (Text.blanks l.depth) l.text.toList

/-- The characters of lines, each with a line feed behind it. -/
def written (lines : List Line) : List Char := lines.flatMap fun l => l.characters ++ ['\n']

@[simp] theorem written_nil : written [] = [] := rfl

@[simp] theorem written_cons (l : Line) (lines : List Line) :
    written (l :: lines) = l.characters ++ '\n' :: written lines := by
  simp [written]

@[simp] theorem written_append (lines later : List Line) :
    written (lines ++ later) = written lines ++ written later := by
  simp [written]

/-- Lines at one depth. -/
def at' (depth : Nat) (texts : List String) : List Line := texts.map fun text => { depth, text }

/-- Whether a line stands at a depth and is not empty. -/
def isAt (depth : Nat) (l : Line) : Bool := l.depth == depth && !l.text.isEmpty

/-- Whether a line defines a method of a class. -/
def isDefinition (l : Line) : Bool := l.isAt 1 && Text.beginsWith l.text "def "

variable {d depth : Nat} {texts : List String}

@[simp] theorem at'_append (texts later : List String) :
    at' d (texts ++ later) = at' d texts ++ at' d later := List.map_append

theorem at'_flatMap {α : Type} (xs : List α) (f : α → List String) :
    at' d (xs.flatMap f) = xs.flatMap fun x => at' d (f x) := List.map_flatMap

theorem filter_isAt_self (h : ∀ text ∈ texts, text ≠ "") :
    (at' d texts).filter (isAt d) = at' d texts := by
  refine List.filter_eq_self.mpr fun l hl => ?_
  obtain ⟨text, ht, rfl⟩ := List.mem_map.mp hl
  simp [isAt, h text ht]

theorem filter_isAt_of_ne (h : d ≠ depth) : (at' d texts).filter (isAt depth) = [] := by
  refine List.filter_eq_nil_iff.mpr fun l hl => ?_
  obtain ⟨text, -, rfl⟩ := List.mem_map.mp hl
  simp [isAt, h]

end Line

/-- What a filter leaves of lists with a separator that it takes out. -/
theorem filter_intercalate {α : Type} {p : α → Bool} {sep : List α} (hsep : sep.filter p = [])
    (xs : List (List α)) : (sep.intercalate xs).filter p = xs.flatMap (·.filter p) := by
  induction xs with
  | nil => rfl
  | cons x rest ih =>
    cases rest with
    | nil => simp
    | cons y rest =>
      rw [List.intercalate_cons_cons, List.filter_append, List.filter_append, hsep, ih]
      simp

/-- A declaration whose parameters have been written. -/
structure Declared where
  name : String
  parameters : String
  docstring : Option String

namespace Declared

def definition (d : Declared) : String := "def " ++ d.name ++ "(" ++ d.parameters ++ "):"

/-- The lines that tell what is declared: a method of an object has the mark, all others are static.
-/
def heads (d : Declared) : List String :=
  (if isMarked d.docstring then [] else ["@staticmethod"]) ++ [d.definition]

/-- The lines below: the docstring and the empty body. -/
def body (d : Declared) : List String := docstringLines (d.docstring.getD "") ++ ["..."]

def lines (d : Declared) (depth : Nat) : List Line :=
  Line.at' depth d.heads ++ Line.at' (depth + 1) d.body

theorem heads_ne_empty (d : Declared) : ∀ text ∈ d.heads, text ≠ "" := by
  intro text ht
  rcases List.mem_append.mp ht with h | h
  · split at h
    · cases h
    · rw [List.mem_singleton.mp h]
      decide
  · rw [List.mem_singleton.mp h]
    simp [definition]

/-- One of the heads of a declaration is its definition. -/
theorem filter_heads (d : Declared) :
    d.heads.filter (Text.beginsWith · "def ") = [d.definition] := by
  have hdef : Text.beginsWith d.definition "def " = true := by
    simp [Text.beginsWith, definition]
  have hmark : Text.beginsWith "@staticmethod" "def " = false := by decide
  rw [heads, List.filter_append]
  split <;> simp [hdef, hmark]

theorem filter_lines_zero (d : Declared) : (d.lines 1).filter (Line.isAt 0) = [] := by
  rw [lines, List.filter_append, Line.filter_isAt_of_ne (by decide),
    Line.filter_isAt_of_ne (by decide), List.append_nil]

theorem filter_lines_one (d : Declared) :
    (d.lines 1).filter (Line.isAt 1) = Line.at' 1 d.heads := by
  rw [lines, List.filter_append, Line.filter_isAt_self d.heads_ne_empty,
    Line.filter_isAt_of_ne (by decide), List.append_nil]

end Declared

/-- A class whose declarations can be written. -/
structure ClassStub where
  module : String
  className : String
  declarations : List Declared

namespace ClassStub

/-- The lines in front of the declarations. -/
def opening (c : ClassStub) : List String := ["# region " ++ c.module, "class " ++ c.className ++ ":"]

def closing : String := "# endregion"

def lines (c : ClassStub) : List Line :=
  Line.at' 0 ("" :: c.opening) ++
    (Line.at' 1 [""]).intercalate (c.declarations.map (·.lines 1)) ++ Line.at' 0 [closing]

/-- The lines of a stub of some classes. -/
def linesOf (classes : List ClassStub) : List Line :=
  Line.at' 0 [stubHeader] ++ classes.flatMap lines

theorem opening_ne_empty (c : ClassStub) : ∀ text ∈ c.opening, text ≠ "" := by simp [opening]

/-- The lines of a class at no depth are those around its declarations. -/
theorem filter_lines_zero (c : ClassStub) :
    c.lines.filter (Line.isAt 0) = Line.at' 0 (c.opening ++ [closing]) := by
  have hopening : (Line.at' 0 ("" :: c.opening)).filter (Line.isAt 0) = Line.at' 0 c.opening := by
    rw [← Line.filter_isAt_self c.opening_ne_empty]
    rfl
  have hclosing : (Line.at' 0 [closing]).filter (Line.isAt 0) = Line.at' 0 [closing] := rfl
  rw [lines, List.filter_append, List.filter_append, filter_intercalate rfl, hopening, hclosing,
    Line.at'_append]
  simp [List.flatMap_map, Declared.filter_lines_zero]

theorem filter_lines_one (c : ClassStub) :
    c.lines.filter (Line.isAt 1) = Line.at' 1 (c.declarations.flatMap (·.heads)) := by
  rw [lines, List.filter_append, List.filter_append, filter_intercalate rfl,
    Line.filter_isAt_of_ne (by decide), Line.filter_isAt_of_ne (by decide), Line.at'_flatMap]
  simp [List.flatMap_map, Declared.filter_lines_one]

theorem filter_linesOf_zero (classes : List ClassStub) :
    (linesOf classes).filter (Line.isAt 0) =
      Line.at' 0 (stubHeader :: classes.flatMap fun c => c.opening ++ [closing]) := by
  have hheader : (Line.at' 0 [stubHeader]).filter (Line.isAt 0) = Line.at' 0 [stubHeader] := rfl
  have happend := Line.at'_append (d := 0) [stubHeader]
    (classes.flatMap fun c => c.opening ++ [closing])
  rw [linesOf, List.filter_append, hheader, List.filter_flatMap]
  simp only [filter_lines_zero]
  rw [← Line.at'_flatMap]
  exact happend.symm

theorem filter_linesOf_one (classes : List ClassStub) :
    (linesOf classes).filter (Line.isAt 1) =
      Line.at' 1 (classes.flatMap fun c => c.declarations.flatMap (·.heads)) := by
  rw [linesOf, List.filter_append, Line.filter_isAt_of_ne (by decide), List.filter_flatMap,
    List.nil_append, Line.at'_flatMap]
  simp only [filter_lines_one]

/-- A stub has one definition for each declaration, in their order. -/
theorem filter_linesOf_isDefinition (classes : List ClassStub) :
    (linesOf classes).filter Line.isDefinition =
      Line.at' 1 (classes.flatMap fun c => c.declarations.map (·.definition)) := by
  have hsplit : Line.isDefinition = fun l => Text.beginsWith l.text "def " && l.isAt 1 := by
    funext l
    exact Bool.and_comm _ _
  have hheads : ∀ texts : List String, (Line.at' 1 texts).filter (Text.beginsWith ·.text "def ") =
      Line.at' 1 (texts.filter (Text.beginsWith · "def ")) := fun _ => List.filter_map
  rw [hsplit, ← List.filter_filter, filter_linesOf_one, hheads, List.filter_flatMap]
  simp only [List.filter_flatMap, Declared.filter_heads, ← List.map_eq_flatMap]

end ClassStub

end MacroStubs
