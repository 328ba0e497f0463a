import MacroStubs.Record
import MacroStubs.Stub.ParameterList
import MacroStubs.Text.Docstring
import MacroStubs.Text.Lines

/-! # Sheets

The text of a stub while it is written. A class block indents what is written within it by four
blanks and ends its indentation however it is left; a region is marked by comments, and its end only
when it is left normally.
-/

namespace MacroStubs

structure Sheet where
  text : String := ""
  depth : Nat := 0
  notes : List Record := []
  deriving Inhabited

/-- What a sheet can be written within. -/
inductive Block where
  | region
  | classBody
  deriving DecidableEq, Repr, Inhabited

namespace Sheet

def indentation (depth : Nat) : String :=
  String.ofList (List.replicate (4 * depth) ' ')

def write (text : String) (s : Sheet) : Sheet := { s with text := s.text ++ text }

/-- A line at the current depth; an empty one carries no blanks. -/
def writeLine (line : String) (s : Sheet) : Sheet :=
  if line.isEmpty then s.write "\n" else s.write (indentation s.depth ++ line ++ "\n")

def writeLines (lines : List String) (s : Sheet) : Sheet :=
  lines.foldl (fun s line => s.writeLine line) s

def indent (s : Sheet) : Sheet := { s with depth := s.depth + 1 }

def dedent (s : Sheet) : Sheet := { s with depth := s.depth - 1 }

def note (records : List Record) (s : Sheet) : Sheet := { s with notes := s.notes ++ records }

theorem depth_writeLine (line : String) (s : Sheet) : (s.writeLine line).depth = s.depth := by
  unfold writeLine
  split <;> rfl

theorem depth_writeLines (lines : List String) (s : Sheet) :
    (s.writeLines lines).depth = s.depth := by
  induction lines generalizing s with
  | nil => rfl
  | cons line rest ih => exact (ih (s.writeLine line)).trans (depth_writeLine line s)

def openBlock (block : Block) (name : String) (s : Sheet) : Sheet :=
  match block with
  | .region => (s.writeLine "").writeLine ("# region " ++ name)
  | .classBody => (s.writeLine ("class " ++ name ++ ":")).indent

def closeBlock (block : Block) (failed : Bool) (s : Sheet) : Sheet :=
  match block with
  | .region => if failed then s else s.writeLine "# endregion"
  | .classBody => s.dedent

theorem depth_closeBlock_openBlock (block : Block) (name : String) (failed : Bool) (s : Sheet) :
    ((s.openBlock block name).closeBlock block failed).depth = s.depth := by
  cases block with
  | region => cases failed <;> simp [openBlock, closeBlock, depth_writeLine]
  | classBody => simp [openBlock, closeBlock, indent, dedent, depth_writeLine]

end Sheet

/-- The lines of a docstring between triple quotes. The closing quotes of a docstring of several
lines stand on a line of their own. -/
def docstringLines (doc : String) : List String :=
  let quotes := "\"\"\""
  match (Text.lines (Text.escapeDocstring doc.toList)).map String.ofList with
  | [] => []
  | [line] => [quotes ++ line ++ quotes]
  | first :: later => (quotes ++ first) :: later ++ [quotes]

/-- Writing on a sheet, which may fail and leaves what was written. -/
abbrev Writing := ExceptT Failure (StateM Sheet)

namespace Writing

def ofExcept {α : Type} (e : Except Failure α) : Writing α := fun s => (e, s)

def line (text : String) : Writing Unit := modify (·.writeLine text)

/-- Writes within a block. -/
def within (block : Block) (name : String) (body : Writing Unit) : Writing Unit := fun s =>
  let (result, s) := body.run (s.openBlock block name)
  match result with
  | .ok () => (.ok (), s.closeBlock block false)
  | .error f => (.error f, s.closeBlock block true)

/-- A method declaration without a body. -/
def declare (labels : Labels) (name : String) (parameters : ParameterList)
    (docstring : Option String) (static : Bool) : Writing Unit := do
  if static then line "@staticmethod"
  modify (·.note (ParameterList.notes labels parameters))
  let list ← ofExcept (ParameterList.text labels parameters)
  line ("def " ++ name ++ "(" ++ String.ofList list ++ "):")
  modify (·.indent)
  modify (·.writeLines (docstringLines (docstring.getD "")))
  line "..."
  modify (·.dedent)

end Writing
end MacroStubs
