import MacroStubs.Macro.Basic
import MacroStubs.Stub.Sheet

/-! # Declarations

The stub of a class: one method declaration for each macro. A macro whose parameters cannot be told
takes any; a marked one is declared as a method of an object, with a receiver in front unless its
first parameter takes the object already.
-/

namespace MacroStubs

/-- The first line of every stub. -/
def stubHeader : String := "# -*- coding: utf-8 -*-"

/-- A macro as far as its declaration depends on it. -/
structure Reflection where
  name : String
  includesReceiver : Bool
  parameters : Except Failure ParameterList
  docstring : Except Failure (Option String)

/-- A class whose macros have been reflected. -/
structure ClassReflection where
  module : Except Failure String
  className : Except Failure String
  entries : List Reflection

def Entry.reflect (w : World) (r : Reach) (σ : State) (e : Entry) : Reflection :=
  { name := e.name
    includesReceiver := e.entry.includesReceiver
    parameters := e.entry.parameters w r σ
    docstring := e.entry.docstring r σ }

def ClassMacros.reflect (w : World) (r : Reach) (σ : State) (c : ClassMacros) : ClassReflection :=
  { module := c.module.shown (labels w r σ)
    className := c.className.shown (labels w r σ)
    entries := c.entries.map (·.reflect w r σ) }

namespace Declaration

def reporter : String := "macro_stubgen.domain.services.generation.stub_generator"

/-- Parameters that take any arguments. -/
def anyParameters : ParameterList :=
  [{ name := "args", kind := .extraPositional }, { name := "kwargs", kind := .extraKeyword }]

def receiver : Parameter Value := { name := "self" }

/-- Whether the parameters take the object first already. -/
def startsWithReceiver (includesReceiver : Bool) (ps : ParameterList) : Bool :=
  includesReceiver && (ps.head?.map (·.kind.isPositional)).getD false

/-- The parameters that are declared. -/
def declared (includesReceiver instantiated : Bool) (ps : ParameterList) :
    ParameterList :=
  if instantiated && !startsWithReceiver includesReceiver ps then receiver :: ps else ps

/-- The warning about a macro whose parameters cannot be told. -/
def unreadable (owner name : String) (f : Failure) : Record where
  level := .warning
  reporter := reporter
  message := "Cannot introspect macro " ++ owner ++ "." ++ name ++ ": " ++ f.message

variable (labels : Labels)

/-- The parameters of a macro, or those that take any arguments if its own cannot be told. -/
def parametersOf (owner : String) (r : Reflection) : Writing (ParameterList) :=
  match r.parameters with
  | .ok ps => pure ps
  | .error f =>
    if f.isValueOrType then do
      modify (·.note [unreadable owner r.name f])
      pure anyParameters
    else throw f

/-- Writes the declaration of one macro. -/
def write (owner : String) (r : Reflection) : Writing Unit := do
  let ps ← parametersOf owner r
  match r.docstring with
  | .error f => throw f
  | .ok doc =>
    let instantiated := isMarked doc
    Writing.declare labels r.name (declared r.includesReceiver instantiated ps) doc (!instantiated)

/-- Writes declarations with an empty line between each two. -/
def writeAll (owner : String) : List Reflection → Writing Unit
  | [] => pure ()
  | [r] => write labels owner r
  | r :: rest => do
    write labels owner r
    Writing.line ""
    writeAll owner rest

/-- Writes the block of one class. -/
def writeClass (c : ClassReflection) : Writing Unit := do
  let module ← Writing.ofExcept c.module
  Writing.within .region module do
    let className ← Writing.ofExcept c.className
    Writing.within .classBody className
      (writeAll labels (qualifiedName module className) c.entries)

/-- Writes a whole stub. -/
def writeStub (classes : List ClassReflection) : Writing Unit := do
  Writing.line stubHeader
  classes.forM (writeClass labels)

end Declaration
end MacroStubs
