import MacroStubs.Value.Method.Collection
import MacroStubs.Value.Method.Number
import MacroStubs.Value.Method.Text

/-! # Methods of plain data -/

namespace MacroStubs.Value

/-- What a method of plain data gives. -/
def callMethod (setting : Method.Setting) (self : Value) (name : String) (arguments : List Value) :
    Except Failure Value :=
  match self with
  | str s => Method.ofText setting s name arguments
  | bytes data => Method.ofBytes "bytes" bytes data name arguments
  | bytearray data => Method.ofBytes "bytearray" bytearray data name arguments
  | list xs => Method.ofList setting xs name arguments
  | tuple xs => Method.ofTuple xs name arguments
  | range start stop step => Method.ofRange setting start stop step name arguments
  | dict es | mappingproxy es => Method.ofEntries setting es name arguments
  | set xs => Method.ofSet setting false xs name arguments
  | frozenset xs => Method.ofSet setting true xs name arguments
  | float x => Method.ofFloat x name arguments
  | complex re im => Method.ofComplex re im name arguments
  | v =>
    match v.int? with
    | some n => Method.ofInt n name arguments
    | none => Method.refuse "object" name

end MacroStubs.Value
