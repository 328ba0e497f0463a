import MacroStubs.Text.Quoted

/-! # Failures

Everything that can interrupt an operation, by its cause. `kind` is the word for the class of the
failure and `message` its text; what application code raises carries both itself.
-/

namespace MacroStubs
open Text

/-- A failure that application code raises: the name of its class and its text. -/
structure Thrown where
  kind : String
  message : String
  deriving DecidableEq, Repr, Inhabited

/-- Why the arguments of a call do not fit the parameters of a function. -/
inductive CallFault where
  | unexpected (name : String)
  /-- Names that only a positional argument can reach. -/
  | positionalOnly (names : List String)
  | repeated (name : String)
  /-- More positional arguments than a function takes. -/
  | tooMany (least most given keywordOnly : Nat)
  | missing (positional : Bool) (names : List String)
  deriving DecidableEq, Repr, Inhabited

inductive Failure where
  /-- Raised by application code. -/
  | thrown (t : Thrown)
  /-- Neither an attribute nor a registered macro. -/
  | macroNotFound (owner name : String)
  | noAttribute (typeName name : String)
  | noClassAttribute (className name : String)
  | noModuleAttribute (module name : String)
  /-- A name that is looked up without any hook and not found. -/
  | unknownName (name : String)
  /-- A property without the function for what is asked of it. -/
  | noAccessor (accessor : String) (property : Option String) (typeName : String)
  | readOnly
  | readOnlyOn (typeName name : String)
  | notWritable (name typeName : String)
  | immutableType (typeName name : String)
  /-- A fixed attribute that takes values of one type alone. -/
  | typeExpected (name kind : String)
  | classTextExpected (className name typeName : String)
  | dictionaryExpected (typeName : String)
  /-- A member of a class that is sought on an object of another one. -/
  | memberMismatch (name owner typeName : String)
  /-- A value that does not answer whether it holds something. -/
  | notIterable (typeName : String)
  | notSubscriptable (typeName : String)
  | badIndex (typeName indexType : String)
  | indexOutOfRange (typeName : String)
  | assignmentOutOfRange (typeName : String)
  | noItemAssignment (typeName : String)
  | unhashable (typeName : String)
  | bytesExpected (typeName : String)
  | textExpected (typeName : String)
  | byteOutOfRange
  | keyMissing (printed : String)
  /-- A printed form that is no text. -/
  | printedNonText (typeName : String)
  | tooManyDigits
  | nestingTooDeep
  | intTooLarge
  | notCallable (printed : String)
  | invalidMethodSignature
  | noBuiltinSignature (printed : String)
  | noTypeSignature (printed : String)
  | noSignature (printed : String)
  | unsupportedCallable (printed : String)
  | partialArguments (printed : String)
  | repeatedParameter (name : String)
  /-- Something of another kind where the parameters of a callable should stand. -/
  | signatureObject (printed : String)
  | signatureText (printed : String)
  | wrapperLoop (printed : String)
  | callRefused (function : String) (fault : CallFault)
  | uncallable (typeName : String)
  | noArguments (className : String)
  | initResult (typeName : String)
  /-- A call that a built-in refuses, and what it says. -/
  | builtinRefused (text : String)
  | badWholeNumber (printed : String)
  | moduleMissing (name : String)
  | notPackage (name parent : String)
  | relativeModule (name : String)
  | emptyModuleName
  | noFilename
  | baseNotDirectory (path : String)
  | noHomeDirectory
  | fileMissing (path : String)
  | fileExists (path : String)
  | pathNotDirectory (path : String)
  | pathIsDirectory (path : String)
  | nameTooLong (path : String)
  | embeddedNull
  | badVariableName
  deriving DecidableEq, Repr, Inhabited

namespace Failure

/-- Classes of failures under further names. -/
def aliases : List (String × String) := [("IOError", "OSError"), ("EnvironmentError", "OSError")]

/-- The classes whose failures are not made from a text alone, with what making one so fails with. -/
def refusals : List (String × String) :=
  [("UnicodeDecodeError", "function takes exactly 5 arguments (1 given)"),
   ("UnicodeEncodeError", "function takes exactly 5 arguments (1 given)"),
   ("UnicodeTranslateError", "function takes exactly 4 arguments (1 given)"),
   ("BaseExceptionGroup", "BaseExceptionGroup.__new__() takes exactly 2 arguments (1 given)"),
   ("ExceptionGroup", "BaseExceptionGroup.__new__() takes exactly 2 arguments (1 given)"),
   ("MacroNotFoundError",
    "MacroNotFoundError.__init__() missing 1 required positional argument: 'name'")]

/-- What happens when application code makes a failure and raises it. -/
def raised (t : Thrown) : Failure :=
  match refusals.lookup t.kind with
  | some message => .thrown { kind := "TypeError", message }
  | none => .thrown { t with kind := (aliases.lookup t.kind).getD t.kind }

/-- The name of the failure's class. -/
def kind : Failure → String
  | thrown t => t.kind
  | macroNotFound .. => "MacroNotFoundError"
  | noAttribute .. | noClassAttribute .. | noModuleAttribute .. | unknownName _ | noAccessor ..
  | readOnly | readOnlyOn .. | notWritable .. => "AttributeError"
  | immutableType .. | typeExpected .. | classTextExpected .. | dictionaryExpected _
  | memberMismatch .. | notIterable _ | notSubscriptable _ | badIndex .. | noItemAssignment _
  | unhashable _ | bytesExpected _ | textExpected _ | printedNonText _ | notCallable _
  | signatureObject _ | callRefused .. | uncallable _ | noArguments _ | initResult _
  | builtinRefused _ | relativeModule _ => "TypeError"
  | indexOutOfRange _ | assignmentOutOfRange _ => "IndexError"
  | keyMissing _ => "KeyError"
  | byteOutOfRange | tooManyDigits | invalidMethodSignature | noBuiltinSignature _
  | noTypeSignature _ | noSignature _ | unsupportedCallable _ | partialArguments _
  | repeatedParameter _ | signatureText _ | wrapperLoop _ | badWholeNumber _
  | emptyModuleName | embeddedNull | badVariableName => "ValueError"
  | nestingTooDeep => "RecursionError"
  | intTooLarge => "OverflowError"
  | moduleMissing _ | notPackage .. => "ModuleNotFoundError"
  | noFilename | baseNotDirectory _ => "ConfigurationError"
  | noHomeDirectory => "RuntimeError"
  | fileMissing _ => "FileNotFoundError"
  | fileExists _ => "FileExistsError"
  | pathNotDirectory _ => "NotADirectoryError"
  | pathIsDirectory _ => "IsADirectoryError"
  | nameTooLong _ => "OSError"

/-- The text of a failure to find a name, given as it prints, on an owner. -/
def notFoundText (owner printed : String) : String :=
  s!"{owner} has no attribute or macro named {printed}"

end Failure

namespace CallFault

def plural (n : Nat) : String := if n = 1 then "" else "s"

/-- Names as they are listed in a text. -/
def listed : List String → String
  | [] => ""
  | [a] => a
  | [a, b] => a ++ " and " ++ b
  | [a, b, c] => a ++ ", " ++ b ++ ", and " ++ c
  | a :: rest => a ++ ", " ++ listed rest

/-- What is said of a call of a function. -/
def message (function : String) : CallFault → String
  | unexpected name => s!"{function}() got an unexpected keyword argument '{name}'"
  | positionalOnly names =>
    s!"{function}() got some positional-only arguments passed as keyword arguments: " ++
      "'" ++ ", ".intercalate names ++ "'"
  | repeated name => s!"{function}() got multiple values for argument '{name}'"
  | tooMany least most given keywordOnly =>
    let taken := if least = most then toString most else s!"from {least} to {most}"
    let noun := if least = most && most = 1 then "argument" else "arguments"
    let named :=
      if keywordOnly = 0 then ""
      else s!" positional argument{plural given} (and {keywordOnly} keyword-only " ++
        s!"argument{plural keywordOnly})"
    let verb := if given = 1 && keywordOnly = 0 then "was" else "were"
    s!"{function}() takes {taken} positional {noun} but {given}{named} {verb} given"
  | missing positional names =>
    let kind := if positional then "positional" else "keyword-only"
    s!"{function}() missing {names.length} required {kind} argument{plural names.length}: " ++
      listed (names.map Text.quote)

end CallFault

namespace Failure

/-- The text of the failure. -/
def message : Failure → String
  | thrown t => if t.kind = "KeyError" then quote t.message else t.message
  | macroNotFound owner name => notFoundText owner (quote name)
  | noAttribute typeName name => s!"'{typeName}' object has no attribute '{name}'"
  | noClassAttribute className name => s!"type object '{className}' has no attribute '{name}'"
  | noModuleAttribute module name => s!"module '{module}' has no attribute '{name}'"
  | unknownName name => name
  | noAccessor accessor property typeName =>
    let name := match property with
      | some name => " " ++ quote name
      | none => ""
    s!"property{name} of {quote typeName} object has no {accessor}"
  | readOnly => "readonly attribute"
  | readOnlyOn typeName name => s!"'{typeName}' object attribute '{name}' is read-only"
  | notWritable name typeName => s!"attribute '{name}' of '{typeName}' objects is not writable"
  | typeExpected name kind => s!"{name} must be set to a {kind} object"
  | classTextExpected className name typeName =>
    s!"can only assign string to {className}.{name}, not '{typeName}'"
  | dictionaryExpected typeName => s!"__dict__ must be set to a dictionary, not a '{typeName}'"
  | memberMismatch name owner typeName =>
    s!"descriptor '{name}' for '{owner}' objects doesn't apply to a '{typeName}' object"
  | immutableType typeName name =>
    s!"cannot set {quote name} attribute of immutable type '{typeName}'"
  | notIterable typeName => s!"argument of type '{typeName}' is not iterable"
  | notSubscriptable typeName => s!"'{typeName}' object is not subscriptable"
  | badIndex typeName indexType =>
    if typeName = "str" then s!"string indices must be integers, not '{indexType}'"
    else if typeName = "bytes" then s!"byte indices must be integers or slices, not {indexType}"
    else s!"{typeName} indices must be integers or slices, not {indexType}"
  | indexOutOfRange typeName =>
    if typeName = "str" then "string index out of range"
    else if typeName = "range" then "range object index out of range"
    else if typeName = "bytes" then "index out of range"
    else s!"{typeName} index out of range"
  | assignmentOutOfRange typeName => s!"{typeName} assignment index out of range"
  | noItemAssignment typeName => s!"'{typeName}' object does not support item assignment"
  | unhashable typeName => s!"unhashable type: '{typeName}'"
  | bytesExpected typeName => s!"a bytes-like object is required, not '{typeName}'"
  | textExpected typeName => s!"'in <string>' requires string as left operand, not {typeName}"
  | byteOutOfRange => "byte must be in range(0, 256)"
  | keyMissing printed => printed
  | printedNonText typeName => s!"__repr__ returned non-string (type {typeName})"
  | tooManyDigits =>
    "Exceeds the limit (4300 digits) for integer string conversion; " ++
      "use sys.set_int_max_str_digits() to increase the limit"
  | nestingTooDeep => "maximum recursion depth exceeded"
  | intTooLarge => "int too large to convert to float"
  | notCallable printed => s!"{printed} is not a callable object"
  | invalidMethodSignature => "invalid method signature"
  | noBuiltinSignature printed => s!"no signature found for builtin {printed}"
  | noTypeSignature printed => s!"no signature found for builtin type {printed}"
  | noSignature printed => s!"no signature found for {printed}"
  | unsupportedCallable printed => s!"callable {printed} is not supported by signature"
  | partialArguments printed => s!"partial object {printed} has incorrect arguments"
  | repeatedParameter name => s!"duplicate parameter name: {quote name}"
  | signatureObject printed => s!"unexpected object {printed} in __signature__ attribute"
  | signatureText printed => s!"{printed} builtin has invalid signature"
  | wrapperLoop printed => s!"wrapper loop when unwrapping {printed}"
  | callRefused function fault => fault.message function
  | uncallable typeName => s!"'{typeName}' object is not callable"
  | noArguments className => s!"{className}() takes no arguments"
  | initResult typeName => s!"__init__() should return None, not '{typeName}'"
  | builtinRefused text => text
  | badWholeNumber printed => s!"invalid literal for int() with base 10: {printed}"
  | moduleMissing name => s!"No module named {quote name}"
  | notPackage name parent => s!"No module named {quote name}; {quote parent} is not a package"
  | relativeModule name =>
    s!"the 'package' argument is required to perform a relative import for {quote name}"
  | emptyModuleName => "Empty module name"
  | noFilename => "No output filename: pass --filename or set MACROS_FILENAME"
  | baseNotDirectory path => s!"Base path is not a directory: {path}"
  | noHomeDirectory => "Could not determine home directory."
  | fileMissing path => s!"[Errno 2] No such file or directory: {quote path}"
  | fileExists path => s!"[Errno 17] File exists: {quote path}"
  | pathNotDirectory path => s!"[Errno 20] Not a directory: {quote path}"
  | pathIsDirectory path => s!"[Errno 21] Is a directory: {quote path}"
  | nameTooLong path => s!"[Errno 36] File name too long: {quote path}"
  | embeddedNull => "embedded null byte"
  | badVariableName => "illegal environment variable name"

/-- An exit, an interrupt or the end of a generator passes through every handler; all else can be
handled. -/
def isHandled (f : Failure) : Bool :=
  ["SystemExit", "KeyboardInterrupt", "GeneratorExit", "BaseException"].all (f.kind ≠ ·)

def isExit (f : Failure) : Bool := f.kind == "SystemExit"

/-- A failure to find something to import. -/
def isImport (f : Failure) : Bool :=
  ["ImportError", "ModuleNotFoundError"].contains f.kind

/-- A failure to find an attribute. -/
def isAttribute (f : Failure) : Bool :=
  ["AttributeError", "MacroNotFoundError"].contains f.kind

/-- A failure that only this program raises. -/
def isOwn (f : Failure) : Bool :=
  ["MacroStubgenError", "ConfigurationError", "MacroNotFoundError"].contains f.kind

def isConfiguration (f : Failure) : Bool := f.kind == "ConfigurationError"

/-- A failure that says that a value is wrong. -/
def isValue (f : Failure) : Bool :=
  ["ValueError", "UnicodeError"].contains f.kind

/-- A failure that says that a signature cannot be read. -/
def isValueOrType (f : Failure) : Bool := f.isValue || f.kind == "TypeError"

end Failure
end MacroStubs
