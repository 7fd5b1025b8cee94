/-!
Failures: why an operation gave no answer. A failure has a kind and, most often, a message.
The kind says what went wrong in the terms of the operation: a value of the wrong kind, a
missing key, a template that does not parse, and so on.
-/

namespace Dashwright

inductive Failure.Kind where
  /-- a value of the wrong kind was given -/
  | wrongType
  /-- a mapping has no such key -/
  | missingKey
  /-- a value of the right kind is out of its range or malformed -/
  | badValue
  /-- an object has no such attribute -/
  | missingAttribute
  /-- an index is past the end of a sequence -/
  | badIndex
  /-- a name of an operation or function is unknown -/
  | unknownName
  | divisionByZero
  | overflow
  /-- the operating system refused a call -/
  | system
  | fileMissing
  | isDirectory
  /-- a path goes through a file as if it were a directory -/
  | notDirectory
  | fileExists
  | unsupported
  /-- a walk went deeper than the nesting limit -/
  | tooDeep
  /-- a raise of a plain error with a message -/
  | raised
  /-- a usage error reported to the user of the command line -/
  | usage
  | templateSyntax
  /-- a template uses a filter or test that does not exist, or binds a name it may not -/
  | templateAssertion
  /-- a template failed while it was rendered -/
  | templateRuntime
  /-- a template filter was given arguments it cannot use -/
  | filterArgument
  | undefinedName
  | unreadableDate
  | jsonDecode
  | yamlReader
  | yamlScanner
  | yamlParser
  | yamlComposer
  | yamlConstructor
  | yamlEmitter
  /-- a request the operation cannot decode -/
  | badRequest
  /-- a queue was empty -/
  | queueEmpty
  /-- a future's state does not allow the step -/
  | invalidState
  /-- fields given to a model do not fit its schema -/
  | invalidModel
  /-- a text holds a character that the output encoding cannot write -/
  | unencodable
  /-- compiled code uses a name that nothing defines -/
  | unboundName
  /-- an object refuses how it is used, outside any other kind -/
  | runtime
deriving BEq, DecidableEq, Repr, Inhabited

structure Failure where
  kind : Failure.Kind
  message : Option String
deriving BEq, DecidableEq, Repr, Inhabited

namespace Failure

def make (kind : Kind) (message : String) : Failure := ⟨kind, some message⟩

def wrongType (message : String) : Failure := make .wrongType message
def badValue (message : String) : Failure := make .badValue message

/-- A missing key; the message is the key's quoted text. -/
def missingKey (keyText : String) : Failure := make .missingKey keyText

end Failure

/-- The result of an operation that may fail. -/
abbrev Outcome (α : Type) := Except Failure α

instance exceptDecEq {ε α : Type} [DecidableEq ε] [DecidableEq α] : DecidableEq (Except ε α)
  | .error a, .error b =>
    if same : a = b then isTrue (same ▸ rfl) else isFalse fun equal => same (Except.error.inj equal)
  | .ok a, .ok b =>
    if same : a = b then isTrue (same ▸ rfl) else isFalse fun equal => same (Except.ok.inj equal)
  | .error _, .ok _ => isFalse nofun
  | .ok _, .error _ => isFalse nofun

end Dashwright
