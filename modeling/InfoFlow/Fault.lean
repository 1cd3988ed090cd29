import InfoFlow.Identifier

namespace InfoFlow

/-- A cause for refusing a part of a model: a name, the declaration of a schema or an instance. It
    carries what its message shows. -/
inductive Fault where
  /-- A reference to a schema that is not declared. -/
  | unknownType (name : String)
  /-- Schemas that refer to each other in a circle: the names along it, the first one again at
      the end. -/
  | cyclicSchema (cycle : List String)
  /-- A field name that occurs twice in one declaration. -/
  | duplicateField (schema : Option String) (field : String)
  | duplicateSchema (name : String)
  | unnamedSchema
  | invalidIdentifier (name : String) (defect : Identifier.Defect)
  /-- A path that is to be instantiated though its root is a handle connection: its term. -/
  | alreadyInstantiated (term : String)
deriving DecidableEq, Repr

/-- The sentence that reports a fault. -/
def Fault.message : Fault → String
  | .unknownType name => "unknown type `" ++ name ++ "`"
  | .cyclicSchema cycle => "cyclic schema: " ++ " -> ".intercalate cycle
  | .duplicateField schema field =>
    "duplicate field `" ++ field ++ "` in schema `" ++ schema.getD "<anonymous>" ++ "`"
  | .duplicateSchema name => "schema `" ++ name ++ "` declared more than once"
  | .unnamedSchema => "top-level schema declarations need a name"
  | .invalidIdentifier name defect =>
    "invalid identifier " ++ Text.quoted name ++ ": " ++ defect.reason
  | .alreadyInstantiated term =>
    "access path `" ++ term ++ "` is already rooted at a concrete handle connection"

/-- Accepts valid identifiers and reports the first defect of all others. -/
def Identifier.check (name : String) : Except Fault Unit :=
  match Identifier.defect? name with
  | none => .ok ()
  | some defect => .error (.invalidIdentifier name defect)

end InfoFlow
