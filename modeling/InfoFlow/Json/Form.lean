import InfoFlow.Json.Outline

namespace InfoFlow.Json

/-- Why a value is refused. A text is read from left to right and the first fault decides, be it one
    of the text or a value that does not fit. -/
inductive Refusal where
  /-- The text cannot be read. -/
  | stop (stop : Stop)
  | wrongType
  | wrongValue
  | wrongLength
  | missingField (name : String)
  | unknownField (name : String)
  | unknownVariant (name : String)
  | duplicateField (name : String)
  /-- A path has no JSON form, as its bytes are no text. -/
  | pathNotText
deriving DecidableEq, Repr

/-- Whether the text or the data is at fault. -/
def Refusal.category : Refusal → String
  | .stop .malformed => "syntax"
  | .stop .truncated => "eof"
  | _ => "data"

/-- What is wrong with the data. -/
def Refusal.detail : Refusal → String
  | .stop _ => ""
  | .wrongType => "invalid type"
  | .wrongValue => "invalid value"
  | .wrongLength => "invalid length"
  | .missingField name => "missing field `" ++ name ++ "`"
  | .unknownField name => "unknown field `" ++ name ++ "`"
  | .unknownVariant name => "unknown variant `" ++ name ++ "`"
  | .duplicateField name => "duplicate field `" ++ name ++ "`"
  | .pathNotText => "path contains invalid UTF-8 characters"

instance : MonadLift (Except Stop) (Except Refusal) where
  monadLift := Except.mapError .stop

/-- A field of a record: how its value changes the record. -/
structure Field (σ β : Type) where
  name : String
  /-- Whether the record must have it. -/
  required : Bool := true
  read : σ → β → Except Refusal β

/-- A field that must be there. -/
def Field.needed {σ α β : Type} (name : String) (read : σ → Except Refusal α)
    (set : α → β → β) : Field σ β :=
  { name, read := fun source record => (set · record) <$> read source }

/-- A field that may be left out. -/
def Field.extra {σ α β : Type} (name : String) (read : σ → Except Refusal α)
    (set : α → β → β) : Field σ β :=
  { Field.needed name read set with required := false }

/-- A record: its fields in order, and what it is before any of them is read. It is written as an
    object, or as an array of the values of its fields, of which optional ones may be missing at
    the end. -/
structure Form (σ β : Type) where
  blank : β
  fields : List (Field σ β)
  /-- Whether members that are no fields are refused; otherwise they are skipped. -/
  closed : Bool := false

namespace Form

variable {σ β : Type}

/-- The field that a member is for, if it is for one. -/
def fieldFor (form : Form σ β) (seen : List String) (name : String) :
    Except Refusal (Option (Field σ β)) :=
  match form.fields.find? (·.name == name) with
  | none => if form.closed then .error (.unknownField name) else .ok none
  | some field => if seen.contains name then .error (.duplicateField name) else .ok (some field)

/-- The record at the end of an object, unless a required field is missing. -/
def finish (form : Form σ β) (seen : List String) (record : β) : Except Refusal β :=
  match form.fields.find? fun field => field.required && !seen.contains field.name with
  | some field => .error (.missingField field.name)
  | none => .ok record

/-- The record at the end of an array, unless one of the fields left is required. -/
def finishShort (fields : List (Field σ β)) (record : β) : Except Refusal β :=
  if fields.any (·.required) then .error .wrongLength else .ok record

end Form

/-- Alternatives that are told apart by a tag: the member that holds the tag, and the tags. -/
structure Tagging where
  member : String
  tags : List String

/-- Where values are read from: a text, or values that were read before. The same forms are read
    from either. -/
class Source (σ : Type) where
  string : σ → Except Refusal String
  /-- The value, or none where null stands. -/
  optional {α : Type} (read : σ → Except Refusal α) : σ → Except Refusal (Option α)
  list {α : Type} (read : σ → Except Refusal α) : σ → Except Refusal (List α)
  record {β : Type} (form : Form σ β) : σ → Except Refusal β
  /-- The tag of a tagged value, and the value without its tag: an object without the member, or
      an array without its first item. All of it is read before any part is looked at. -/
  tagged (tagging : Tagging) : σ → Except Refusal (String × Value)

/-- A tag that is one of those allowed. -/
def Tagging.check (tagging : Tagging) (tag : String) : Except Refusal String :=
  if tagging.tags.contains tag then .ok tag else .error (.unknownVariant tag)

end InfoFlow.Json
