import InfoFlow.Json.Buffered
import InfoFlow.Json.Reader
import InfoFlow.Schema.Basic
import InfoFlow.Schema.Declaration

namespace InfoFlow

open Json (Field Form Refusal Source Spot Tagging Value)

/-- The form of an optional name. -/
def nameJson : Option String → Value
  | none => .null
  | some name => .text name

mutual

def TypeDecl.toJson : TypeDecl → Value
  | .primitive => .object [("kind", .text "primitive")]
  | .inline name fields =>
    .object [("kind", .text "schema"), ("name", nameJson name),
      ("fields", .array (TypeDecl.fieldsJson fields))]
  | .named name => .object [("kind", .text "named"), ("name", .text name)]

/-- The forms of declared fields. -/
def TypeDecl.fieldsJson : List (String × TypeDecl) → List Value
  | [] => []
  | (name, type) :: rest =>
    .object [("name", .text name), ("type", type.toJson)] :: TypeDecl.fieldsJson rest

end

def SchemaDecl.toJson (decl : SchemaDecl) : Value :=
  .object [("name", nameJson decl.name), ("fields", .array (TypeDecl.fieldsJson decl.fields))]

/-- A declared field, when `read` reads its type. -/
def SchemaDecl.fieldForm {σ : Type} [Source σ] (read : σ → Except Refusal TypeDecl) :
    Form σ (String × TypeDecl) where
  blank := ("", .primitive)
  fields := [
    .needed "name" Source.string fun name field => (name, field.2),
    .needed "type" read fun type field => (field.1, type)]

/-- A declaration of a schema, when `read` reads the types of its fields. -/
def SchemaDecl.form {σ : Type} [Source σ] (read : σ → Except Refusal TypeDecl) :
    Form σ SchemaDecl where
  blank := {}
  fields := [
    .extra "name" (Source.optional Source.string) fun name decl => { decl with name },
    .extra "fields" (Source.list (Source.record (fieldForm read)))
      fun fields decl => { decl with fields }]

namespace TypeDecl

def tagging : Tagging :=
  ⟨"kind", ["primitive", "schema", "named"]⟩

/-- The name that a reference is to. -/
def namedForm : Form Value String where
  blank := ""
  fields := [.needed "name" Source.string fun name _ => name]

/-- A declared type from its kind and the rest of its value, when `read` reads types in it. -/
def ofTagged (read : Value → Except Refusal TypeDecl) (kind : String) (content : Value) :
    Except Refusal TypeDecl :=
  if kind = "primitive" then
    match content with
    | .array (_ :: _) => .error .wrongLength
    | _ => .ok .primitive
  else if kind = "schema" then do
    let decl ← Source.record (SchemaDecl.form read) content
    return .inline decl.name decl.fields
  else .named <$> Source.record namedForm content

/-- A declared type from a value that is nested at most so deep. -/
def ofValue : Nat → Value → Except Refusal TypeDecl
  | 0, _ => .error (.stop .malformed)
  | depth + 1, value => do
    let (kind, content) ← Source.tagged tagging value
    ofTagged (ofValue depth) kind content

/-- Reads a declared type. No value that is read is nested deeper than the limit. -/
def read (spot : Spot) : Except Refusal TypeDecl := do
  let (kind, content) ← Source.tagged tagging spot
  ofTagged (ofValue Json.nestingLimit) kind content

end TypeDecl

def SchemaDecl.read : Spot → Except Refusal SchemaDecl :=
  Source.record (form TypeDecl.read)

mutual

def DataType.toJson : DataType → Value
  | .primitive => .object [("kind", .text "primitive")]
  | .entity name fields =>
    .object [("kind", .text "entity"),
      ("schema",
        .object [("name", nameJson name), ("fields", .object (DataType.fieldsJson fields))])]

/-- The forms of fields under their names. -/
def DataType.fieldsJson : List (String × DataType) → List (String × Value)
  | [] => []
  | (name, type) :: rest => (name, type.toJson) :: DataType.fieldsJson rest

end

def Schema.toJson (schema : Schema) : Value :=
  .object [("name", nameJson schema.name), ("fields", .object (DataType.fieldsJson schema.fields))]

end InfoFlow
