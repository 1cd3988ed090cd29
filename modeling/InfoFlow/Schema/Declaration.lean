namespace InfoFlow

/-- The declared type of a field. -/
inductive TypeDecl where
  /-- A type without fields to select. -/
  | primitive
  /-- A record that is declared where it is used. Its name, if any, is for messages only. -/
  | inline (name : Option String) (fields : List (String × TypeDecl))
  /-- The schema that is declared under a name. -/
  | named (name : String)
deriving Repr

/-- The declaration of a schema: a name, if it has one, and fields with their types. -/
structure SchemaDecl where
  name : Option String := none
  fields : List (String × TypeDecl) := []
deriving Repr

end InfoFlow
