import InfoFlow.AccessPath.ChainSet
import InfoFlow.Entries

namespace InfoFlow

/-- A type of data: without fields, or a record of fields in the order of their names. -/
inductive DataType where
  | primitive
  | entity (name : Option String) (fields : List (String × DataType))
deriving Repr

/-- A record type: its name, if it has one, and its fields in the order of their names. -/
structure Schema where
  name : Option String
  fields : Entries DataType
deriving Repr

/-- The type of the records of a schema. -/
def Schema.type (schema : Schema) : DataType :=
  .entity schema.name schema.fields

mutual

/-- The chains to the leaves of a type. A type in which nothing can be selected is a leaf
    itself, be it primitive or a record without fields. -/
def DataType.leaves : DataType → ChainSet
  | .primitive => .leaf
  | .entity _ fields =>
    let below := fieldLeaves fields
    if below.isEmpty then .leaf else below

/-- The chains to the leaves below fields, through each field in turn. -/
def DataType.fieldLeaves : List (String × DataType) → ChainSet
  | [] => .empty
  | (name, type) :: rest => (type.leaves.prependToAll ⟨name⟩).union (fieldLeaves rest)

end

/-- The chains to the leaves below a schema; none when it has no fields. -/
def Schema.leaves (schema : Schema) : ChainSet :=
  DataType.fieldLeaves schema.fields

end InfoFlow
