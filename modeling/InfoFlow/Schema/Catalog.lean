import InfoFlow.Schema.Basic
import InfoFlow.Schema.Declaration

namespace InfoFlow

/-- The declared schemas, and those of them that are resolved. -/
structure Catalog where
  declared : Entries SchemaDecl := []
  resolved : Entries Schema := []

namespace Catalog

open MonadExcept (ofExcept)

/-- A step of resolution: it may fail, and keeps the schemas resolved so far in either case. -/
abbrev Resolving := ExceptT Fault (StateM (Entries Schema))

/-- Adds a declaration. It must have a valid name that is not declared yet. -/
def declare (catalog : Catalog) (decl : SchemaDecl) : Except Fault Catalog :=
  match decl.name with
  | none => .error .unnamedSchema
  | some name => do
    Identifier.check name
    if catalog.declared.has name then .error (.duplicateSchema name)
    else .ok { catalog with declared := catalog.declared.put name decl }

section

variable {m : Type → Type} [Monad m] [MonadExceptOf Fault m]

mutual

/-- Resolves a declared type, following references as given. -/
def resolveType (follow : String → m Schema) : TypeDecl → m DataType
  | .primitive => pure .primitive
  | .inline name fields => do
    return .entity name (← resolveFields follow name fields [])
  | .named name => do
    return (← follow name).type

/-- Resolves the fields of a declaration one after the other, on top of those already done. A
    field needs a valid name that no field before it has. -/
def resolveFields (follow : String → m Schema) (schema : Option String) :
    List (String × TypeDecl) → Entries DataType → m (Entries DataType)
  | [], done => pure done
  | (name, decl) :: rest, done => do
    ofExcept (Identifier.check name)
    if done.has name then throw (.duplicateField schema name)
    let type ← resolveType follow decl
    resolveFields follow schema rest (done.put name type)

end

end

/-- The declared names that are not on a stack. -/
def unvisited (declared : Entries SchemaDecl) (stack : List String) : List String :=
  declared.names.filter (!stack.contains ·)

/-- Following a declared name that is not on the stack leaves fewer names to follow. -/
theorem unvisited_push_lt {declared : Entries SchemaDecl} {stack : List String} {name : String}
    {decl : SchemaDecl} (hget : declared.get? name = some decl) (hstack : name ∉ stack) :
    (unvisited declared (stack ++ [name])).length < (unvisited declared stack).length := by
  have hname : name ∈ declared.names := Entries.mem_names_iff.2 (by simp [Entries.has, hget])
  have hmem : name ∈ unvisited declared stack := by
    simp [unvisited, hname, hstack]
  have heq : unvisited declared (stack ++ [name]) =
      (unvisited declared stack).filter (fun other => other != name) := by
    simp only [unvisited, List.filter_filter]
    congr 1
    funext other
    by_cases h : other = name <;> simp [h]
  rw [heq]
  exact List.length_filter_lt_length_iff_exists.2 ⟨name, hmem, by simp⟩

/-- The cycle that a name closes when it is met again: the stack from that name on, and the name
    once more. -/
def cycle (stack : List String) (name : String) : List String :=
  stack.dropWhile (· != name) ++ [name]

/-- Resolves the schema that is declared under a name. The names being followed are on the stack:
    meeting one of them again is a cycle, and every other step goes to a declared name that is not
    on it, so the walk ends. What was resolved is kept, also when the walk fails later. -/
def resolveName (declared : Entries SchemaDecl) (stack : List String) (name : String) :
    Resolving Schema := do
  if let some schema := (← get).get? name then return schema
  if _ : name ∈ stack then throw (.cyclicSchema (cycle stack name))
  else
    match _ : declared.get? name with
    | none => throw (.unknownType name)
    | some decl =>
      let fields ← resolveFields (resolveName declared (stack ++ [name])) decl.name decl.fields []
      let schema : Schema := ⟨decl.name, fields⟩
      modify (Entries.put name schema)
      return schema
termination_by (unvisited declared stack).length
decreasing_by exact unvisited_push_lt ‹_› ‹_›

/-- Runs a resolution on the catalog. The declarations stay as they are. -/
def run {α : Type} (catalog : Catalog) (resolving : Resolving α) : Except Fault α × Catalog :=
  let (result, resolved) := resolving.run.run catalog.resolved
  (result, { catalog with resolved })

/-- The schema that is declared under a name. -/
def schema (catalog : Catalog) (name : String) : Except Fault Schema × Catalog :=
  catalog.run (resolveName catalog.declared [] name)

/-- The type that a declaration stands for. -/
def resolve (catalog : Catalog) (decl : TypeDecl) : Except Fault DataType × Catalog :=
  catalog.run (resolveType (resolveName catalog.declared []) decl)

/-- Resolves all declared schemas in the order of their names, up to the first fault. -/
def resolveAll (catalog : Catalog) : Except Fault Unit × Catalog :=
  catalog.run (catalog.declared.names.forM fun name => do
    let _ ← resolveName catalog.declared [] name)

end Catalog

end InfoFlow
