import InfoFlow.Proofs.AccessPath.ChainSet
import InfoFlow.Proofs.Schema.Calls

namespace InfoFlow

namespace DataType

mutual

/-- The names of the fields of a type, at any depth. -/
def names : DataType → List String
  | .primitive => []
  | .entity _ fields => fieldNames fields

/-- The names of fields, and of those below them. -/
def fieldNames : List (String × DataType) → List String
  | [] => []
  | (name, type) :: rest => name :: (type.names ++ fieldNames rest)

end

mutual

/-- Chains to leaves go through fields of the type. -/
theorem mem_names_of_mem_leaves (type : DataType) {chain : Chain} (hchain : chain ∈ type.leaves)
    {field : String} (hfield : field ∈ chain.fields) : field ∈ type.names := by
  cases type with
  | primitive =>
    rw [leaves, ChainSet.mem_leaf] at hchain
    simp [hchain, Chain.fields] at hfield
  | entity name fields =>
    rw [leaves] at hchain
    split at hchain
    · rw [ChainSet.mem_leaf] at hchain
      simp [hchain, Chain.fields] at hfield
    · exact mem_fieldNames_of_mem_fieldLeaves fields hchain hfield

theorem mem_fieldNames_of_mem_fieldLeaves (fields : List (String × DataType)) {chain : Chain}
    (hchain : chain ∈ fieldLeaves fields) {field : String} (hfield : field ∈ chain.fields) :
    field ∈ fieldNames fields := by
  cases fields with
  | nil => exact absurd hchain ChainSet.not_mem_empty
  | cons entry rest =>
    obtain ⟨name, type⟩ := entry
    rw [fieldLeaves, ChainSet.mem_union, ChainSet.mem_prependToAll] at hchain
    rw [fieldNames, List.mem_cons, List.mem_append]
    obtain ⟨inner, hinner, rfl⟩ | hchain := hchain
    · obtain rfl | hfield := List.mem_cons.mp hfield
      · exact .inl rfl
      · exact .inr (.inl (mem_names_of_mem_leaves type hinner hfield))
    · exact .inr (.inr (mem_fieldNames_of_mem_fieldLeaves rest hchain hfield))

end

theorem mem_fieldNames_put {entries : Entries DataType} {name field : String} {type : DataType}
    (h : field ∈ fieldNames (entries.put name type)) :
    field = name ∨ field ∈ type.names ∨ field ∈ fieldNames entries := by
  induction entries with
  | nil => simpa [Entries.put, fieldNames] using h
  | cons entry rest ih =>
    obtain ⟨key, old⟩ := entry
    rw [Entries.put] at h
    split at h
    · simpa [fieldNames] using h
    · have hput : field = name ∨ field ∈ type.names ∨ field ∈ fieldNames rest := by
        simpa [fieldNames] using h
      simp only [fieldNames, List.mem_cons, List.mem_append]
      tauto
    · have hput : field = key ∨ field ∈ old.names ∨
          field ∈ fieldNames (Entries.put name type rest) := by
        simpa [fieldNames] using h
      simp only [fieldNames, List.mem_cons, List.mem_append]
      tauto

end DataType

namespace Catalog

open Identifier (Valid)

section

variable {follow : String → Except Fault Schema}

mutual

/-- A resolved type has valid names when those of the schemas that it refers to are valid. -/
theorem valid_of_resolveType (hfollow : ∀ name schema, follow name = .ok schema →
      ∀ field ∈ schema.type.names, Valid field) (decl : TypeDecl) {type : DataType}
    (h : resolveType follow decl = .ok type) : ∀ field ∈ type.names, Valid field := by
  cases decl with
  | primitive =>
    rw [resolveType] at h
    cases h
    simp [DataType.names]
  | inline name fields =>
    rw [resolveType] at h
    obtain ⟨types, hfields, h⟩ := bind_eq_ok_iff.mp h
    cases h
    exact valid_of_resolveFields hfollow name fields [] (by simp [DataType.fieldNames]) hfields
  | named name =>
    rw [resolveType] at h
    obtain ⟨schema, hname, h⟩ := bind_eq_ok_iff.mp h
    cases h
    exact hfollow name schema hname

theorem valid_of_resolveFields (hfollow : ∀ name schema, follow name = .ok schema →
      ∀ field ∈ schema.type.names, Valid field) (schema : Option String)
    (fields : List (String × TypeDecl)) (done : Entries DataType)
    (hdone : ∀ field ∈ DataType.fieldNames done, Valid field) {types : Entries DataType}
    (h : resolveFields follow schema fields done = .ok types) :
    ∀ field ∈ DataType.fieldNames types, Valid field := by
  cases fields with
  | nil =>
    rw [resolveFields] at h
    cases h
    exact hdone
  | cons entry rest =>
    obtain ⟨name, decl⟩ := entry
    obtain ⟨hname, _, type, hdecl, hrest⟩ := resolveFields_cons_eq_ok_iff.mp h
    have htype := valid_of_resolveType hfollow decl hdecl
    refine valid_of_resolveFields hfollow schema rest _ (fun field hfield => ?_) hrest
    obtain rfl | hfield | hfield := DataType.mem_fieldNames_put hfield
    · exact hname
    · exact htype field hfield
    · exact hdone field hfield

end

end

variable {declared : Entries SchemaDecl}

theorem valid_of_expandName {stack : List String} {name : String} {schema : Schema}
    (h : expandName declared stack name = .ok schema) :
    ∀ field ∈ schema.type.names, Valid field := by
  fun_induction expandName declared stack name generalizing schema with
  | case1 => cases h
  | case2 => cases h
  | case3 stack name hnot decl hget ih =>
    obtain ⟨fields, hfields, h⟩ := bind_eq_ok_iff.mp h
    cases h
    exact valid_of_resolveFields (fun target _ htarget => ih target htarget) decl.name decl.fields
      [] (by simp [DataType.fieldNames]) hfields

/-- The chains to the leaves of a type that a coherent catalog resolves have valid names. -/
theorem Coherent.valid_leaves {catalog : Catalog} (hcatalog : catalog.Coherent) {decl : TypeDecl}
    {type : DataType} (h : (catalog.resolve decl).1 = .ok type) {chain : Chain}
    (hchain : chain ∈ type.leaves) : ∀ field ∈ chain.fields, Valid field := by
  rw [(hcatalog.resolve decl).1] at h
  have hvalid := valid_of_resolveType (fun _ _ => valid_of_expandName) decl h
  exact fun field hfield => hvalid field (type.mem_names_of_mem_leaves hchain hfield)

end Catalog

end InfoFlow
