import Mathlib.Data.List.Nodup
import Mathlib.Logic.Relation
import InfoFlow.Proofs.Validity
import InfoFlow.Schema.Catalog

namespace InfoFlow

mutual

/-- The names that a declared type refers to, those inside inline records included. -/
def TypeDecl.references : TypeDecl → List String
  | .primitive => []
  | .inline _ fields => TypeDecl.fieldReferences fields
  | .named name => [name]

/-- The names that declared fields refer to. -/
def TypeDecl.fieldReferences : List (String × TypeDecl) → List String
  | [] => []
  | (_, decl) :: rest => decl.references ++ TypeDecl.fieldReferences rest

end

mutual

/-- At every level of a declared type the field names are valid, and none of them is repeated. -/
def TypeDecl.WellNamed : TypeDecl → Prop
  | .primitive => True
  | .inline _ fields => (fields.map Prod.fst).Nodup ∧ TypeDecl.FieldsWellNamed fields
  | .named _ => True

/-- Fields with valid names and well-named types. -/
def TypeDecl.FieldsWellNamed : List (String × TypeDecl) → Prop
  | [] => True
  | (name, decl) :: rest =>
    Identifier.Valid name ∧ decl.WellNamed ∧ TypeDecl.FieldsWellNamed rest

end

/-- The declared record, as if it stood where it is used. -/
def SchemaDecl.inline (decl : SchemaDecl) : TypeDecl :=
  .inline decl.name decl.fields

namespace Catalog

/-- A declared schema refers to a name anywhere inside its declaration. -/
def Refers (declared : Entries SchemaDecl) (source target : String) : Prop :=
  ∃ decl, declared.get? source = some decl ∧ target ∈ decl.inline.references

/-- Declarations with proper field names that refer to each other without gaps and circles. -/
structure WellFormed (declared : Entries SchemaDecl) : Prop where
  wellNamed : ∀ name decl, declared.get? name = some decl → decl.inline.WellNamed
  closed : ∀ source target, Refers declared source target → declared.has target = true
  acyclic : ∀ name, ¬ Relation.TransGen (Refers declared) name name

section

variable {follow : String → Except Fault Schema}

@[simp] theorem ofExcept_eq {α : Type} (x : Except Fault α) :
    (MonadExcept.ofExcept x : Except Fault α) = x := by
  cases x <;> rfl

theorem resolveFields_cons_eq_ok_iff {schema : Option String} {name : String} {decl : TypeDecl}
    {rest : List (String × TypeDecl)} {done types : Entries DataType} :
    resolveFields follow schema ((name, decl) :: rest) done = .ok types ↔
      Identifier.Valid name ∧ done.has name = false ∧ ∃ type, resolveType follow decl = .ok type ∧
        resolveFields follow schema rest (done.put name type) = .ok types := by
  rw [resolveFields, ofExcept_eq, check_bind_eq_ok_iff, Identifier.check_eq_ok_iff]
  by_cases hdone : done.has name = true
  · simp [hdone, bind_eq_ok_iff, throw, throwThe, MonadExceptOf.throw]
  · simp [hdone, bind_eq_ok_iff]

mutual

/-- A type resolves when it is well-named and each of its references can be followed. -/
theorem exists_resolveType_iff (decl : TypeDecl) :
    (∃ type, resolveType follow decl = .ok type) ↔
      decl.WellNamed ∧ ∀ name ∈ decl.references, ∃ schema, follow name = .ok schema := by
  cases decl with
  | primitive => simp [resolveType, TypeDecl.WellNamed, TypeDecl.references, pure, Except.pure]
  | inline name fields =>
    have hfields := exists_resolveFields_iff name fields []
    simpa [resolveType, bind_eq_ok_iff, pure, Except.pure, TypeDecl.WellNamed, and_assoc,
      TypeDecl.references, Entries.has, Entries.get?] using hfields
  | named name =>
    simp [resolveType, bind_eq_ok_iff, pure, Except.pure, TypeDecl.WellNamed, TypeDecl.references]

theorem exists_resolveFields_iff (schema : Option String) (fields : List (String × TypeDecl))
    (done : Entries DataType) :
    (∃ types, resolveFields follow schema fields done = .ok types) ↔
      (fields.map Prod.fst).Nodup ∧ (∀ name ∈ fields.map Prod.fst, done.has name = false) ∧
      TypeDecl.FieldsWellNamed fields ∧
      ∀ name ∈ TypeDecl.fieldReferences fields, ∃ schema, follow name = .ok schema := by
  cases fields with
  | nil =>
    simp [resolveFields, pure, Except.pure, TypeDecl.FieldsWellNamed, TypeDecl.fieldReferences]
  | cons field rest =>
    obtain ⟨name, decl⟩ := field
    have htype := exists_resolveType_iff decl
    have hrest (type : DataType) := exists_resolveFields_iff schema rest (done.put name type)
    constructor
    · rintro ⟨types, h⟩
      obtain ⟨hname, hdone, type, hdecl, h⟩ := resolveFields_cons_eq_ok_iff.mp h
      obtain ⟨hnodup, hfresh, hnamed, hfollow⟩ := (hrest type).mp ⟨types, h⟩
      obtain ⟨hdeclNamed, hdeclFollow⟩ := htype.mp ⟨type, hdecl⟩
      simp only [Entries.has_put, Bool.or_eq_false_iff, decide_eq_false_iff_not] at hfresh
      have hnotin : name ∉ rest.map Prod.fst := fun hmem => (hfresh name hmem).1 rfl
      refine ⟨List.nodup_cons.mpr ⟨hnotin, hnodup⟩, ?_, ⟨hname, hdeclNamed, hnamed⟩, ?_⟩
      · exact List.forall_mem_cons.mpr ⟨hdone, fun other hother => (hfresh other hother).2⟩
      · exact List.forall_mem_append.mpr ⟨hdeclFollow, hfollow⟩
    · rintro ⟨hnodup, hfresh, ⟨hname, hdeclNamed, hnamed⟩, hfollow⟩
      obtain ⟨hnotin, hnodup⟩ := List.nodup_cons.mp hnodup
      obtain ⟨hdone, hfresh⟩ := List.forall_mem_cons.mp hfresh
      obtain ⟨hdeclFollow, hfollow⟩ := List.forall_mem_append.mp hfollow
      obtain ⟨type, hdecl⟩ := htype.mpr ⟨hdeclNamed, hdeclFollow⟩
      have hfresh' : ∀ other ∈ rest.map Prod.fst, (done.put name type).has other = false := by
        intro other hother
        have hne : name ≠ other := by
          rintro rfl
          exact hnotin hother
        simp [Entries.has_put, hne, hfresh other hother]
      obtain ⟨types, h⟩ := (hrest type).mpr ⟨hnodup, hfresh', hnamed, hfollow⟩
      exact ⟨types, resolveFields_cons_eq_ok_iff.mpr ⟨hname, hdone, type, hdecl, h⟩⟩

end

/-- The fields of a declaration resolve when it is well-formed as a type. -/
theorem exists_resolveFields_decl_iff (decl : SchemaDecl) :
    (∃ types, resolveFields follow decl.name decl.fields [] = .ok types) ↔
      decl.inline.WellNamed ∧
      ∀ name ∈ decl.inline.references, ∃ schema, follow name = .ok schema := by
  rw [exists_resolveFields_iff]
  simp [Entries.has, Entries.get?, SchemaDecl.inline, TypeDecl.WellNamed, and_assoc,
    TypeDecl.references]

end

end Catalog

end InfoFlow
