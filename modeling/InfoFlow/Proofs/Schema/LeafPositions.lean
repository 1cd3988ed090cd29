import Mathlib.Data.Option.Basic
import InfoFlow.Proofs.Schema.LeafChains

namespace InfoFlow

namespace DataType

/-- A type in which nothing can be selected. -/
def isLeaf : DataType → Bool
  | .primitive => true
  | .entity _ fields => fields.isEmpty

/-- The type that a chain leads to, through one field after the other. -/
def follow : DataType → Chain → Option DataType
  | type, [] => some type
  | .primitive, _ :: _ => none
  | .entity _ fields, selector :: rest => do follow (← Entries.get? selector.field fields) rest

mutual

/-- The number of positions in the tree of a type at which a leaf stands. -/
def leafCount : DataType → Nat
  | .primitive => 1
  | .entity _ fields => if fields.isEmpty then 1 else fieldLeafCount fields

def fieldLeafCount : List (String × DataType) → Nat
  | [] => 0
  | (_, type) :: rest => type.leafCount + fieldLeafCount rest

end

mutual

/-- At every level of a type each field name stands once. -/
def Keyed : DataType → Prop
  | .primitive => True
  | .entity _ fields => (fields.map Prod.fst).Nodup ∧ FieldsKeyed fields

def FieldsKeyed : List (String × DataType) → Prop
  | [] => True
  | (_, type) :: rest => type.Keyed ∧ FieldsKeyed rest

end

variable {type : DataType} {chain : Chain}

theorem FieldsKeyed.of_get? {fields : List (String × DataType)} (h : FieldsKeyed fields)
    {name : String} (hget : Entries.get? name fields = some type) : type.Keyed := by
  induction fields with
  | nil => cases hget
  | cons entry rest ih =>
    rw [Entries.get?] at hget
    split at hget
    · cases hget
      exact h.1
    · exact ih h.2 hget

/-- Types that are met on the way are keyed as well. -/
theorem Keyed.follow (h : type.Keyed) {part : DataType} (hfollow : type.follow chain = some part) :
    part.Keyed := by
  induction chain generalizing type with
  | nil =>
    cases hfollow
    exact h
  | cons selector rest ih =>
    cases type with
    | primitive => cases hfollow
    | entity name fields =>
      obtain ⟨inner, hget, hrest⟩ := Option.bind_eq_some_iff.mp hfollow
      exact ih (h.2.of_get? hget) hrest

theorem follow_append {rest : Chain} :
    type.follow (chain ++ rest) = (type.follow chain).bind (DataType.follow · rest) := by
  induction chain generalizing type with
  | nil => rfl
  | cons selector chain ih =>
    cases type with
    | primitive => rfl
    | entity name fields =>
      show (Entries.get? selector.field fields).bind (DataType.follow · (chain ++ rest)) =
        ((Entries.get? selector.field fields).bind (DataType.follow · chain)).bind
          (DataType.follow · rest)
      rw [Option.bind_assoc]
      simp only [ih]

/-- From a leaf no chain leads on. -/
theorem eq_nil_of_follow_isLeaf (hleaf : type.isLeaf = true) {part : DataType}
    (h : type.follow chain = some part) : chain = [] := by
  cases chain with
  | nil => rfl
  | cons selector rest =>
    cases type with
    | primitive => cases h
    | entity name fields =>
      obtain rfl := List.isEmpty_iff.mp hleaf
      cases h

/-- A record with fields is not a leaf itself, as each of its fields has a leaf. -/
theorem leaves_entity_of_ne {name : Option String} {fields : List (String × DataType)}
    (h : fields ≠ []) : (entity name fields).leaves = fieldLeaves fields := by
  obtain ⟨⟨key, first⟩, rest, rfl⟩ := List.exists_cons_of_ne_nil h
  obtain ⟨inner, hinner⟩ := first.exists_mem_leaves
  have hmem : ⟨key⟩ :: inner ∈ fieldLeaves ((key, first) :: rest) := by
    rw [fieldLeaves, ChainSet.mem_union, ChainSet.mem_prependToAll]
    exact .inl ⟨inner, hinner, rfl⟩
  rw [leaves, if_neg fun hempty => ChainSet.isEmpty_iff.mp hempty _ hmem]

theorem leaves_entity_nil {name : Option String} : (entity name []).leaves = .leaf := by
  rw [leaves, fieldLeaves]
  rfl

/-- The leaves below fields start with the name of one of them. -/
theorem mem_fieldLeaves_iff {fields : List (String × DataType)}
    (h : (fields.map Prod.fst).Nodup) : chain ∈ fieldLeaves fields ↔
      ∃ selector rest, selector :: rest = chain ∧
        ∃ type, Entries.get? selector.field fields = some type ∧ rest ∈ type.leaves := by
  induction fields with
  | nil => simp [fieldLeaves, ChainSet.not_mem_empty, Entries.get?]
  | cons entry fields ih =>
    obtain ⟨key, first⟩ := entry
    obtain ⟨hkey, hfields⟩ := List.nodup_cons.mp h
    rw [fieldLeaves, ChainSet.mem_union, ChainSet.mem_prependToAll, ih hfields]
    constructor
    · rintro (⟨inner, hinner, rfl⟩ | ⟨selector, rest, rfl, type, hget, hrest⟩)
      · exact ⟨⟨key⟩, inner, rfl, first, by simp [Entries.get?], hinner⟩
      · have hne : key ≠ selector.field := by
          rintro rfl
          exact hkey (Entries.mem_names_iff.mpr (by simp [Entries.has, hget]))
        exact ⟨selector, rest, rfl, type, by simp [Entries.get?, hne, hget], hrest⟩
    · rintro ⟨⟨field⟩, rest, rfl, type, hget, hrest⟩
      rw [Entries.get?] at hget
      split at hget
      · rename_i heq
        cases hget
        exact .inl ⟨rest, hrest, by rw [heq]⟩
      · exact .inr ⟨⟨field⟩, rest, rfl, type, hget, hrest⟩

/-- The chains to the leaves are those that can be followed to a leaf. -/
theorem Keyed.mem_leaves_iff (h : type.Keyed) : chain ∈ type.leaves ↔
    ∃ leaf, type.follow chain = some leaf ∧ leaf.isLeaf = true := by
  induction chain generalizing type with
  | nil =>
    cases type with
    | primitive => simp [leaves, ChainSet.mem_leaf, DataType.follow, isLeaf]
    | entity name fields =>
      by_cases hfields : fields = []
      · subst hfields
        simp [leaves_entity_nil, ChainSet.mem_leaf, DataType.follow, isLeaf]
      · simp [leaves_entity_of_ne hfields, mem_fieldLeaves_iff h.1, DataType.follow, isLeaf,
          hfields]
  | cons selector rest ih =>
    cases type with
    | primitive => simp [leaves, ChainSet.mem_leaf, DataType.follow]
    | entity name fields =>
      have hfollow (leaf : DataType) : (entity name fields).follow (selector :: rest) = some leaf ↔
          ∃ type, Entries.get? selector.field fields = some type ∧ type.follow rest = some leaf :=
        Option.bind_eq_some_iff
      by_cases hfields : fields = []
      · subst hfields
        simp [leaves_entity_nil, ChainSet.mem_leaf, hfollow, Entries.get?]
      · rw [leaves_entity_of_ne hfields, mem_fieldLeaves_iff h.1]
        constructor
        · rintro ⟨_, _, heq, type, hget, hrest⟩
          cases heq
          obtain ⟨leaf, hleaf, hisLeaf⟩ := (ih (h.2.of_get? hget)).mp hrest
          exact ⟨leaf, (hfollow leaf).mpr ⟨type, hget, hleaf⟩, hisLeaf⟩
        · rintro ⟨leaf, hleaf, hisLeaf⟩
          obtain ⟨type, hget, hrest⟩ := (hfollow leaf).mp hleaf
          have hinner := (ih (h.2.of_get? hget)).mpr ⟨leaf, hrest, hisLeaf⟩
          exact ⟨selector, rest, rfl, type, hget, hinner⟩

/-- No leaf lies below another one. -/
theorem Keyed.eq_of_prefix (h : type.Keyed) {first second : Chain} (hfirst : first ∈ type.leaves)
    (hsecond : second ∈ type.leaves) (hbelow : first <+: second) : first = second := by
  obtain ⟨rest, rfl⟩ := hbelow
  obtain ⟨leaf, hleaf, hisLeaf⟩ := h.mem_leaves_iff.mp hfirst
  obtain ⟨below, hbelow, _⟩ := h.mem_leaves_iff.mp hsecond
  rw [follow_append, hleaf] at hbelow
  rw [eq_nil_of_follow_isLeaf hisLeaf hbelow, List.append_nil]

mutual

/-- Each position of a leaf has a chain of its own. -/
theorem size_leaves (type : DataType) (h : type.Keyed) : type.leaves.size = type.leafCount := by
  cases type with
  | primitive => rfl
  | entity name fields =>
    by_cases hfields : fields = []
    · subst hfields
      rw [leaves_entity_nil, leafCount]
      rfl
    · rw [leaves_entity_of_ne hfields, leafCount, if_neg (by simpa using hfields)]
      exact size_fieldLeaves fields h.1 h.2

theorem size_fieldLeaves (fields : List (String × DataType)) (hnodup : (fields.map Prod.fst).Nodup)
    (h : FieldsKeyed fields) : (fieldLeaves fields).size = fieldLeafCount fields := by
  cases fields with
  | nil => rfl
  | cons entry rest =>
    obtain ⟨key, first⟩ := entry
    obtain ⟨hkey, hrest⟩ := List.nodup_cons.mp hnodup
    have hdisjoint : ∀ chain ∈ first.leaves.prependToAll ⟨key⟩, chain ∉ fieldLeaves rest := by
      intro chain hchain hmem
      obtain ⟨inner, _, rfl⟩ := ChainSet.mem_prependToAll.mp hchain
      obtain ⟨_, _, heq, type, hget, _⟩ := (mem_fieldLeaves_iff hrest).mp hmem
      cases heq
      exact hkey (Entries.mem_names_iff.mpr (by simp [Entries.has, hget]))
    rw [fieldLeaves, ChainSet.size_union hdisjoint, ChainSet.size_prependToAll,
      size_leaves first h.1, size_fieldLeaves rest hrest h.2, fieldLeafCount]

end

end DataType

theorem Entries.mem_names_put {α : Type} {name other : String} {value : α} {entries : Entries α} :
    other ∈ (entries.put name value).names ↔ other = name ∨ other ∈ entries.names := by
  rw [Entries.mem_names_iff, Entries.has_put, Bool.or_eq_true, decide_eq_true_iff,
    Entries.mem_names_iff, eq_comm]

/-- A table keeps each name once. -/
theorem Entries.nodup_names_put {α : Type} {name : String} {value : α} {entries : Entries α}
    (h : entries.names.Nodup) (hnew : name ∉ entries.names) :
    (entries.put name value).names.Nodup := by
  induction entries with
  | nil => simp [Entries.put, Entries.names]
  | cons entry rest ih =>
    obtain ⟨key, old⟩ := entry
    obtain ⟨hkey, hrest⟩ := List.nodup_cons.mp h
    obtain ⟨hne, hnew⟩ := not_or.mp (mt List.mem_cons.mpr hnew)
    rw [Entries.put]
    split
    · exact List.nodup_cons.mpr ⟨not_or.mpr ⟨hne, hnew⟩ ∘ List.mem_cons.mp, h⟩
    · exact List.nodup_cons.mpr ⟨hnew, hrest⟩
    · refine List.nodup_cons.mpr ⟨fun hmem => ?_, ih hrest hnew⟩
      obtain heq | hmem := Entries.mem_names_put.mp hmem
      · exact hne heq.symm
      · exact hkey hmem

theorem DataType.FieldsKeyed.put {entries : Entries DataType} (h : FieldsKeyed entries)
    {name : String} {type : DataType} (htype : type.Keyed) :
    FieldsKeyed (entries.put name type) := by
  induction entries with
  | nil => exact ⟨htype, trivial⟩
  | cons entry rest ih =>
    rw [Entries.put]
    split
    · exact ⟨htype, h⟩
    · exact ⟨htype, h.2⟩
    · exact ⟨h.1, ih h.2⟩

namespace Catalog

section

variable {follow : String → Except Fault Schema}

mutual

/-- A resolved type is keyed when the schemas that it refers to are. -/
theorem keyed_of_resolveType (hfollow : ∀ name schema, follow name = .ok schema →
      schema.type.Keyed) (decl : TypeDecl) {type : DataType}
    (h : resolveType follow decl = .ok type) : type.Keyed := by
  cases decl with
  | primitive =>
    rw [resolveType] at h
    cases h
    trivial
  | inline name fields =>
    rw [resolveType] at h
    obtain ⟨types, hfields, h⟩ := bind_eq_ok_iff.mp h
    cases h
    exact keyed_of_resolveFields hfollow name fields [] List.nodup_nil trivial hfields
  | named name =>
    rw [resolveType] at h
    obtain ⟨schema, hname, h⟩ := bind_eq_ok_iff.mp h
    cases h
    exact hfollow name schema hname

theorem keyed_of_resolveFields (hfollow : ∀ name schema, follow name = .ok schema →
      schema.type.Keyed) (schema : Option String) (fields : List (String × TypeDecl))
    (done : Entries DataType) (hnodup : done.names.Nodup) (hdone : DataType.FieldsKeyed done)
    {types : Entries DataType} (h : resolveFields follow schema fields done = .ok types) :
    types.names.Nodup ∧ DataType.FieldsKeyed types := by
  cases fields with
  | nil =>
    rw [resolveFields] at h
    cases h
    exact ⟨hnodup, hdone⟩
  | cons entry rest =>
    obtain ⟨name, decl⟩ := entry
    obtain ⟨_, hnew, type, hdecl, hrest⟩ := resolveFields_cons_eq_ok_iff.mp h
    have hnotin : name ∉ done.names := by simp [Entries.mem_names_iff, hnew]
    exact keyed_of_resolveFields hfollow schema rest _ (Entries.nodup_names_put hnodup hnotin)
      (hdone.put (keyed_of_resolveType hfollow decl hdecl)) hrest

end

end

theorem keyed_of_expandName {declared : Entries SchemaDecl} {stack : List String} {name : String}
    {schema : Schema} (h : expandName declared stack name = .ok schema) : schema.type.Keyed := by
  fun_induction expandName declared stack name generalizing schema with
  | case1 => cases h
  | case2 => cases h
  | case3 stack name hnot decl hget ih =>
    obtain ⟨fields, hfields, h⟩ := bind_eq_ok_iff.mp h
    cases h
    exact keyed_of_resolveFields (fun target _ htarget => ih target htarget) decl.name decl.fields
      [] List.nodup_nil trivial hfields

theorem Coherent.keyed {catalog : Catalog} (hcatalog : catalog.Coherent) {decl : TypeDecl}
    {type : DataType} (h : (catalog.resolve decl).1 = .ok type) : type.Keyed := by
  rw [(hcatalog.resolve decl).1] at h
  exact keyed_of_resolveType (fun _ _ => keyed_of_expandName) decl h

/-- The leaves of a type that a catalog resolves, and of every type inside it, are exactly the
    chains that can be followed to a leaf. So there is at least one, none lies below another, and
    there are as many as leaf positions in the tree of the type. A schema has the leaves of its
    records, except that one without fields has none while its records are leaves. -/
theorem leaves_exact (calls : List Call) {decl : TypeDecl} {whole type : DataType} {path : Chain}
    (hwhole : ((after calls).resolve decl).1 = .ok whole) (htype : whole.follow path = some type) :
    (∀ chain, chain ∈ type.leaves ↔
      ∃ leaf, type.follow chain = some leaf ∧ leaf.isLeaf = true) ∧
    type.leaves.isEmpty = false ∧
    (∀ first ∈ type.leaves, ∀ second ∈ type.leaves, first <+: second → first = second) ∧
    type.leaves.size = type.leafCount ∧
    ∀ schema : Schema, schema.type = type →
      schema.leaves = if schema.fields.isEmpty then .empty else type.leaves := by
  have hkeyed : type.Keyed := ((coherent_after calls).keyed hwhole).follow htype
  refine ⟨fun chain => hkeyed.mem_leaves_iff, ?_, fun _ hfirst _ hsecond => ?_,
    type.size_leaves hkeyed, ?_⟩
  · obtain ⟨chain, hchain⟩ := type.exists_mem_leaves
    exact Bool.eq_false_iff.mpr fun hempty => ChainSet.isEmpty_iff.mp hempty chain hchain
  · exact hkeyed.eq_of_prefix hfirst hsecond
  · rintro ⟨name, fields⟩ rfl
    cases fields with
    | nil => rfl
    | cons entry rest =>
      rw [Schema.type, DataType.leaves_entity_of_ne (List.cons_ne_nil _ _)]
      rfl

/-- A schema with an inline record, one of whose fields is a record without fields. -/
def person : SchemaDecl where
  name := some "Person"
  fields := [("name", .primitive),
    ("home", .inline none [("city", .primitive), ("extra", .inline none [])])]

/-- The type that the schema is resolved to. -/
def personType : DataType :=
  .entity (some "Person") [("home", .entity none [("city", .primitive), ("extra",
    .entity none [])]), ("name", .primitive)]

theorem leaves_exact_person :
    ((after [.declare person]).resolve (.inline none [("to", .named "Person"),
      ("from", .named "Person")])).1 = .ok (.entity none [("from", personType),
        ("to", personType)]) ∧
    (DataType.entity none [("from", personType), ("to", personType)]).follow [⟨"to"⟩] =
      some personType ∧
    (∀ chain, chain ∈ personType.leaves ↔
      ∃ leaf, personType.follow chain = some leaf ∧ leaf.isLeaf = true) ∧
    personType.leaves.size = personType.leafCount := by
  have hletter : ((after [.declare person]).resolve (.inline none [("to", .named "Person"),
      ("from", .named "Person")])).1 = .ok (.entity none [("from", personType),
        ("to", personType)]) := by with_unfolding_all rfl
  have hperson : (DataType.entity none [("from", personType), ("to", personType)]).follow
      [⟨"to"⟩] = some personType := rfl
  obtain ⟨hleaves, _, _, hsize, _⟩ := leaves_exact [.declare person] hletter hperson
  exact ⟨hletter, hperson, hleaves, hsize⟩

end Catalog

end InfoFlow
