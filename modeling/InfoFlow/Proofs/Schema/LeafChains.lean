import InfoFlow.Proofs.Schema.Leaves

namespace InfoFlow

namespace DataType

/-- Every type has a leaf, if only itself. -/
theorem exists_mem_leaves (type : DataType) : ∃ chain, chain ∈ type.leaves := by
  cases type with
  | primitive => exact ⟨[], by rw [leaves, ChainSet.mem_leaf]⟩
  | entity name fields =>
    rw [leaves]
    split
    · exact ⟨[], ChainSet.mem_leaf.mpr rfl⟩
    · rename_i hbelow
      simpa [ChainSet.isEmpty_iff] using hbelow

/-- A new field adds the leaves of its type, one step deeper. -/
theorem mem_fieldLeaves_put {entries : Entries DataType} {name : String} {type : DataType}
    (hnew : entries.has name = false) {chain : Chain} :
    chain ∈ fieldLeaves (entries.put name type) ↔
      chain ∈ fieldLeaves entries ∨ ∃ inner ∈ type.leaves, ⟨name⟩ :: inner = chain := by
  induction entries with
  | nil => simp [Entries.put, fieldLeaves, ChainSet.mem_union, ChainSet.mem_prependToAll,
      ChainSet.not_mem_empty]
  | cons entry rest ih =>
    obtain ⟨key, old⟩ := entry
    have hne : key ≠ name := by
      rintro rfl
      simp [Entries.has, Entries.get?] at hnew
    have hrest : Entries.has name rest = false := by
      simpa [Entries.has, Entries.get?, hne] using hnew
    rw [Entries.put]
    split
    · simp only [fieldLeaves, ChainSet.mem_union, ChainSet.mem_prependToAll]
      exact or_comm
    · rename_i heq
      exact absurd (Std.LawfulEqCmp.eq_of_compare heq).symm hne
    · simp only [fieldLeaves, ChainSet.mem_union, ih hrest, or_assoc]

end DataType

namespace Catalog

/-- A chain that leads from a declared type to a leaf: through fields, into inline records and into
    the schemas that are referred to, up to a type in which nothing can be selected. -/
inductive Leads (declared : Entries SchemaDecl) : TypeDecl → Chain → Prop where
  | primitive : Leads declared .primitive []
  | blank {name : Option String} : Leads declared (.inline name []) []
  | field {name : Option String} {fields : List (String × TypeDecl)} {field : String}
    {decl : TypeDecl} {chain : Chain} (hfield : (field, decl) ∈ fields)
    (h : Leads declared decl chain) : Leads declared (.inline name fields) (⟨field⟩ :: chain)
  | named {name : String} {decl : SchemaDecl} {chain : Chain}
    (hget : declared.get? name = some decl) (h : Leads declared decl.inline chain) :
    Leads declared (.named name) chain

section

variable {declared : Entries SchemaDecl} {chain : Chain}

theorem leads_named_iff {name : String} {decl : SchemaDecl}
    (hget : declared.get? name = some decl) :
    Leads declared (.named name) chain ↔ Leads declared decl.inline chain := by
  constructor
  · rintro (_ | _ | _ | ⟨hget', h⟩)
    cases hget.symm.trans hget'
    exact h
  · exact .named hget

theorem leads_inline_cons_iff {name : Option String} {field : String × TypeDecl}
    {rest : List (String × TypeDecl)} : Leads declared (.inline name (field :: rest)) chain ↔
      ∃ entry ∈ field :: rest, ∃ inner, Leads declared entry.2 inner ∧
        ⟨entry.1⟩ :: inner = chain := by
  constructor
  · rintro (_ | _ | ⟨hfield, h⟩ | _)
    exact ⟨_, hfield, _, h, rfl⟩
  · rintro ⟨entry, hentry, inner, h, rfl⟩
    exact .field hentry h

variable {follow : String → Except Fault Schema}

mutual

/-- The leaves of a resolved type are those that its declaration leads to, when this is so for the
    schemas that it refers to. -/
theorem mem_leaves_of_resolveType (hfollow : ∀ name schema, follow name = .ok schema →
      ∀ chain, chain ∈ schema.type.leaves ↔ Leads declared (.named name) chain) (decl : TypeDecl)
    {type : DataType} (h : resolveType follow decl = .ok type) (chain : Chain) :
    chain ∈ type.leaves ↔ Leads declared decl chain := by
  cases decl with
  | primitive =>
    rw [resolveType] at h
    cases h
    rw [DataType.leaves, ChainSet.mem_leaf]
    exact ⟨fun h => h ▸ .primitive, fun h => by cases h; rfl⟩
  | inline name fields =>
    rw [resolveType] at h
    obtain ⟨types, hfields, h⟩ := bind_eq_ok_iff.mp h
    cases h
    cases fields with
    | nil =>
      rw [resolveFields] at hfields
      cases hfields
      have hblank : ChainSet.empty.isEmpty = true := rfl
      rw [DataType.leaves, DataType.fieldLeaves, if_pos hblank, ChainSet.mem_leaf]
      exact ⟨fun h => h ▸ .blank, fun h => by cases h <;> simp_all⟩
    | cons field rest =>
      have hmem (below : Chain) : below ∈ DataType.fieldLeaves types ↔
          Leads declared (.inline name (field :: rest)) below := by
        rw [mem_fieldLeaves_of_resolveFields hfollow name (field :: rest) [] hfields,
          leads_inline_cons_iff]
        exact or_iff_right ChainSet.not_mem_empty
      -- The first field alone leads to a leaf, so the record is not one itself.
      obtain ⟨_, _, first, hfirst, _⟩ := resolveFields_cons_eq_ok_iff.mp hfields
      obtain ⟨inner, hinner⟩ := first.exists_mem_leaves
      have hleads := (mem_leaves_of_resolveType hfollow field.2 hfirst inner).mp hinner
      have hfield := (hmem _).mpr (.field List.mem_cons_self hleads)
      rw [DataType.leaves, if_neg fun h => ChainSet.isEmpty_iff.mp h _ hfield, hmem]
  | named name =>
    rw [resolveType] at h
    obtain ⟨schema, hname, h⟩ := bind_eq_ok_iff.mp h
    cases h
    exact hfollow name schema hname chain

theorem mem_fieldLeaves_of_resolveFields (hfollow : ∀ name schema, follow name = .ok schema →
      ∀ chain, chain ∈ schema.type.leaves ↔ Leads declared (.named name) chain)
    (schema : Option String) (fields : List (String × TypeDecl)) (done : Entries DataType)
    {types : Entries DataType} (h : resolveFields follow schema fields done = .ok types)
    (chain : Chain) : chain ∈ DataType.fieldLeaves types ↔
      chain ∈ DataType.fieldLeaves done ∨ ∃ entry ∈ fields, ∃ inner,
        Leads declared entry.2 inner ∧ ⟨entry.1⟩ :: inner = chain := by
  cases fields with
  | nil =>
    rw [resolveFields] at h
    cases h
    simp
  | cons entry rest =>
    obtain ⟨name, decl⟩ := entry
    obtain ⟨_, hnew, type, hdecl, hrest⟩ := resolveFields_cons_eq_ok_iff.mp h
    have htype := mem_leaves_of_resolveType hfollow decl hdecl
    rw [mem_fieldLeaves_of_resolveFields hfollow schema rest _ hrest,
      DataType.mem_fieldLeaves_put hnew, or_assoc]
    simp [htype]

end

theorem mem_leaves_of_expandName {stack : List String} {name : String} {schema : Schema}
    (h : expandName declared stack name = .ok schema) (chain : Chain) :
    chain ∈ schema.type.leaves ↔ Leads declared (.named name) chain := by
  fun_induction expandName declared stack name generalizing schema chain with
  | case1 => cases h
  | case2 => cases h
  | case3 stack name hnot decl hget ih =>
    obtain ⟨fields, hfields, h⟩ := bind_eq_ok_iff.mp h
    cases h
    have htype : resolveType (expandName declared (stack ++ [name])) decl.inline =
        .ok (.entity decl.name fields) := by
      rw [SchemaDecl.inline, resolveType, hfields]
      rfl
    rw [leads_named_iff hget]
    exact mem_leaves_of_resolveType (fun target _ htarget => ih target htarget) _ htype chain

end

/-- In a coherent catalog a type has the leaves that its declaration leads to. -/
theorem Coherent.mem_leaves_iff {catalog : Catalog} (hcatalog : catalog.Coherent) {decl : TypeDecl}
    {type : DataType} (h : (catalog.resolve decl).1 = .ok type) {chain : Chain} :
    chain ∈ type.leaves ↔ Leads catalog.declared decl chain := by
  rw [(hcatalog.resolve decl).1] at h
  exact mem_leaves_of_resolveType (fun _ _ => mem_leaves_of_expandName) decl h chain

end Catalog

end InfoFlow
