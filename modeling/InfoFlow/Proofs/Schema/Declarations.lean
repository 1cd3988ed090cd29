import InfoFlow.Proofs.Schema.Calls

namespace InfoFlow.Catalog

variable {catalog start result : Catalog} {decl : SchemaDecl} {decls : List SchemaDecl}

theorem Call.apply_declare {extended : Catalog} (h : catalog.declare decl = .ok extended) :
    (Call.declare decl).apply catalog = extended := by
  rw [Call.apply, h]

theorem foldlM_declare_cons_eq_ok_iff :
    (decl :: decls).foldlM declare start = .ok result ↔
      ∃ next, start.declare decl = .ok next ∧ decls.foldlM declare next = .ok result := by
  rw [List.foldlM_cons, bind_eq_ok_iff]

/-- Declarations are all taken in when they have valid names that are different from each other and
    from those that are declared before. -/
theorem foldlM_declare_eq_ok_iff : decls.foldlM declare start = .ok result ↔
    (∀ decl ∈ decls, ∃ name, decl.name = some name ∧ Identifier.Valid name ∧
      start.declared.has name = false) ∧
    (decls.map SchemaDecl.name).Nodup ∧
    (decls.map Call.declare).foldl Call.apply start = result := by
  induction decls generalizing start with
  | nil => simp [pure, Except.pure]
  | cons decl rest ih =>
    rw [foldlM_declare_cons_eq_ok_iff]
    constructor
    · rintro ⟨next, hdecl, hrest⟩
      obtain ⟨hnames, hnodup, hresult⟩ := ih.mp hrest
      have hnext := Call.apply_declare hdecl
      obtain ⟨name, hname, hvalid, hnew, rfl⟩ := declare_eq_ok_iff.mp hdecl
      have hother : ∀ other ∈ rest, ∃ key, other.name = some key ∧ Identifier.Valid key ∧
          name ≠ key ∧ start.declared.has key = false := by
        intro other hmem
        obtain ⟨key, hkey, hvalid, hfresh⟩ := hnames other hmem
        rw [Entries.has_put, Bool.or_eq_false_iff, decide_eq_false_iff_not] at hfresh
        exact ⟨key, hkey, hvalid, hfresh⟩
      refine ⟨List.forall_mem_cons.mpr ⟨⟨name, hname, hvalid, hnew⟩, fun other hmem => ?_⟩,
        List.nodup_cons.mpr ⟨fun hmem => ?_, hnodup⟩, ?_⟩
      · obtain ⟨key, hkey, hvalid, _, hfresh⟩ := hother other hmem
        exact ⟨key, hkey, hvalid, hfresh⟩
      · obtain ⟨other, hmem, heq⟩ := List.mem_map.mp hmem
        obtain ⟨key, hkey, _, hne, _⟩ := hother other hmem
        exact hne (Option.some.inj (hname.symm.trans (heq.symm.trans hkey)))
      · simpa [hnext] using hresult
    · rintro ⟨hnames, hnodup, hresult⟩
      obtain ⟨⟨name, hname, hvalid, hnew⟩, hrest⟩ := List.forall_mem_cons.mp hnames
      obtain ⟨hnotin, hnodup⟩ := List.nodup_cons.mp hnodup
      have hdecl := declare_eq_ok_iff.mpr ⟨name, hname, hvalid, hnew, rfl⟩
      refine ⟨_, hdecl, ih.mpr ⟨fun other hmem => ?_, hnodup, ?_⟩⟩
      · obtain ⟨key, hkey, hvalid, hfresh⟩ := hrest other hmem
        have hne : name ≠ key := by
          rintro rfl
          exact hnotin (List.mem_map.mpr ⟨other, hmem, hkey.trans hname.symm⟩)
        exact ⟨key, hkey, hvalid, by simp [Entries.has_put, hne, hfresh]⟩
      · simpa [Call.apply_declare hdecl] using hresult

/-- The names of the result are those from before and those of the declarations. -/
theorem has_foldlM_declare (h : decls.foldlM declare start = .ok result) {name : String} :
    result.declared.has name = true ↔
      start.declared.has name = true ∨ ∃ decl ∈ decls, decl.name = some name := by
  induction decls generalizing start with
  | nil =>
    cases h
    simp
  | cons decl rest ih =>
    obtain ⟨next, hdecl, hrest⟩ := foldlM_declare_cons_eq_ok_iff.mp h
    obtain ⟨key, hkey, _, _, rfl⟩ := declare_eq_ok_iff.mp hdecl
    simp [ih hrest, Entries.has_put, hkey, or_assoc, or_left_comm]

/-- When all schemas resolve, a reference to one of them does, whatever is kept by then. -/
theorem Coherent.exists_resolve_named (hcatalog : catalog.Coherent)
    (h : catalog.resolveAll.1 = .ok ()) {name : String} (hname : catalog.declared.has name = true) :
    ∃ type, (catalog.resolveAll.2.resolve (.named name)).1 = .ok type := by
  obtain ⟨hresult, hresolved⟩ := hcatalog.resolveAll
  rw [hresult] at h
  obtain ⟨schema, hschema, _⟩ :=
    bind_eq_ok_iff.mp (forM_eq_ok_iff.mp h name (Entries.mem_names_iff.mpr hname))
  refine ⟨schema.type, ?_⟩
  rw [(hresolved.resolve _).1, resolveType]
  exact bind_eq_ok_iff.mpr ⟨schema, hschema, rfl⟩

end InfoFlow.Catalog
