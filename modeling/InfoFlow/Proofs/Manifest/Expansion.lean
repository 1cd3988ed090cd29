import InfoFlow.Manifest.Expansion
import InfoFlow.Proofs.Schema.Declarations
import InfoFlow.Proofs.Schema.LeafChains

namespace InfoFlow

/-- A path can be given another root when it starts at a specification. -/
theorem AccessPath.instantiate_eq_ok_iff {path result : AccessPath} {root : Root} :
    path.instantiate root = .ok result ↔
      path.root.isInstantiated = false ∧ { path with root } = result := by
  unfold instantiate
  split <;> simp_all

theorem TagCheck.instantiate_eq_ok_iff {c result : TagCheck} {root : Root} :
    c.instantiate root = .ok result ↔
      c.path.root.isInstantiated = false ∧ { c with path := { c.path with root } } = result := by
  simp [instantiate, bind_eq_ok_iff, AccessPath.instantiate_eq_ok_iff, pure, Except.pure]

namespace Manifest

open Identifier (Valid)

variable {m : Manifest}

theorem lift_eq_ok_iff {α : Type} {x : Except Fault α} {a : α} :
    (liftM x : Except ManifestFault α) = .ok a ↔ x = .ok a := by
  cases x <;> simp [liftM, monadLift, MonadLift.monadLift, Except.mapError]

/-- The catalog in which the schemas of a manifest are declared, one after the other. -/
def declarations (m : Manifest) : Catalog :=
  Catalog.after (m.schemas.map .declare)

/-- A schema of the manifest has the name. -/
def Declares (m : Manifest) (name : String) : Prop :=
  ∃ decl ∈ m.schemas, decl.name = some name

/-- A chain that leads to a leaf of the schema with the name. -/
def Leaf (m : Manifest) (name : String) (chain : Chain) : Prop :=
  Catalog.Leads m.declarations.declared (.named name) chain

section

variable {catalog : Catalog} {schema : String} {chains : ChainSet} {chain : Chain}

/-- The catalog of a manifest: all schemas are declared, each under a valid name of its own, and
    then resolved. -/
theorem catalog_eq_ok_iff : m.catalog = .ok catalog ↔
    (∀ decl ∈ m.schemas, ∃ name, decl.name = some name ∧ Valid name) ∧
    (m.schemas.map SchemaDecl.name).Nodup ∧
    m.declarations.resolveAll.1 = .ok () ∧ m.declarations.resolveAll.2 = catalog := by
  have hresolve (declared : Catalog) : (do declared.resolveAll.1; return declared.resolveAll.2) =
      Except.ok catalog ↔ declared.resolveAll.1 = .ok () ∧ declared.resolveAll.2 = catalog := by
    simp [check_bind_eq_ok_iff, pure, Except.pure]
  refine bind_eq_ok_iff.trans ?_
  simp only [Catalog.foldlM_declare_eq_ok_iff, hresolve]
  constructor
  · rintro ⟨_, ⟨hnames, hnodup, rfl⟩, hresult⟩
    refine ⟨fun decl hdecl => ?_, hnodup, hresult⟩
    obtain ⟨name, hname, hvalid, _⟩ := hnames decl hdecl
    exact ⟨name, hname, hvalid⟩
  · rintro ⟨hnames, hnodup, hresult⟩
    refine ⟨_, ⟨fun decl hdecl => ?_, hnodup, rfl⟩, hresult⟩
    obtain ⟨name, hname, hvalid⟩ := hnames decl hdecl
    exact ⟨name, hname, hvalid, rfl⟩

/-- The catalog of a manifest is coherent, as it comes from calls on an empty one. -/
theorem coherent_catalog (h : m.catalog = .ok catalog) : catalog.Coherent := by
  obtain ⟨_, _, _, rfl⟩ := catalog_eq_ok_iff.mp h
  exact (Catalog.coherent_after _).resolveAll.2

theorem has_declared_catalog (h : m.catalog = .ok catalog) :
    catalog.declared.has schema = true ↔ m.Declares schema := by
  obtain ⟨declared, hdeclared, h⟩ := bind_eq_ok_iff.mp h
  obtain ⟨_, h⟩ := check_bind_eq_ok_iff.mp h
  cases h
  exact (Catalog.has_foldlM_declare hdeclared).trans (or_iff_right Bool.false_ne_true)

theorem leaves_eq_ok_iff : leaves catalog schema = .ok chains ↔
    catalog.declared.has schema = true ∧
    ∃ type, (catalog.resolve (.named schema)).1 = .ok type ∧ type.leaves = chains := by
  unfold leaves
  by_cases h : catalog.declared.has schema = true
  · simp [h, bind_eq_ok_iff, lift_eq_ok_iff, pure, Except.pure]
  · simp [h, bind_eq_ok_iff, throw, throwThe, MonadExceptOf.throw]

theorem ownershipOf_eq_ok_iff {handle : Handle} {list : List Ownership} :
    ownershipOf catalog handle = .ok list ↔ Valid handle.owner ∧ handle.root.Valid ∧
      ∃ chains, leaves catalog handle.schema = .ok chains ∧
        chains.chains.map (fun chain => ⟨handle.owner, ⟨handle.root, chain⟩⟩) = list := by
  rw [ownershipOf]
  simp [↓check_bind_eq_ok_iff, bind_eq_ok_iff, lift_eq_ok_iff, pure, Except.pure,
    Identifier.check_eq_ok_iff, Root.check_eq_ok_iff, ChainSet.instantiate, Function.comp_def]

theorem edgesOf_eq_ok_iff {flow : Flow} {list : List Edge} :
    edgesOf catalog flow = .ok list ↔ flow.source.Valid ∧ flow.target.Valid ∧
      ∃ chains, leaves catalog flow.schema = .ok chains ∧
        chains.chains.map (fun chain => ⟨⟨flow.source, chain⟩, ⟨flow.target, chain⟩⟩) = list := by
  rw [edgesOf]
  simp [↓check_bind_eq_ok_iff, bind_eq_ok_iff, lift_eq_ok_iff, pure, Except.pure,
    Root.check_eq_ok_iff, ChainSet.instantiate, List.zipWith_map, List.zipWith_self]

/-- In the catalog of a manifest each of its schemas has leaves. -/
theorem exists_leaves_iff (h : m.catalog = .ok catalog) :
    (∃ chains, leaves catalog schema = .ok chains) ↔ m.Declares schema := by
  rw [← has_declared_catalog h]
  constructor
  · rintro ⟨chains, hchains⟩
    exact (leaves_eq_ok_iff.mp hchains).1
  · intro hschema
    obtain ⟨_, _, hresolved, rfl⟩ := catalog_eq_ok_iff.mp h
    obtain ⟨type, htype⟩ := (Catalog.coherent_after _).exists_resolve_named hresolved hschema
    exact ⟨_, leaves_eq_ok_iff.mpr ⟨hschema, type, htype, rfl⟩⟩

/-- They are what its declaration leads to. -/
theorem mem_leaves_iff (h : m.catalog = .ok catalog)
    (hchains : leaves catalog schema = .ok chains) : chain ∈ chains ↔ m.Leaf schema chain := by
  obtain ⟨_, type, htype, rfl⟩ := leaves_eq_ok_iff.mp hchains
  rw [(coherent_catalog h).mem_leaves_iff htype]
  obtain ⟨_, _, _, rfl⟩ := catalog_eq_ok_iff.mp h
  rfl

theorem valid_of_leaf (h : m.catalog = .ok catalog) (hschema : m.Declares schema)
    (hleaf : m.Leaf schema chain) : ∀ field ∈ chain.fields, Valid field := by
  obtain ⟨chains, hchains⟩ := (exists_leaves_iff h).mpr hschema
  have hmem := (mem_leaves_iff h hchains).mpr hleaf
  obtain ⟨_, type, htype, rfl⟩ := leaves_eq_ok_iff.mp hchains
  exact (coherent_catalog h).valid_leaves htype hmem

theorem exists_ownership_iff (h : m.catalog = .ok catalog) :
    (∃ ownership, m.handles.mapM (ownershipOf catalog) = .ok ownership) ↔
      ∀ handle ∈ m.handles,
        Valid handle.owner ∧ handle.root.Valid ∧ m.Declares handle.schema := by
  simp [exists_mapM_eq_ok_iff, ownershipOf_eq_ok_iff, exists_leaves_iff h]

theorem exists_edges_iff (h : m.catalog = .ok catalog) :
    (∃ edges, m.flows.mapM (edgesOf catalog) = .ok edges) ↔
      ∀ flow ∈ m.flows, flow.source.Valid ∧ flow.target.Valid ∧ m.Declares flow.schema := by
  simp [exists_mapM_eq_ok_iff, edgesOf_eq_ok_iff, exists_leaves_iff h]

end

theorem checksOf_eq_ok_iff {predicates : Entries Predicate} {decl : CheckDecl}
    {list : List TagCheck} : checksOf predicates decl = .ok list ↔
      ∃ predicate, predicates.get? decl.predicate = some predicate ∧
        decl.path.Valid ∧ (∀ tag ∈ predicate.tags, Valid tag) ∧
        (∀ root ∈ decl.instances, root.Valid ∧ decl.path.root.isInstantiated = false) ∧
        ⟨decl.path, predicate⟩ ::
          decl.instances.map (fun root => ⟨{ decl.path with root }, predicate⟩) = list := by
  unfold checksOf
  cases predicates.get? decl.predicate with
  | none => simp [throw, throwThe, MonadExceptOf.throw]
  | some predicate =>
    have hcopy (root : Root) (copy : TagCheck) :
        (do root.check; (TagCheck.mk decl.path predicate).instantiate root :
          Except ManifestFault TagCheck) = .ok copy ↔
        (root.Valid ∧ decl.path.root.isInstantiated = false) ∧
          ⟨{ decl.path with root }, predicate⟩ = copy := by
      simp [check_bind_eq_ok_iff, lift_eq_ok_iff, Root.check_eq_ok_iff,
        TagCheck.instantiate_eq_ok_iff, and_assoc]
    simp [↓check_bind_eq_ok_iff, bind_eq_ok_iff, lift_eq_ok_iff, TagCheck.check_eq_ok_iff,
      Predicate.check_eq_ok_iff, mapM_eq_ok_iff_map hcopy, and_assoc,
      pure, Except.pure]

/-- With predicates whose tags are all valid, a check is expanded when its path is valid, its
    predicate is declared, and its path can be given each of the roots. -/
theorem exists_checksOf_iff {predicates : Entries Predicate}
    (hpredicates : ∀ entry ∈ predicates, ∀ tag ∈ entry.2.tags, Valid tag) {decl : CheckDecl} :
    (∃ list, checksOf predicates decl = .ok list) ↔
      decl.path.Valid ∧ decl.predicate ∈ predicates.names ∧
      (decl.instances ≠ [] →
        decl.path.root.isInstantiated = false ∧ ∀ root ∈ decl.instances, root.Valid) := by
  constructor
  · rintro ⟨list, h⟩
    obtain ⟨predicate, hget, hpath, _, hinstances, _⟩ := checksOf_eq_ok_iff.mp h
    refine ⟨hpath, Entries.mem_names_iff.mpr (by simp [Entries.has, hget]), fun hne => ?_⟩
    obtain ⟨root, hroot⟩ := List.exists_mem_of_ne_nil _ hne
    exact ⟨(hinstances root hroot).2, fun other hother => (hinstances other hother).1⟩
  · rintro ⟨hpath, hname, hinstances⟩
    obtain ⟨predicate, hget⟩ := Option.isSome_iff_exists.mp (Entries.mem_names_iff.mp hname)
    have htags := hpredicates _ (Entries.mem_of_get?_eq_some hget)
    refine ⟨_, checksOf_eq_ok_iff.mpr ⟨predicate, hget, hpath, htags, fun root hroot => ?_, rfl⟩⟩
    obtain ⟨hspecification, hroots⟩ := hinstances (List.ne_nil_of_mem hroot)
    exact ⟨hroots root hroot, hspecification⟩

/-- The parts of the manifest pass their checks, and are expanded to the program. Whether its paths
    collide is left open. -/
def Expands (m : Manifest) (program : Program) : Prop :=
  ∃ catalog, m.catalog = .ok catalog ∧ (∀ claim ∈ m.claims, claim.check = .ok ()) ∧
  ∃ ownership, m.handles.mapM (ownershipOf catalog) = .ok ownership ∧
  ∃ edges, m.flows.mapM (edgesOf catalog) = .ok edges ∧
    (∀ edge ∈ m.edges, edge.check = .ok ()) ∧
    (∀ entry ∈ m.predicates, entry.2.check = .ok ()) ∧
  ∃ checks, m.checks.mapM (checksOf m.predicates) = .ok checks ∧ {
    includes := m.includes
    claims := m.claims
    ownership := ownership.flatten
    edges := edges.flatten ++ m.edges
    checks := checks.flatten } = program

section

variable {program : Program}

/-- A manifest has the program that it expands to, if no two paths of it collide. -/
theorem program_eq_ok_iff :
    m.program = .ok program ↔ m.Expands program ∧ program.collision? = none := by
  rw [Manifest.program, Expands]
  simp only [↓check_bind_eq_ok_iff, bind_eq_ok_iff, lift_eq_ok_iff, List.forM_eq_forM,
    forM_eq_ok_iff]
  constructor
  · rintro ⟨catalog, hcatalog, hclaims, ownership, hownership, edges, hedges, hown, hpredicates,
      checks, hchecks, h⟩
    split at h
    · cases h
    · rename_i hcollision
      cases h
      exact ⟨⟨catalog, hcatalog, hclaims, ownership, hownership, edges, hedges, hown, hpredicates,
        checks, hchecks, rfl⟩, hcollision⟩
  · rintro ⟨⟨catalog, hcatalog, hclaims, ownership, hownership, edges, hedges, hown, hpredicates,
      checks, hchecks, rfl⟩, hcollision⟩
    refine ⟨catalog, hcatalog, hclaims, ownership, hownership, edges, hedges, hown, hpredicates,
      checks, hchecks, ?_⟩
    rw [hcollision]
    rfl

theorem Expands.includes (h : m.Expands program) : program.includes = m.includes := by
  obtain ⟨_, _, _, _, _, _, _, _, _, _, _, rfl⟩ := h
  rfl

theorem Expands.claims (h : m.Expands program) : program.claims = m.claims := by
  obtain ⟨_, _, _, _, _, _, _, _, _, _, _, rfl⟩ := h
  rfl

/-- A handle stands for the ownership of all leaves of its schema. -/
theorem Expands.mem_ownership_iff (h : m.Expands program) {o : Ownership} :
    o ∈ program.ownership ↔ ∃ handle ∈ m.handles, ∃ chain, m.Leaf handle.schema chain ∧
      ⟨handle.owner, ⟨handle.root, chain⟩⟩ = o := by
  obtain ⟨catalog, hcatalog, _, ownership, hownership, _, _, _, _, _, _, rfl⟩ := h
  refine (mem_flatten_of_mapM_eq_ok hownership).trans
    (exists_congr fun handle => and_congr_right fun hhandle => ?_)
  obtain ⟨list, hlist⟩ := exists_mapM_eq_ok_iff.mp ⟨ownership, hownership⟩ handle hhandle
  obtain ⟨_, _, chains, hchains, rfl⟩ := ownershipOf_eq_ok_iff.mp hlist
  simp [hlist, ← mem_leaves_iff hcatalog hchains, ChainSet.mem_iff]

/-- A flow stands for an edge between equal leaves, for each leaf of its schema. Single edges are
    added to these. -/
theorem Expands.mem_edges_iff (h : m.Expands program) {edge : Edge} :
    edge ∈ program.edges ↔ (∃ flow ∈ m.flows, ∃ chain, m.Leaf flow.schema chain ∧
      ⟨⟨flow.source, chain⟩, ⟨flow.target, chain⟩⟩ = edge) ∨ edge ∈ m.edges := by
  obtain ⟨catalog, hcatalog, _, _, _, edges, hedges, _, _, _, _, rfl⟩ := h
  refine List.mem_append.trans (or_congr_left ?_)
  refine (mem_flatten_of_mapM_eq_ok hedges).trans
    (exists_congr fun flow => and_congr_right fun hflow => ?_)
  obtain ⟨list, hlist⟩ := exists_mapM_eq_ok_iff.mp ⟨edges, hedges⟩ flow hflow
  obtain ⟨_, _, chains, hchains, rfl⟩ := edgesOf_eq_ok_iff.mp hlist
  simp [hlist, ← mem_leaves_iff hcatalog hchains, ChainSet.mem_iff]

theorem Expands.exists_predicate (h : m.Expands program) {decl : CheckDecl}
    (hdecl : decl ∈ m.checks) :
    ∃ predicate, m.predicates.get? decl.predicate = some predicate := by
  obtain ⟨_, _, _, _, _, _, _, _, _, checks, hchecks, _⟩ := h
  obtain ⟨list, hlist⟩ := exists_mapM_eq_ok_iff.mp ⟨checks, hchecks⟩ decl hdecl
  obtain ⟨predicate, hget, _⟩ := checksOf_eq_ok_iff.mp hlist
  exact ⟨predicate, hget⟩

/-- A check stands for itself and for its instances. -/
theorem Expands.mem_checks_iff (h : m.Expands program) {c : TagCheck} :
    c ∈ program.checks ↔ ∃ decl ∈ m.checks, ∃ predicate,
      m.predicates.get? decl.predicate = some predicate ∧
      (c = ⟨decl.path, predicate⟩ ∨
        ∃ root ∈ decl.instances, ⟨{ decl.path with root }, predicate⟩ = c) := by
  obtain ⟨_, _, _, _, _, _, _, _, _, checks, hchecks, rfl⟩ := h
  refine (mem_flatten_of_mapM_eq_ok hchecks).trans
    (exists_congr fun decl => and_congr_right fun hdecl => ?_)
  obtain ⟨list, hlist⟩ := exists_mapM_eq_ok_iff.mp ⟨checks, hchecks⟩ decl hdecl
  obtain ⟨predicate, hpredicate, _, _, _, rfl⟩ := checksOf_eq_ok_iff.mp hlist
  simp [hlist, hpredicate]

end

end Manifest

end InfoFlow
