import InfoFlow.Proofs.AccessPath.ChainSet
import InfoFlow.Proofs.Manifest.Expansion
import InfoFlow.Proofs.Schema.Reordering

namespace InfoFlow

namespace Manifest

/-- The schemas of the manifest are permuted, and so may be their fields, at any level. Nothing else
    is different. -/
def Reordered (m m' : Manifest) : Prop :=
  SchemaDecl.ListReordered m.schemas m'.schemas ∧ m' = { m with schemas := m'.schemas }

variable {m m' : Manifest}

theorem Reordered.symm (h : m.Reordered m') : m'.Reordered m := by
  obtain ⟨hschemas, hm'⟩ := h
  exact ⟨hschemas.symm, by rw [hm']⟩

section

variable {catalog catalog' : Catalog} {schema : String} {chains : ChainSet} {chain : Chain}

theorem foldlM_declare_schemas (hnamed : ∀ decl ∈ m.schemas, ∃ name, decl.name = some name ∧
      Identifier.Valid name) (hdistinct : (m.schemas.map SchemaDecl.name).Nodup) :
    m.schemas.foldlM Catalog.declare {} = .ok m.declarations := by
  refine Catalog.foldlM_declare_eq_ok_iff.mpr ⟨fun decl hdecl => ?_, hdistinct, rfl⟩
  obtain ⟨name, hname, hvalid⟩ := hnamed decl hdecl
  exact ⟨name, hname, hvalid, rfl⟩

/-- Reordered schemas are taken in and resolved when the schemas themselves are. -/
theorem Reordered.exists_catalog (h : m.Reordered m') (hcatalog : m.catalog = .ok catalog) :
    ∃ catalog', m'.catalog = .ok catalog' := by
  obtain ⟨hnamed, hdistinct, hresolved, _⟩ := catalog_eq_ok_iff.mp hcatalog
  have hnamed' : ∀ decl' ∈ m'.schemas, ∃ name, decl'.name = some name ∧
      Identifier.Valid name := by
    intro decl' hdecl'
    obtain ⟨decl, hdecl, hreordered⟩ := h.1.symm.exists_mem hdecl'
    exact hreordered.name_eq ▸ hnamed decl hdecl
  have hdistinct' := h.1.map_name_perm.nodup hdistinct
  have hdeclare := foldlM_declare_schemas hnamed hdistinct
  have hdeclare' := foldlM_declare_schemas hnamed' hdistinct'
  have hwellFormed := (Catalog.coherent_after _).resolveAll_ok_iff.mp hresolved
  have hresolved' := (Catalog.coherent_after _).resolveAll_ok_iff.mpr <| hwellFormed.reordered
    (Catalog.included_foldlM_declare h.1 hdeclare hdeclare')
    (Catalog.included_foldlM_declare h.1.symm hdeclare' hdeclare)
  exact ⟨_, catalog_eq_ok_iff.mpr ⟨hnamed', hdistinct', hresolved', rfl⟩⟩

theorem Reordered.leaf (h : m.Reordered m') (hcatalog : m.catalog = .ok catalog)
    (hcatalog' : m'.catalog = .ok catalog') (hleaf : m.Leaf schema chain) :
    m'.Leaf schema chain := by
  obtain ⟨hnamed, hdistinct, _⟩ := catalog_eq_ok_iff.mp hcatalog
  obtain ⟨hnamed', hdistinct', _⟩ := catalog_eq_ok_iff.mp hcatalog'
  exact hleaf.reordered (Catalog.included_foldlM_declare h.1
    (foldlM_declare_schemas hnamed hdistinct) (foldlM_declare_schemas hnamed' hdistinct')) .named

/-- A schema keeps its leaves, and as they are kept in an order of their own, even the same list of
    them. -/
theorem Reordered.leaves_eq_ok (h : m.Reordered m') (hcatalog : m.catalog = .ok catalog)
    (hcatalog' : m'.catalog = .ok catalog') (hchains : leaves catalog schema = .ok chains) :
    leaves catalog' schema = .ok chains := by
  obtain ⟨decl, hdecl, hname⟩ := (exists_leaves_iff hcatalog).mp ⟨chains, hchains⟩
  obtain ⟨decl', hdecl', hreordered⟩ := h.1.exists_mem hdecl
  obtain ⟨chains', hchains'⟩ := (exists_leaves_iff hcatalog').mpr
    ⟨decl', hdecl', hreordered.name_eq ▸ hname⟩
  have hsame : chains' = chains := by
    refine ChainSet.eq_of_mem_iff fun chain => ?_
    rw [mem_leaves_iff hcatalog' hchains', mem_leaves_iff hcatalog hchains]
    exact ⟨h.symm.leaf hcatalog' hcatalog, h.leaf hcatalog hcatalog'⟩
  exact hsame ▸ hchains'

end

/-- A manifest that has a program still has it when its schemas are permuted, and the fields of any
    of them at any level: it is the same program, so its parts are in the same order and its text
    is the same. -/
theorem program_eq_ok_of_reordered {program : Program} (hprogram : m.program = .ok program)
    (h : m.Reordered m') : m'.program = .ok program := by
  obtain ⟨⟨catalog, hcatalog, hclaims, ownership, hownership, edges, hedges, hown, hpredicates,
    checks, hchecks, hparts⟩, hcollision⟩ := program_eq_ok_iff.mp hprogram
  obtain ⟨catalog', hcatalog'⟩ := h.exists_catalog hcatalog
  have hleaves : ∀ schema chains, leaves catalog schema = .ok chains →
      leaves catalog' schema = .ok chains := fun _ _ => h.leaves_eq_ok hcatalog hcatalog'
  have hownership' : m.handles.mapM (ownershipOf catalog') = .ok ownership := by
    refine mapM_eq_ok_of_imp (fun handle list hlist => ?_) hownership
    obtain ⟨howner, hroot, chains, hchains, hlist⟩ := ownershipOf_eq_ok_iff.mp hlist
    exact ownershipOf_eq_ok_iff.mpr ⟨howner, hroot, chains, hleaves _ _ hchains, hlist⟩
  have hedges' : m.flows.mapM (edgesOf catalog') = .ok edges := by
    refine mapM_eq_ok_of_imp (fun flow list hlist => ?_) hedges
    obtain ⟨hsource, htarget, chains, hchains, hlist⟩ := edgesOf_eq_ok_iff.mp hlist
    exact edgesOf_eq_ok_iff.mpr ⟨hsource, htarget, chains, hleaves _ _ hchains, hlist⟩
  refine program_eq_ok_iff.mpr ⟨⟨catalog', hcatalog', ?_⟩, hcollision⟩
  rw [h.2]
  exact ⟨hclaims, ownership, hownership', edges, hedges', hown, hpredicates, checks, hchecks,
    hparts⟩

/-- Ownership of and a flow for a schema with an inline record and a reference, when its schemas are
    given. -/
def delivery (schemas : List SchemaDecl) : Manifest where
  schemas := schemas
  handles := [⟨"alice", .specification "Shop" "order", "Order"⟩]
  flows := [⟨.specification "Shop" "order", .specification "Courier" "order", "Order"⟩]

/-- The schemas in one order, the reference ahead of what it is to. -/
def orderFirst : List SchemaDecl :=
  [⟨some "Order", [("to", .named "Place"), ("by", .inline none [("name", .primitive),
    ("card", .primitive)])]⟩, ⟨some "Place", [("street", .primitive), ("city", .primitive)]⟩]

/-- The schemas in the other order, and with the fields permuted at every level. -/
def placeFirst : List SchemaDecl :=
  [⟨some "Place", [("city", .primitive), ("street", .primitive)]⟩, ⟨some "Order", [("by",
    .inline none [("card", .primitive), ("name", .primitive)]), ("to", .named "Place")]⟩]

theorem delivery_reordered : (delivery orderFirst).Reordered (delivery placeFirst) := by
  refine ⟨⟨_, .swap .., .cons ?_ (.cons ?_ .nil)⟩, rfl⟩
  · exact .inline (.of_perm (.swap ..))
  · exact .inline (.trans .swap (.cons (.inline .swap) (TypeDecl.FieldsReordered.refl _)))

/-- The chains to the leaves of an order, in their own order. -/
def orderChains : List Chain :=
  [[⟨"by"⟩, ⟨"card"⟩], [⟨"by"⟩, ⟨"name"⟩], [⟨"to"⟩, ⟨"city"⟩], [⟨"to"⟩, ⟨"street"⟩]]

/-- The program of the manifest. -/
def deliveryProgram : Program where
  ownership := orderChains.map fun chain => ⟨"alice", ⟨.specification "Shop" "order", chain⟩⟩
  edges := orderChains.map fun chain =>
    ⟨⟨.specification "Shop" "order", chain⟩, ⟨.specification "Courier" "order", chain⟩⟩

theorem program_delivery_eq_ok : (delivery orderFirst).program = .ok deliveryProgram ∧
    (delivery orderFirst).Reordered (delivery placeFirst) ∧
    (delivery placeFirst).program = .ok deliveryProgram := by
  have hprogram : (delivery orderFirst).program = .ok deliveryProgram := by decide +kernel
  exact ⟨hprogram, delivery_reordered, program_eq_ok_of_reordered hprogram delivery_reordered⟩

end Manifest

end InfoFlow
