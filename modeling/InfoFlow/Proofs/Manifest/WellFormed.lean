import InfoFlow.Proofs.Manifest.Expansion
import InfoFlow.Proofs.Program.PathTerms

namespace InfoFlow

open Identifier (Valid)

namespace Manifest

/-- A part of the manifest stands for the path: it has the path itself, or it has a root below which
    the path leads to a leaf. -/
inductive Mentions (m : Manifest) : AccessPath → Prop where
  | claim {claim : TagClaim} (h : claim ∈ m.claims) : Mentions m claim.path
  | handle {handle : Handle} {chain : Chain} (h : handle ∈ m.handles)
    (hleaf : m.Leaf handle.schema chain) : Mentions m ⟨handle.root, chain⟩
  | flowSource {flow : Flow} {chain : Chain} (h : flow ∈ m.flows)
    (hleaf : m.Leaf flow.schema chain) : Mentions m ⟨flow.source, chain⟩
  | flowTarget {flow : Flow} {chain : Chain} (h : flow ∈ m.flows)
    (hleaf : m.Leaf flow.schema chain) : Mentions m ⟨flow.target, chain⟩
  | edgeSource {edge : Edge} (h : edge ∈ m.edges) : Mentions m edge.source
  | edgeTarget {edge : Edge} (h : edge ∈ m.edges) : Mentions m edge.target
  | check {decl : CheckDecl} (h : decl ∈ m.checks) : Mentions m decl.path
  | copy {decl : CheckDecl} {root : Root} (h : decl ∈ m.checks) (hroot : root ∈ decl.instances) :
    Mentions m { decl.path with root }

/-- A manifest whose names are valid, whose references are to what it declares, and whose paths are
    told apart by their terms. -/
structure WellFormed (m : Manifest) : Prop where
  named : ∀ decl ∈ m.schemas, ∃ name, decl.name = some name ∧ Valid name
  distinct : (m.schemas.map SchemaDecl.name).Nodup
  resolved : m.declarations.resolveAll.1 = .ok ()
  claims : ∀ claim ∈ m.claims, Valid claim.particle ∧ claim.path.Valid ∧ Valid claim.tag
  handles : ∀ handle ∈ m.handles,
    Valid handle.owner ∧ handle.root.Valid ∧ m.Declares handle.schema
  flows : ∀ flow ∈ m.flows, flow.source.Valid ∧ flow.target.Valid ∧ m.Declares flow.schema
  edges : ∀ edge ∈ m.edges, edge.source.Valid ∧ edge.target.Valid
  /-- All predicates count, also those that no check uses. -/
  predicates : ∀ entry ∈ m.predicates, ∀ tag ∈ entry.2.tags, Valid tag
  checks : ∀ decl ∈ m.checks, decl.path.Valid ∧ decl.predicate ∈ m.predicates.names ∧
    (decl.instances ≠ [] →
      decl.path.root.isInstantiated = false ∧ ∀ root ∈ decl.instances, root.Valid)
  unambiguous : ∀ p q, m.Mentions p → m.Mentions q → p.term = q.term → p = q

variable {m : Manifest} {program : Program}

/-- A manifest expands to a program that is about the paths that it stands for. -/
theorem Expands.mentions_iff (h : m.Expands program) {path : AccessPath} :
    program.Mentions path ↔ m.Mentions path := by
  constructor
  · rintro (hmem | hmem | hmem | hmem | hmem)
    · exact .claim (h.claims ▸ hmem)
    · obtain ⟨handle, hhandle, chain, hleaf, rfl⟩ := h.mem_ownership_iff.mp hmem
      exact .handle hhandle hleaf
    · obtain ⟨flow, hflow, chain, hleaf, rfl⟩ | hmem := h.mem_edges_iff.mp hmem
      · exact .flowSource hflow hleaf
      · exact .edgeSource hmem
    · obtain ⟨flow, hflow, chain, hleaf, rfl⟩ | hmem := h.mem_edges_iff.mp hmem
      · exact .flowTarget hflow hleaf
      · exact .edgeTarget hmem
    · obtain ⟨decl, hdecl, predicate, _, rfl | ⟨root, hroot, rfl⟩⟩ := h.mem_checks_iff.mp hmem
      · exact .check hdecl
      · exact .copy hdecl hroot
  · intro hpath
    cases hpath with
    | claim hmem => exact .claim (h.claims ▸ hmem)
    | handle hmem hleaf => exact .ownership (h.mem_ownership_iff.mpr ⟨_, hmem, _, hleaf, rfl⟩)
    | flowSource hmem hleaf =>
      exact .source (h.mem_edges_iff.mpr (.inl ⟨_, hmem, _, hleaf, rfl⟩))
    | flowTarget hmem hleaf =>
      exact .target (h.mem_edges_iff.mpr (.inl ⟨_, hmem, _, hleaf, rfl⟩))
    | edgeSource hmem => exact .source (h.mem_edges_iff.mpr (.inr hmem))
    | edgeTarget hmem => exact .target (h.mem_edges_iff.mpr (.inr hmem))
    | check hmem =>
      obtain ⟨predicate, hget⟩ := h.exists_predicate hmem
      exact .check (h.mem_checks_iff.mpr ⟨_, hmem, predicate, hget, .inl rfl⟩)
    | copy hmem hroot =>
      obtain ⟨predicate, hget⟩ := h.exists_predicate hmem
      exact .check (h.mem_checks_iff.mpr ⟨_, hmem, predicate, hget, .inr ⟨_, hroot, rfl⟩⟩)

/-- Whatever is wrong with a manifest keeps it from being expanded, or shows as a collision. -/
theorem WellFormed.of_expands (h : m.Expands program) (hcollision : program.collision? = none) :
    m.WellFormed := by
  have hunambiguous := Program.collision?_eq_none_iff_forall_mentions.mp hcollision
  simp only [h.mentions_iff] at hunambiguous
  obtain ⟨catalog, hcatalog, hclaims, ownership, hownership, edges, hedges, hown, hpredicates,
    checks, hchecks, _⟩ := h
  obtain ⟨hnamed, hdistinct, hresolved, _⟩ := catalog_eq_ok_iff.mp hcatalog
  have htags : ∀ entry ∈ m.predicates, ∀ tag ∈ entry.2.tags, Valid tag := fun entry hentry =>
    Predicate.check_eq_ok_iff.mp (hpredicates entry hentry)
  exact {
    named := hnamed
    distinct := hdistinct
    resolved := hresolved
    claims := fun claim hclaim => TagClaim.check_eq_ok_iff.mp (hclaims claim hclaim)
    handles := (exists_ownership_iff hcatalog).mp ⟨ownership, hownership⟩
    flows := (exists_edges_iff hcatalog).mp ⟨edges, hedges⟩
    edges := fun edge hedge => Edge.check_eq_ok_iff.mp (hown edge hedge)
    predicates := htags
    checks := fun decl hdecl => (exists_checksOf_iff htags).mp
      (exists_mapM_eq_ok_iff.mp ⟨checks, hchecks⟩ decl hdecl)
    unambiguous := hunambiguous }

theorem WellFormed.exists_expands (h : m.WellFormed) : ∃ program, m.Expands program := by
  have hcatalog := catalog_eq_ok_iff.mpr ⟨h.named, h.distinct, h.resolved, rfl⟩
  have hclaims : ∀ claim ∈ m.claims, claim.check = .ok () := fun claim hclaim =>
    TagClaim.check_eq_ok_iff.mpr (h.claims claim hclaim)
  have hown : ∀ edge ∈ m.edges, edge.check = .ok () := fun edge hedge =>
    Edge.check_eq_ok_iff.mpr (h.edges edge hedge)
  have hpredicates : ∀ entry ∈ m.predicates, entry.2.check = .ok () := fun entry hentry =>
    Predicate.check_eq_ok_iff.mpr (h.predicates entry hentry)
  obtain ⟨ownership, hownership⟩ := (exists_ownership_iff hcatalog).mpr h.handles
  obtain ⟨edges, hedges⟩ := (exists_edges_iff hcatalog).mpr h.flows
  obtain ⟨checks, hchecks⟩ := exists_mapM_eq_ok_iff.mpr fun decl hdecl =>
    (exists_checksOf_iff h.predicates).mpr (h.checks decl hdecl)
  exact ⟨_, _, hcatalog, hclaims, ownership, hownership, edges, hedges, hown, hpredicates, checks,
    hchecks, rfl⟩

/-- A manifest has a program exactly when it is well-formed, and its program is about the paths that
    the manifest stands for. -/
theorem exists_program_iff (m : Manifest) :
    ((∃ program, m.program = .ok program) ↔ m.WellFormed) ∧
    ∀ program, m.program = .ok program → ∀ path, program.Mentions path ↔ m.Mentions path := by
  refine ⟨⟨?_, fun h => ?_⟩, fun program h path => (program_eq_ok_iff.mp h).1.mentions_iff⟩
  · rintro ⟨program, h⟩
    obtain ⟨hexpands, hcollision⟩ := program_eq_ok_iff.mp h
    exact .of_expands hexpands hcollision
  · obtain ⟨program, hexpands⟩ := h.exists_expands
    refine ⟨program, program_eq_ok_iff.mpr ⟨hexpands, ?_⟩⟩
    rw [Program.collision?_eq_none_iff_forall_mentions]
    simpa only [hexpands.mentions_iff] using h.unambiguous

end Manifest

end InfoFlow
