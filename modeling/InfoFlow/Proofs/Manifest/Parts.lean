import InfoFlow.Proofs.AccessPath.ChainSet
import InfoFlow.Proofs.Manifest.Expansion

namespace InfoFlow.Manifest

variable {m : Manifest} {program : Program}

/-- The chains to the leaves of a schema as a list: in ascending order, and each one once. -/
structure ListsLeaves (m : Manifest) (schema : String) (chains : List Chain) : Prop where
  mem_iff : ∀ chain, chain ∈ chains ↔ m.Leaf schema chain
  ascending : chains.Pairwise fun a b => compare a b = .lt
  nodup : chains.Nodup

/-- What a handle stands for: its owner owns each leaf of its schema, in the order of the chains. -/
def OwnedBy (m : Manifest) (handle : Handle) (group : List Ownership) : Prop :=
  ∃ chains, m.ListsLeaves handle.schema chains ∧
    group = chains.map fun chain => ⟨handle.owner, ⟨handle.root, chain⟩⟩

/-- What a flow stands for: an edge from each leaf of its schema to the same leaf, in the order of
    the chains. -/
def LinkedBy (m : Manifest) (flow : Flow) (group : List Edge) : Prop :=
  ∃ chains, m.ListsLeaves flow.schema chains ∧
    group = chains.map fun chain => ⟨⟨flow.source, chain⟩, ⟨flow.target, chain⟩⟩

/-- What the declaration of a check stands for: the check, and behind it a copy for each root that
    it is repeated for. All have the selectors of the declaration, and the predicate that it names.
    -/
def CheckedBy (m : Manifest) (decl : CheckDecl) (group : List TagCheck) : Prop :=
  ∃ predicate, m.predicates.get? decl.predicate = some predicate ∧
    group = ⟨decl.path, predicate⟩ ::
      decl.instances.map fun root => ⟨⟨root, decl.path.selectors⟩, predicate⟩

/-- A program that has the parts of a manifest and no others, in the order of the manifest. -/
structure HasParts (m : Manifest) (program : Program) : Prop where
  includes : program.includes = m.includes
  claims : program.claims = m.claims
  ownership : ∃ groups, List.Forall₂ m.OwnedBy m.handles groups ∧
    program.ownership = groups.flatten
  edges : ∃ groups, List.Forall₂ m.LinkedBy m.flows groups ∧
    program.edges = groups.flatten ++ m.edges
  checks : ∃ groups, List.Forall₂ m.CheckedBy m.checks groups ∧ program.checks = groups.flatten

section

variable {catalog : Catalog} (hcatalog : m.catalog = .ok catalog)

include hcatalog

theorem listsLeaves_of_leaves_eq_ok {schema : String} {chains : ChainSet}
    (hchains : leaves catalog schema = .ok chains) : m.ListsLeaves schema chains.chains where
  mem_iff _ := mem_leaves_iff hcatalog hchains
  ascending := chains.ascending
  nodup := chains.nodup_chains

theorem ownedBy_of_ownershipOf_eq_ok {handle : Handle} {group : List Ownership}
    (h : ownershipOf catalog handle = .ok group) : m.OwnedBy handle group := by
  obtain ⟨_, _, chains, hchains, rfl⟩ := ownershipOf_eq_ok_iff.mp h
  exact ⟨_, listsLeaves_of_leaves_eq_ok hcatalog hchains, rfl⟩

theorem linkedBy_of_edgesOf_eq_ok {flow : Flow} {group : List Edge}
    (h : edgesOf catalog flow = .ok group) : m.LinkedBy flow group := by
  obtain ⟨_, _, chains, hchains, rfl⟩ := edgesOf_eq_ok_iff.mp h
  exact ⟨_, listsLeaves_of_leaves_eq_ok hcatalog hchains, rfl⟩

end

theorem checkedBy_of_checksOf_eq_ok {decl : CheckDecl} {group : List TagCheck}
    (h : checksOf m.predicates decl = .ok group) : m.CheckedBy decl group := by
  obtain ⟨predicate, hget, _, _, _, rfl⟩ := checksOf_eq_ok_iff.mp h
  exact ⟨predicate, hget, rfl⟩

theorem Expands.hasParts (h : m.Expands program) : m.HasParts program := by
  obtain ⟨catalog, hcatalog, _, ownership, hownership, edges, hedges, _, _, checks, hchecks, rfl⟩ :=
    h
  exact {
    includes := rfl
    claims := rfl
    ownership := ⟨ownership, (forall₂_of_mapM_eq_ok hownership).imp fun _ _ =>
      ownedBy_of_ownershipOf_eq_ok hcatalog, rfl⟩
    edges := ⟨edges, (forall₂_of_mapM_eq_ok hedges).imp fun _ _ =>
      linkedBy_of_edgesOf_eq_ok hcatalog, rfl⟩
    checks := ⟨checks, (forall₂_of_mapM_eq_ok hchecks).imp fun _ _ =>
      checkedBy_of_checksOf_eq_ok, rfl⟩ }

/-- A schema has one list of leaves. -/
theorem ListsLeaves.unique {schema : String} {chains others : List Chain}
    (h : m.ListsLeaves schema chains) (hothers : m.ListsLeaves schema others) :
    chains = others := by
  have hsame : ChainSet.mk chains h.ascending = ⟨others, hothers.ascending⟩ :=
    ChainSet.eq_of_mem_iff fun chain => (h.mem_iff chain).trans (hothers.mem_iff chain).symm
  exact congrArg ChainSet.chains hsame

theorem rightUnique_ownedBy : Relator.RightUnique m.OwnedBy := by
  rintro handle _ _ ⟨chains, hchains, rfl⟩ ⟨others, hothers, rfl⟩
  rw [hchains.unique hothers]

theorem rightUnique_linkedBy : Relator.RightUnique m.LinkedBy := by
  rintro flow _ _ ⟨chains, hchains, rfl⟩ ⟨others, hothers, rfl⟩
  rw [hchains.unique hothers]

theorem rightUnique_checkedBy : Relator.RightUnique m.CheckedBy := by
  rintro decl _ _ ⟨predicate, hget, rfl⟩ ⟨other, hother, rfl⟩
  rw [Option.some.inj (hget.symm.trans hother)]

/-- The parts of a manifest leave nothing of a program open. -/
theorem HasParts.unique {other : Program} (h : m.HasParts program) (hother : m.HasParts other) :
    program = other := by
  obtain ⟨hincludes, hclaims, ⟨ownership, howned, hownership⟩, ⟨edges, hlinked, hedges⟩,
    checks, hchecked, hchecks⟩ := h
  obtain ⟨hincludes', hclaims', ⟨ownership', howned', hownership'⟩, ⟨edges', hlinked', hedges'⟩,
    checks', hchecked', hchecks'⟩ := hother
  cases rightUnique_ownedBy.forall₂ howned howned'
  cases rightUnique_linkedBy.forall₂ hlinked hlinked'
  cases rightUnique_checkedBy.forall₂ hchecked hchecked'
  cases program
  cases other
  simp_all

/-- A manifest loses nothing in its program and gains nothing. Included files and claims are taken
    over as they are; each handle, flow and check, in order, becomes what it stands for; and the
    single edges follow those of the flows. There is just one such program. -/
theorem parts_exact (h : m.program = .ok program) :
    m.HasParts program ∧ ∀ other, m.HasParts other → other = program := by
  have hparts := (program_eq_ok_iff.mp h).1.hasParts
  exact ⟨hparts, fun other hother => hother.unique hparts⟩

/-- A handle of and a flow for a schema with a record in it, a single edge, and a check that is
    repeated for two roots. -/
def crossing : Manifest where
  schemas := [⟨some "Pass", [("seat", .primitive), ("car", .inline none [("plate", .primitive)])]⟩]
  predicates := [("boarding", .tag "paid"), ("leaving", .not (.tag "paid"))]
  handles := [⟨"ann", .connection "out" "desk" "pass", "Pass"⟩]
  flows := [⟨.connection "out" "desk" "pass", .connection "out" "gate" "pass", "Pass"⟩]
  edges := [⟨⟨.connection "out" "gate" "pass", [⟨"seat"⟩]⟩, ⟨.connection "out" "log" "seats", []⟩⟩]
  checks := [⟨⟨.specification "Gate" "pass", [⟨"seat"⟩]⟩, "boarding",
    [.connection "out" "gate" "pass", .connection "back" "gate" "pass"]⟩]
  includes := ["rules.dl"]

/-- The parts of its program. The leaves are in the order of their chains, not of the fields. -/
def crossingProgram : Program :=
  let chains : List Chain := [[⟨"car"⟩, ⟨"plate"⟩], [⟨"seat"⟩]]
  { includes := ["rules.dl"]
    ownership := chains.map fun chain => ⟨"ann", ⟨.connection "out" "desk" "pass", chain⟩⟩
    edges := (chains.map fun chain =>
      ⟨⟨.connection "out" "desk" "pass", chain⟩, ⟨.connection "out" "gate" "pass", chain⟩⟩) ++
      crossing.edges
    checks := [.specification "Gate" "pass", .connection "out" "gate" "pass",
      .connection "back" "gate" "pass"].map fun root => ⟨⟨root, [⟨"seat"⟩]⟩, .tag "paid"⟩ }

theorem parts_exact_crossing : crossing.program = .ok crossingProgram ∧
    crossing.HasParts crossingProgram := by
  have hprogram : crossing.program = .ok crossingProgram := by decide +kernel
  exact ⟨hprogram, (parts_exact hprogram).1⟩

end InfoFlow.Manifest
