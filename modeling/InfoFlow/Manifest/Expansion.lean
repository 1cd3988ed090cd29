import InfoFlow.Manifest.Basic
import InfoFlow.Program.Collision

namespace InfoFlow

/-- Why a manifest has no program. -/
inductive ManifestFault where
  | part (fault : Fault)
  | unknownPredicate (name : String)
  | unknownSchema (name : String)
  | collision (c : Collision)
deriving DecidableEq, Repr

def ManifestFault.message : ManifestFault → String
  | .part fault => fault.message
  | .unknownPredicate name => "unknown predicate `" ++ name ++ "`"
  | .unknownSchema name => "unknown schema `" ++ name ++ "`"
  | .collision c => c.message

instance : MonadLift (Except Fault) (Except ManifestFault) where
  monadLift := Except.mapError .part

namespace Manifest

/-- The catalog of the declared schemas, all of them resolved. -/
def catalog (m : Manifest) : Except Fault Catalog := do
  let declared ← m.schemas.foldlM Catalog.declare {}
  let (result, resolved) := declared.resolveAll
  result
  return resolved

/-- The chains to the leaves of a declared schema. -/
def leaves (catalog : Catalog) (schema : String) : Except ManifestFault ChainSet := do
  if !catalog.declared.has schema then throw (.unknownSchema schema)
  let type ← (catalog.resolve (.named schema)).1
  return type.leaves

/-- The chains to the leaves of a schema of the manifest. -/
def selectorsOf (m : Manifest) (schema : String) : Except ManifestFault ChainSet := do
  leaves (← m.catalog) schema

/-- The ownership of all leaves below a handle. -/
def ownershipOf (catalog : Catalog) (handle : Handle) : Except ManifestFault (List Ownership) := do
  Identifier.check handle.owner
  handle.root.check
  let chains ← leaves catalog handle.schema
  return (chains.instantiate handle.root).map (Ownership.mk handle.owner)

/-- The edges of a flow, one for each leaf. -/
def edgesOf (catalog : Catalog) (flow : Flow) : Except ManifestFault (List Edge) := do
  flow.source.check
  flow.target.check
  let chains ← leaves catalog flow.schema
  return List.zipWith Edge.mk (chains.instantiate flow.source) (chains.instantiate flow.target)

/-- A check and its instances, in the order of their roots. -/
def checksOf (predicates : Entries Predicate) (decl : CheckDecl) :
    Except ManifestFault (List TagCheck) := do
  match predicates.get? decl.predicate with
  | none => throw (.unknownPredicate decl.predicate)
  | some predicate =>
    let check : TagCheck := ⟨decl.path, predicate⟩
    check.check
    let copies ← decl.instances.mapM fun root => do
      root.check
      check.instantiate root
    return check :: copies

/-- The program of a manifest, apart from its authorization logic. All names are checked on the way,
    and at last that no two paths share a term. -/
def program (m : Manifest) : Except ManifestFault Program := do
  let catalog ← m.catalog
  m.claims.forM (TagClaim.check ·)
  let ownership ← m.handles.mapM (ownershipOf catalog)
  let edges ← m.flows.mapM (edgesOf catalog)
  m.edges.forM (Edge.check ·)
  m.predicates.forM fun (_, predicate) => predicate.check
  let checks ← m.checks.mapM (checksOf m.predicates)
  let program : Program :=
    { includes := m.includes
      claims := m.claims
      ownership := ownership.flatten
      edges := edges.flatten ++ m.edges
      checks := checks.flatten }
  match program.collision? with
  | some c => throw (.collision c)
  | none => return program

end Manifest

end InfoFlow
