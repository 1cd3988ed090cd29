import InfoFlow.Fact.Basic
import InfoFlow.Predicate.Basic
import InfoFlow.Schema.Catalog

namespace InfoFlow

/-- Everything below a root belongs to an owner. -/
structure Handle where
  owner : String
  root : Root
  schema : String
deriving DecidableEq, Repr

/-- Data flows between two roots, each leaf to the same leaf. -/
structure Flow where
  source : Root
  target : Root
  schema : String
deriving DecidableEq, Repr

/-- A check by the name of its predicate, and the roots for which it is repeated. -/
structure CheckDecl where
  path : AccessPath
  predicate : String
  instances : List Root := []
deriving DecidableEq, Repr

/-- A module of authorization logic, and the directories of its source and of its facts. -/
structure ModuleDecl where
  name : String
  inputDir : String
  outputDir : String
deriving DecidableEq, Repr

/-- A model as it is written down: the schemas, the handles and flows that stand for all leaves of
    one, and the checks that name a predicate. All parts may be left out. -/
structure Manifest where
  schemas : List SchemaDecl := []
  predicates : Entries Predicate := []
  handles : List Handle := []
  flows : List Flow := []
  edges : List Edge := []
  claims : List TagClaim := []
  checks : List CheckDecl := []
  includes : List String := []
  authorizationLogic : Option ModuleDecl := none

end InfoFlow
