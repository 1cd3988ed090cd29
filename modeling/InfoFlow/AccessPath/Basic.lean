import InfoFlow.AccessPath.ChainSet
import InfoFlow.AccessPath.Root

namespace InfoFlow

/-- A place where data lives: a root, and the fields that are entered from there. -/
structure AccessPath where
  root : Root
  selectors : Chain := []
deriving DecidableEq, Ord, Repr

namespace AccessPath

/-- The names along a path, from the root to the innermost field. -/
def names (path : AccessPath) : List String :=
  path.root.names ++ path.selectors.fields

/-- The term that stands for a path in rules: its names, joined by dots. Nothing is escaped, so two
    different paths may share a term. -/
def term (path : AccessPath) : String :=
  ".".intercalate path.names

/-- Checks the names of the root, then those of the fields. -/
def check (path : AccessPath) : Except Fault Unit := do
  path.root.check
  path.selectors.check

/-- The same fields below another root. Only a path that starts at a specification can be given
    another root. -/
def instantiate (path : AccessPath) (root : Root) : Except Fault AccessPath :=
  if path.root.isInstantiated then .error (.alreadyInstantiated path.term)
  else .ok { path with root }

end AccessPath

/-- The paths below a root along the chains of a set, in the order of the set. -/
def ChainSet.instantiate (s : ChainSet) (root : Root) : List AccessPath :=
  s.chains.map (AccessPath.mk root)

end InfoFlow
