import InfoFlow.Fault

namespace InfoFlow

/-- Where an access path starts: at a handle of a particle that a recipe runs, or at a handle of the
    specification of a particle, which stands for all of them. -/
inductive Root where
  /-- A handle connection of a particle in a recipe. -/
  | connection (recipe particle handle : String)
  /-- A handle of a particle's specification. -/
  | specification (particle handle : String)
deriving DecidableEq, Ord, Repr

namespace Root

/-- The names that identify a root, in the order in which they are shown. -/
def names : Root → List String
  | .connection recipe particle handle => [recipe, particle, handle]
  | .specification particle handle => [particle, handle]

/-- The names, joined by dots. -/
def text (root : Root) : String :=
  ".".intercalate root.names

/-- Whether the root is a handle connection of a running particle. -/
def isInstantiated : Root → Bool
  | .connection .. => true
  | .specification .. => false

/-- Checks the names, the first one first. -/
def check (root : Root) : Except Fault Unit :=
  root.names.forM Identifier.check

/-- The root itself, when all its names are valid. -/
def checked (root : Root) : Except Fault Root := do
  root.check
  return root

end Root

end InfoFlow
