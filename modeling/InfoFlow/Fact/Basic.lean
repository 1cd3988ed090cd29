import InfoFlow.AccessPath.Basic
import InfoFlow.Datalog.Atom

namespace InfoFlow

open Datalog (Atom)

/-- Data may flow from the source to the target. -/
structure Edge where
  source : AccessPath
  target : AccessPath
deriving DecidableEq, Ord, Repr

namespace Edge

def atom (edge : Edge) : Atom :=
  .edge edge.source.term edge.target.term

def check (edge : Edge) : Except Fault Unit := do
  edge.source.check
  edge.target.check

end Edge

/-- A particle claims that the data at a path carries a tag. -/
structure TagClaim where
  particle : String
  path : AccessPath
  tag : String
deriving DecidableEq, Ord, Repr

namespace TagClaim

def atom (claim : TagClaim) : Atom :=
  .claimHasTag claim.particle claim.path.term claim.tag

/-- Checks the particle, then the path, then the tag. -/
def check (claim : TagClaim) : Except Fault Unit := do
  Identifier.check claim.particle
  claim.path.check
  Identifier.check claim.tag

end TagClaim

/-- A path belongs to an owner, for whom its checks must hold. -/
structure Ownership where
  owner : String
  path : AccessPath
deriving DecidableEq, Ord, Repr

namespace Ownership

def atom (ownership : Ownership) : Atom :=
  .owns (.text ownership.owner) ownership.path.term

/-- Checks the owner, then the path. -/
def check (ownership : Ownership) : Except Fault Unit := do
  Identifier.check ownership.owner
  ownership.path.check

end Ownership

end InfoFlow
