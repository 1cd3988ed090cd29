import InfoFlow.AccessPath.Basic
import InfoFlow.Predicate.Body

namespace InfoFlow

open Datalog (Atom Rule)

/-- A predicate that must hold at a path for every owner of the path. It is emitted as a fact that
    announces it under a label, and a rule that derives the label for the owners for which it holds.
    -/
structure TagCheck where
  path : AccessPath
  predicate : Predicate
deriving DecidableEq, Repr

namespace TagCheck

/-- Checks the path, then the tags of the predicate. -/
def check (c : TagCheck) : Except Fault Unit := do
  c.path.check
  c.predicate.check

/-- The same check below another root. -/
def instantiate (c : TagCheck) (root : Root) : Except Fault TagCheck := do
  return { c with path := ← c.path.instantiate root }

/-- The rule of a check under a label, and the emission after its names. -/
def rule (c : TagCheck) (label : String) (e : Emission) : Rule × Emission :=
  let (body, e) := c.predicate.body c.path.term e
  (⟨.checkHolds label c.path.term, .owns .owner c.path.term, body⟩, e)

/-- The text of a check under the next label. -/
def emit (c : TagCheck) (e : Emission) : String × Emission :=
  let (label, e) := e.nextLabel
  let (rule, e) := c.rule label e
  ((Atom.isCheck label c.path.term).render ++ ". " ++ rule.render, e)

end TagCheck

end InfoFlow
