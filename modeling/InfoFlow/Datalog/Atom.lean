namespace InfoFlow.Datalog

/-- An argument of an atom: a text, or the variable `owner`, which is the only one in emitted rules.
    -/
inductive Term where
  /-- The variable that ranges over the owners of a path. -/
  | owner
  | text (value : String)
deriving DecidableEq, Repr

/-- A text stands between quotes as it is: valid identifiers hold nothing to escape. -/
def Term.render : Term → String
  | .owner => "owner"
  | .text value => "\"" ++ value ++ "\""

/-- A relation applied to arguments. -/
structure Atom where
  relation : String
  args : List Term
deriving DecidableEq, Repr

namespace Atom

def render (atom : Atom) : String :=
  atom.relation ++ "(" ++ ", ".intercalate (atom.args.map Term.render) ++ ")"

/-- The atom as a fact on a line of its own. -/
def factLine (atom : Atom) : String :=
  atom.render ++ ".\n"

/-- Data may flow from one path to another. -/
def edge (source target : String) : Atom :=
  ⟨"edge", [.text source, .text target]⟩

/-- A particle claims that the data at a path carries a tag. -/
def claimHasTag (particle path tag : String) : Atom :=
  ⟨"claimHasTag", [.text particle, .text path, .text tag]⟩

/-- A path belongs to an owner, who may be named or be the variable. -/
def owns (who : Term) (path : String) : Atom :=
  ⟨"ownsAccessPath", [who, .text path]⟩

/-- For the owner, the data at a path must carry a tag. -/
def mustHaveTag (path tag : String) : Atom :=
  ⟨"mustHaveTag", [.text path, .owner, .text tag]⟩

/-- A label names a check of a path. -/
def isCheck (label path : String) : Atom :=
  ⟨"isCheck", [.text label, .text path]⟩

/-- The labelled check of a path holds for the owner. -/
def checkHolds (label path : String) : Atom :=
  ⟨"check", [.text label, .owner, .text path]⟩

/-- A helper relation holds for the owner. -/
def helper (relation : String) : Atom :=
  ⟨relation, [.owner]⟩

end Atom

end InfoFlow.Datalog
