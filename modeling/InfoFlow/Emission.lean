import InfoFlow.Fault

namespace InfoFlow

/-- The rule that defines a helper relation, as text. -/
structure HelperRule where
  relation : String
  rule : String
deriving DecidableEq, Repr

/-- How many names an emission has given out, and the helper rules it has collected. Check labels
    and helper relations are numbered, each kind from zero, and a namespace stands in front of all
    of them, so that emissions in different namespaces can be put into one program. -/
structure Emission where
  /-- The namespace in front of every name. -/
  scope : Option String := none
  labelsIssued : Nat := 0
  helpersIssued : Nat := 0
  helperRules : List HelperRule := []
deriving DecidableEq, Repr

namespace Emission

/-- A new emission in a namespace, which must be a valid identifier. -/
def within (scope : String) : Except Fault Emission := do
  Identifier.check scope
  return { scope := some scope }

/-- A new emission, in a namespace if one is given. -/
def start : Option String → Except Fault Emission
  | none => .ok {}
  | some scope => within scope

/-- A name with the namespace in front. -/
def qualify (scope : Option String) (name : String) : String :=
  match scope with
  | some scope => scope ++ "_" ++ name
  | none => name

/-- The check label with a number. -/
def label (scope : Option String) (number : Nat) : String :=
  qualify scope ("check_num_" ++ toString number)

/-- The helper relation with a number. -/
def helperName (scope : Option String) (number : Nat) : String :=
  qualify scope ("notHelper" ++ toString number)

/-- Issues the next check label. -/
def nextLabel (e : Emission) : String × Emission :=
  (label e.scope e.labelsIssued, { e with labelsIssued := e.labelsIssued + 1 })

/-- Issues the next helper relation. -/
def nextHelper (e : Emission) : String × Emission :=
  (helperName e.scope e.helpersIssued, { e with helpersIssued := e.helpersIssued + 1 })

/-- Collects the rule of a helper relation. -/
def addRule (e : Emission) (relation rule : String) : Emission :=
  { e with helperRules := e.helperRules ++ [⟨relation, rule⟩] }

end Emission

end InfoFlow
