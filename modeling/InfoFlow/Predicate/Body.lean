import InfoFlow.Datalog.Rule
import InfoFlow.Emission
import InfoFlow.Predicate.Basic

namespace InfoFlow.Predicate

open Datalog (Atom Body Rule)

/-- The rule of a helper relation for the path with the given term. -/
def helperRule (relation path : String) (body : Body) : Rule :=
  ⟨.helper relation, .owns .owner path, body⟩

/-- The body for the path with the given term, and the emission after the names it takes. Rules
    negate atoms only, so the negation of a composite predicate goes through a helper, which holds
    for an owner of the path when the composite does. A helper takes its name before the predicate
    below it is put into a body, and its rule is collected after the rules of helpers further in. -/
def body (path : String) : Predicate → Emission → Body × Emission
  | .tag name, e => (.holds (.mustHaveTag path name), e)
  | .and left right, e =>
    let (l, e) := left.body path e
    let (r, e) := right.body path e
    (.both l r, e)
  | .or left right, e =>
    let (l, e) := left.body path e
    let (r, e) := right.body path e
    (.either l r, e)
  | .not (.tag name), e => (.absent (.mustHaveTag path name), e)
  | .not operand, e =>
    let (relation, e) := e.nextHelper
    let (inner, e) := operand.body path e
    (.absent (.helper relation), e.addRule relation (helperRule relation path inner).render)

end InfoFlow.Predicate
