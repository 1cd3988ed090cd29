import InfoFlow.Datalog.Atom

namespace InfoFlow.Datalog

/-- The condition of a rule. Only atoms are negated. -/
inductive Body where
  | holds (atom : Atom)
  | absent (atom : Atom)
  | both (left right : Body)
  | either (left right : Body)
deriving DecidableEq, Repr

/-- The text of a condition. There `;` binds weaker than `,` and `,` weaker than `!`, so every
    operand is put into parentheses, and a disjunction as a whole once more: it stays one conjunct
    wherever it is placed. -/
def Body.render : Body → String
  | .holds atom => atom.render
  | .absent atom => "!" ++ atom.render
  | .both left right => "(" ++ left.render ++ "), (" ++ right.render ++ ")"
  | .either left right => "((" ++ left.render ++ "); (" ++ right.render ++ "))"

/-- A rule derives its head from its guard and its body. The guard binds the variable of the
    rule, so that negated atoms of the body range over the owners that the guard gives. -/
structure Rule where
  head : Atom
  guard : Atom
  body : Body
deriving DecidableEq, Repr

def Rule.render (rule : Rule) : String :=
  rule.head.render ++ " :- " ++ rule.guard.render ++ ", " ++ rule.body.render ++ "."

end InfoFlow.Datalog
