import InfoFlow.Proofs.Datalog.Token

namespace InfoFlow.Datalog

/-- The condition of a rule as it is read: negation may stand in front of any part. -/
inductive Formula where
  | atom (atom : Atom)
  | neg (operand : Formula)
  | conj (left right : Formula)
  | disj (left right : Formula)
deriving DecidableEq, Repr

/-- A rule as it is read. -/
structure Clause where
  head : Atom
  condition : Formula
deriving DecidableEq, Repr

/-- A part of a text that ends with its own dot, or the declaration of a relation. -/
inductive Statement where
  | declaration (relation : String) (columns : List (String × String))
  | fact (atom : Atom)
  | rule (clause : Clause)
deriving DecidableEq, Repr

/-- The tokens that follow a part that was read. They are fewer than there were before it. -/
abbrev After (ts : List Token) : Type :=
  { rest : List Token // rest.length < ts.length }

/-- An argument: the variable is the only name that is one. -/
def term? : Token → Option Term
  | .name "owner" => some .owner
  | .quoted text => some (.text text)
  | _ => none

/-- Arguments with commas between them, up to the closing parenthesis. -/
def arguments : List Token → Option (List Term × List Token)
  | token :: .mark ')' :: rest => (term? token).map fun term => ([term], rest)
  | token :: .mark ',' :: rest => do
    let term ← term? token
    let (terms, rest) ← arguments rest
    return (term :: terms, rest)
  | _ => none

theorem arguments_length {ts rest : List Token} {terms : List Term}
    (h : arguments ts = some (terms, rest)) : rest.length < ts.length := by
  fun_induction arguments ts generalizing terms with
  | case1 token more =>
    obtain ⟨term, _, heq⟩ := Option.map_eq_some_iff.1 h
    cases heq
    simp only [List.length_cons]
    omega
  | case2 token more ih =>
    simp only [Option.bind_eq_bind, Option.bind_eq_some_iff, Option.pure_def,
      Option.some.injEq, Prod.mk.injEq] at h
    obtain ⟨term, _, ⟨terms, after⟩, hmore, _, rfl⟩ := h
    have hless : after.length < more.length := ih hmore
    simp only [List.length_cons]
    omega
  | case3 => simp at h

/-- The columns of a declaration, each a name and its type, up to the closing parenthesis. -/
def columns : List Token → Option (List (String × String) × List Token)
  | .name column :: .mark ':' :: .name type :: .mark ')' :: rest => some ([(column, type)], rest)
  | .name column :: .mark ':' :: .name type :: .mark ',' :: rest => do
    let (more, rest) ← columns rest
    return ((column, type) :: more, rest)
  | _ => none

theorem columns_length {ts rest : List Token} {list : List (String × String)}
    (h : columns ts = some (list, rest)) : rest.length < ts.length := by
  fun_induction columns ts generalizing list with
  | case1 =>
    cases h
    simp
    omega
  | case2 column type more ih =>
    simp only [Option.bind_eq_bind, Option.bind_eq_some_iff, Option.pure_def,
      Option.some.injEq, Prod.mk.injEq] at h
    obtain ⟨⟨list, after⟩, hmore, _, rfl⟩ := h
    have hless : after.length < more.length := ih hmore
    simp only [List.length_cons]
    omega
  | case3 => simp at h

/-- A relation applied to arguments. -/
def atom (ts : List Token) : Option (Atom × After ts) :=
  match ts with
  | .name relation :: .mark '(' :: rest =>
    match h : arguments rest with
    | none => none
    | some (args, after) =>
      some (⟨relation, args⟩, ⟨after, by have := arguments_length h; simp; omega⟩)
  | _ => none

mutual

/-- Conjunctions with semicolons between them. A semicolon binds weaker than a comma, and a comma
    weaker than the sign of a negation. -/
def disjunction (ts : List Token) : Option (Formula × After ts) :=
  match conjunction ts with
  | none => none
  | some (left, ⟨.mark ';' :: rest, h⟩) =>
    match disjunction rest with
    | none => none
    | some (right, ⟨after, h'⟩) => some (.disj left right, ⟨after, by simp at h; omega⟩)
  | some other => some other
termination_by (ts.length, 2)
decreasing_by
  · exact Prod.Lex.right _ (by omega)
  · exact Prod.Lex.left _ _ (by simp at h; omega)

/-- Operands of conjunctions with commas between them. -/
def conjunction (ts : List Token) : Option (Formula × After ts) :=
  match operand ts with
  | none => none
  | some (left, ⟨.mark ',' :: rest, h⟩) =>
    match conjunction rest with
    | none => none
    | some (right, ⟨after, h'⟩) => some (.conj left right, ⟨after, by simp at h; omega⟩)
  | some other => some other
termination_by (ts.length, 1)
decreasing_by
  · exact Prod.Lex.right _ (by omega)
  · exact Prod.Lex.left _ _ (by simp at h; omega)

/-- An atom, a condition in parentheses, or the negation of one of them. -/
def operand (ts : List Token) : Option (Formula × After ts) :=
  match ts with
  | .mark '!' :: rest =>
    match operand rest with
    | none => none
    | some (negated, ⟨after, h⟩) => some (.neg negated, ⟨after, by simp; omega⟩)
  | .mark '(' :: rest =>
    match disjunction rest with
    | some (inner, ⟨.mark ')' :: after, h⟩) => some (inner, ⟨after, by simp at h ⊢; omega⟩)
    | _ => none
  | ts => (atom ts).map fun (atom, after) => (.atom atom, after)
termination_by (ts.length, 0)
decreasing_by
  · exact Prod.Lex.left _ _ (by simp)
  · exact Prod.Lex.left _ _ (by simp)

end

/-- One statement. -/
def statement (ts : List Token) : Option (Statement × After ts) :=
  match ts with
  | .mark '.' :: .name "decl" :: .name relation :: .mark '(' :: rest =>
    match h : columns rest with
    | none => none
    | some (list, after) =>
      some (.declaration relation list, ⟨after, by have := columns_length h; simp; omega⟩)
  | ts =>
    match atom ts with
    | some (fact, ⟨.mark '.' :: after, h⟩) => some (.fact fact, ⟨after, by simp at h; omega⟩)
    | some (head, ⟨.arrow :: rest, h⟩) =>
      match disjunction rest with
      | some (condition, ⟨.mark '.' :: after, h'⟩) =>
        some (.rule ⟨head, condition⟩, ⟨after, by simp at h h'; omega⟩)
      | _ => none
    | _ => none

/-- Statements up to the end. -/
def statements (ts : List Token) : Option (List Statement) :=
  if ts = [] then some []
  else
    match statement ts with
    | none => none
    | some (first, ⟨rest, _⟩) => (statements rest).map (first :: ·)
termination_by ts.length

/-- The statements of a text, if it consists of statements only. -/
def read (text : String) : Option (List Statement) :=
  (tokens text.toList).bind statements

/-- The condition that a text consists of, if it consists of one. -/
def readCondition (text : String) : Option Formula :=
  (tokens text.toList).bind fun ts =>
    match disjunction ts with
    | some (condition, ⟨[], _⟩) => some condition
    | _ => none

/-- The rules among statements. -/
def clauses (list : List Statement) : List Clause :=
  list.filterMap fun
    | .rule clause => some clause
    | _ => none

/-- The facts about a relation among statements. -/
def facts (relation : String) (list : List Statement) : List Atom :=
  list.filterMap fun
    | .fact atom => if atom.relation = relation then some atom else none
    | _ => none

end InfoFlow.Datalog
