import InfoFlow.Proofs.Datalog.Evaluation
import InfoFlow.Proofs.Datalog.RoundTrip

namespace InfoFlow.Datalog

/-- An atom that must hold, or one that must not. -/
structure Literal where
  positive : Bool
  atom : Atom
deriving DecidableEq, Repr

/-- What a literal asks of a set for an owner. -/
def Literal.Holds (literal : Literal) (known : Set Tuple) (owner : String) : Prop :=
  literal.atom.tuple owner ∈ known ↔ literal.positive = true

/-- The literals of a condition, or of its negation, each as often as it occurs. -/
def Formula.literals (positive : Bool) : Formula → List Literal
  | .atom a => [⟨positive, a⟩]
  | .neg operand => operand.literals (!positive)
  | .conj left right | .disj left right => left.literals positive ++ right.literals positive

/-- Each disjunct of one list together with each of another. -/
def combinations (left right : List (List Literal)) : List (List Literal) :=
  left.flatMap fun first => right.map (first ++ ·)

/-- The disjunctive normal form of a condition, or of its negation. -/
def Formula.disjuncts : Bool → Formula → List (List Literal)
  | positive, .atom a => [[⟨positive, a⟩]]
  | positive, .neg operand => operand.disjuncts (!positive)
  | true, .conj left right => combinations (left.disjuncts true) (right.disjuncts true)
  | false, .conj left right => left.disjuncts false ++ right.disjuncts false
  | true, .disj left right => left.disjuncts true ++ right.disjuncts true
  | false, .disj left right => combinations (left.disjuncts false) (right.disjuncts false)

/-- Only single atoms are negated. -/
def Formula.NegatesAtoms : Formula → Prop
  | .atom _ | .neg (.atom _) => True
  | .neg _ => False
  | .conj left right | .disj left right => left.NegatesAtoms ∧ right.NegatesAtoms

section Disjuncts

variable {left right : List (List Literal)}

theorem mem_combinations {disjunct : List Literal} : disjunct ∈ combinations left right ↔
    ∃ first ∈ left, ∃ second ∈ right, first ++ second = disjunct := by
  simp [combinations]

theorem exists_mem_combinations_iff {P : Literal → Prop} :
    (∃ disjunct ∈ combinations left right, ∀ literal ∈ disjunct, P literal) ↔
      (∃ disjunct ∈ left, ∀ literal ∈ disjunct, P literal) ∧
        ∃ disjunct ∈ right, ∀ literal ∈ disjunct, P literal := by
  constructor
  · rintro ⟨disjunct, hmem, hall⟩
    obtain ⟨first, hfirst, second, hsecond, rfl⟩ := mem_combinations.mp hmem
    obtain ⟨hleft, hright⟩ := List.forall_mem_append.mp hall
    exact ⟨⟨first, hfirst, hleft⟩, second, hsecond, hright⟩
  · rintro ⟨⟨first, hfirst, hleft⟩, second, hsecond, hright⟩
    exact ⟨_, mem_combinations.mpr ⟨first, hfirst, second, hsecond, rfl⟩,
      List.forall_mem_append.mpr ⟨hleft, hright⟩⟩

theorem exists_mem_append_iff {P : Literal → Prop} :
    (∃ disjunct ∈ left ++ right, ∀ literal ∈ disjunct, P literal) ↔
      (∃ disjunct ∈ left, ∀ literal ∈ disjunct, P literal) ∨
        ∃ disjunct ∈ right, ∀ literal ∈ disjunct, P literal := by
  simp [or_and_right, exists_or]

/-- A condition holds when all literals of one of its disjuncts do, and it fails when those of one
    disjunct of its negation do. -/
theorem Formula.exists_disjunct_iff {f : Formula} {positive : Bool} {known : Set Tuple}
    {owner : String} :
    (∃ disjunct ∈ f.disjuncts positive, ∀ literal ∈ disjunct, literal.Holds known owner) ↔
      (f.Holds known owner known ↔ positive = true) := by
  induction f generalizing positive with
  | atom a => simp [disjuncts, Formula.Holds, Literal.Holds]
  | neg operand ih =>
    rw [disjuncts, ih]
    cases positive <;> simp [Formula.Holds]
  | conj left right ihl ihr =>
    cases positive with
    | false =>
      rw [disjuncts, exists_mem_append_iff, ihl, ihr]
      simp [Formula.Holds, ← not_and_or]
    | true =>
      rw [disjuncts, exists_mem_combinations_iff, ihl, ihr]
      simp [Formula.Holds]
  | disj left right ihl ihr =>
    cases positive with
    | false =>
      rw [disjuncts, exists_mem_combinations_iff, ihl, ihr]
      simp [Formula.Holds]
    | true =>
      rw [disjuncts, exists_mem_append_iff, ihl, ihr]
      simp [Formula.Holds]

end Disjuncts

/-- Every negation sign stands right in front of an atom, so nothing in parentheses is negated. -/
def NegatesNames (ts : List Token) : Prop :=
  ∀ before after, ts = before ++ .mark '!' :: after →
    ∃ relation rest, after = .name relation :: .mark '(' :: rest

namespace NegatesNames

theorem of_notMem {ts : List Token} (h : .mark '!' ∉ ts) : NegatesNames ts := by
  rintro before after rfl
  simp at h

theorem append {ss ts : List Token} (hs : NegatesNames ss) (ht : NegatesNames ts) :
    NegatesNames (ss ++ ts) := by
  intro before after heq
  obtain ⟨middle, _, hts⟩ | ⟨middle, hss, hmiddle⟩ := List.append_eq_append_iff.mp heq
  · exact ht middle after hts
  · cases middle with
    | nil => exact ht [] after hmiddle.symm
    | cons token more =>
      -- The sign is in the first part, and so is the atom that it stands in front of.
      obtain ⟨rfl, rfl⟩ := List.cons.inj hmiddle
      obtain ⟨relation, rest, rfl⟩ := hs before more hss
      exact ⟨relation, rest ++ ts, rfl⟩

end NegatesNames

theorem bang_notMem_argumentTokens (args : List Term) : .mark '!' ∉ argumentTokens args := by
  fun_induction argumentTokens args with
  | case1 => simp
  | case2 term => cases term <;> simp [Term.token]
  | case3 term rest _ ih => cases term <;> simpa [Term.token] using ih

theorem Atom.bang_notMem_tokens (a : Atom) : .mark '!' ∉ a.tokens := by
  simpa [tokens] using bang_notMem_argumentTokens a.args

theorem Atom.negatesNames (a : Atom) : NegatesNames a.tokens :=
  .of_notMem a.bang_notMem_tokens

/-- A written body negates single atoms only, and puts no parentheses around them. -/
theorem Body.negatesNames (body : Body) : NegatesNames body.tokens := by
  induction body with
  | holds a => exact a.negatesNames
  | absent a =>
    rintro (_ | ⟨token, before⟩) after h
    · obtain ⟨_, rfl⟩ := List.cons.inj h
      exact ⟨_, _, rfl⟩
    · obtain ⟨_, h⟩ := List.cons.inj h
      exact absurd (h ▸ by simp) a.bang_notMem_tokens
  | both left right ihl ihr =>
    have hopening : NegatesNames [.mark '('] := .of_notMem (by decide)
    have hcomma : NegatesNames [.mark ')', .mark ',', .mark '('] := .of_notMem (by decide)
    have hclosing : NegatesNames [.mark ')'] := .of_notMem (by decide)
    simpa [tokens] using hopening.append (ihl.append (hcomma.append (ihr.append hclosing)))
  | either left right ihl ihr =>
    have hopening : NegatesNames [.mark '(', .mark '('] := .of_notMem (by decide)
    have hsemicolon : NegatesNames [.mark ')', .mark ';', .mark '('] := .of_notMem (by decide)
    have hclosing : NegatesNames [.mark ')', .mark ')'] := .of_notMem (by decide)
    simpa [tokens] using hopening.append (ihl.append (hsemicolon.append (ihr.append hclosing)))

theorem Rule.negatesNames (rule : Rule) : NegatesNames rule.tokens := by
  have harrow : NegatesNames [.arrow] := .of_notMem (by decide)
  have hcomma : NegatesNames [.mark ','] := .of_notMem (by decide)
  have hdot : NegatesNames [.mark '.'] := .of_notMem (by decide)
  simpa [tokens] using rule.head.negatesNames.append (harrow.append
    (rule.guard.negatesNames.append (hcomma.append (rule.body.negatesNames.append hdot))))

theorem Body.negatesAtoms_formula (body : Body) : body.formula.NegatesAtoms := by
  induction body with
  | holds a | absent a => trivial
  | both left right ihl ihr | either left right ihl ihr => exact ⟨ihl, ihr⟩

namespace Clause

/-- Wherever the variable stands in the head or in a negated atom, each disjunct of the condition
    has it in an atom that is not negated. -/
def RangeRestricted (clause : Clause) : Prop :=
  ∀ disjunct ∈ clause.condition.disjuncts true,
    (.owner ∈ clause.head.args ∨
      ∃ literal ∈ disjunct, literal.positive = false ∧ .owner ∈ literal.atom.args) →
    ∃ literal ∈ disjunct, literal.positive = true ∧ .owner ∈ literal.atom.args

/-- Each disjunct of the condition asks for an owner of the path. -/
def Guarded (clause : Clause) (path : String) : Prop :=
  ∀ disjunct ∈ clause.condition.disjuncts true, ⟨true, .owns .owner path⟩ ∈ disjunct

variable {clause : Clause} {path : String}

theorem Guarded.rangeRestricted (h : clause.Guarded path) : clause.RangeRestricted :=
  fun disjunct hdisjunct _ => ⟨_, h disjunct hdisjunct, rfl, List.mem_cons_self⟩

/-- A guarded rule derives nothing for those who do not own the path. -/
theorem Guarded.owns (h : clause.Guarded path) {known : Set Tuple} {owner : String}
    (hholds : clause.condition.Holds known owner known) :
    (Atom.owns .owner path).tuple owner ∈ known := by
  obtain ⟨disjunct, hdisjunct, hall⟩ := Formula.exists_disjunct_iff.mpr (iff_of_true hholds rfl)
  exact (hall _ (h disjunct hdisjunct)).mpr rfl

end Clause

/-- A rule whose guard asks for an owner of the path is guarded, whatever its body is. -/
theorem Rule.guarded_clause {rule : Rule} {path : String} (h : rule.guard = .owns .owner path) :
    rule.clause.Guarded path := by
  intro disjunct hdisjunct
  obtain ⟨first, hfirst, second, _, rfl⟩ := mem_combinations.mp hdisjunct
  obtain rfl : first = [⟨true, rule.guard⟩] := by simpa [Formula.disjuncts] using hfirst
  simp [h]

/-- A rule that derives something for owners of a path only, and whose negations are of single atoms
    and range over these owners. -/
structure Clause.Safe (clause : Clause) (path : String) : Prop where
  negatesAtoms : clause.condition.NegatesAtoms
  guarded : clause.Guarded path
  rangeRestricted : clause.RangeRestricted
  owned : ∀ known owner, clause.condition.Holds known owner known →
    (Atom.owns .owner path).tuple owner ∈ known

theorem Rule.safe_clause {rule : Rule} {path : String} (h : rule.guard = .owns .owner path) :
    rule.clause.Safe path where
  negatesAtoms := ⟨trivial, rule.body.negatesAtoms_formula⟩
  guarded := guarded_clause h
  rangeRestricted := (guarded_clause h).rangeRestricted
  owned _ _ := (guarded_clause h).owns

end InfoFlow.Datalog
