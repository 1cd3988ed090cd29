import InfoFlow.Proofs.Datalog.Names
import InfoFlow.Proofs.Program.Text

namespace InfoFlow

namespace Datalog

/-- A body whose atoms are replaced. -/
def Body.map (f : Atom → Atom) : Body → Body
  | .holds a => .holds (f a)
  | .absent a => .absent (f a)
  | .both left right => .both (left.map f) (right.map f)
  | .either left right => .either (left.map f) (right.map f)

def Rule.map (f : Atom → Atom) (rule : Rule) : Rule :=
  ⟨f rule.head, f rule.guard, rule.body.map f⟩

def Formula.map (f : Atom → Atom) : Formula → Formula
  | .atom a => .atom (f a)
  | .neg operand => .neg (operand.map f)
  | .conj left right => .conj (left.map f) (right.map f)
  | .disj left right => .disj (left.map f) (right.map f)

def Clause.map (f : Atom → Atom) (clause : Clause) : Clause :=
  ⟨f clause.head, clause.condition.map f⟩

theorem Body.formula_map (f : Atom → Atom) (body : Body) :
    (body.map f).formula = body.formula.map f := by
  induction body with
  | holds | absent => rfl
  | both left right ihl ihr | either left right ihl ihr =>
    simp only [Body.map, formula, Formula.map, ihl, ihr]

theorem Rule.clause_map (f : Atom → Atom) (rule : Rule) :
    (rule.map f).clause = rule.clause.map f := by
  simp only [Rule.map, clause, Clause.map, Formula.map, Body.formula_map]

theorem mem_clauses_iff {list : List Statement} {clause : Clause} :
    clause ∈ clauses list ↔ .rule clause ∈ list := by
  simp only [clauses, List.mem_filterMap]
  constructor
  · rintro ⟨s, hs, heq⟩
    cases s with
    | rule other =>
      obtain rfl : other = clause := by simpa using heq
      exact hs
    | _ => simp at heq
  · exact fun h => ⟨_, h, rfl⟩

end Datalog

open Datalog (Atom Body Clause Rule Statement Term clauses isNameChar)

/-- The relations whose first argument is a label. -/
def labelledRelations : List String :=
  ["isCheck", "check"]

/-- The relations that all namespaces have in common. -/
def sharedRelations : List String :=
  ["claimHasTag", "ownsAccessPath", "edge", "mustHaveTag"] ++ labelledRelations

/-- What a relation is called in a namespace. -/
def relationWithin (scope relation : String) : String :=
  if relation ∈ sharedRelations then relation else Emission.qualify (some scope) relation

/-- A label in a namespace. -/
def Datalog.Term.within (scope : String) : Term → Term
  | .owner => .owner
  | .text label => .text (Emission.qualify (some scope) label)

/-- An atom in a namespace. -/
def Datalog.Atom.within (scope : String) (a : Atom) : Atom where
  relation := relationWithin scope a.relation
  args := if a.relation ∈ labelledRelations then a.args.modifyHead (.within scope) else a.args

/-- A statement in a namespace. -/
def Datalog.Statement.within (scope : String) : Statement → Statement
  | .declaration relation columns => .declaration (relationWithin scope relation) columns
  | .fact a => .fact (a.within scope)
  | .rule clause => .rule (clause.map (Atom.within scope))

namespace Datalog.Atom

variable (scope : String)

@[simp] theorem within_claimHasTag (particle path tag : String) :
    (claimHasTag particle path tag).within scope = claimHasTag particle path tag := rfl

@[simp] theorem within_owns (who : Term) (path : String) :
    (owns who path).within scope = owns who path := rfl

@[simp] theorem within_edge (source target : String) :
    (edge source target).within scope = edge source target := rfl

@[simp] theorem within_mustHaveTag (path tag : String) :
    (mustHaveTag path tag).within scope = mustHaveTag path tag := rfl

@[simp] theorem within_isCheck (label path : String) : (isCheck label path).within scope =
    isCheck (Emission.qualify (some scope) label) path := rfl

@[simp] theorem within_checkHolds (label path : String) : (checkHolds label path).within scope =
    checkHolds (Emission.qualify (some scope) label) path := rfl

end Datalog.Atom

/-- No helper is one of the shared relations. -/
theorem Emission.helperName_notMem_sharedRelations (scope : Option String) (n : Nat) :
    helperName scope n ∉ sharedRelations := by
  have hclaim := @helperName_ne scope n "claimHasTag" 'g' (by simp) (by simp)
  have hedge := @helperName_ne scope n "edge" 'e' (by simp) (by simp)
  have hisCheck := @helperName_ne scope n "isCheck" 'k' (by simp) (by simp)
  simp [sharedRelations, labelledRelations, hclaim, hedge, hisCheck, helperName_ne_check,
    helperName_ne_mustHaveTag, helperName_ne_ownsAccessPath]

theorem relationWithin_helperName (scope : String) (n : Nat) :
    relationWithin scope (Emission.helperName none n) = Emission.helperName (some scope) n :=
  if_neg (Emission.helperName_notMem_sharedRelations none n)

theorem within_helper (scope : String) (n : Nat) :
    (Atom.helper (Emission.helperName none n)).within scope =
      .helper (Emission.helperName (some scope) n) := by
  have hlabel : Emission.helperName none n ∉ labelledRelations := fun h =>
    Emission.helperName_notMem_sharedRelations none n (List.mem_append_right _ h)
  rw [Atom.within, Atom.helper, relationWithin_helperName, if_neg hlabel, Atom.helper]

namespace Predicate

variable (scope path : String) (p : Predicate) (n : Nat)

theorem bodyFrom_within : p.bodyFrom (some scope) path n =
    (p.bodyFrom none path n).map (Atom.within scope) := by
  fun_induction bodyFrom none path p n with
  | case1 => simp only [bodyFrom, Body.map, Atom.within_mustHaveTag]
  | case2 left right n ihl ihr | case3 left right n ihl ihr =>
    simp only [bodyFrom, Body.map, ihl, ihr]
  | case4 => simp only [bodyFrom, Body.map, Atom.within_mustHaveTag]
  | case5 operand n hoperand =>
    simp only [bodyFrom, Body.map, within_helper]

theorem rulesFrom_within : p.rulesFrom (some scope) path n =
    (p.rulesFrom none path n).map (Rule.map (Atom.within scope)) := by
  fun_induction rulesFrom none path p n with
  | case1 => rfl
  | case2 left right n ihl ihr | case3 left right n ihl ihr =>
    simp only [rulesFrom, List.map_append, ihl, ihr]
  | case4 => rfl
  | case5 operand n hoperand ih =>
    simp only [rulesFrom, List.map_append, List.map_cons, List.map_nil, ih, helperRule, Rule.map,
      within_helper, Atom.within_owns, bodyFrom_within]

end Predicate

namespace Program

variable (scope : String)

theorem emittedFrom_within (checks : List TagCheck) (n m : Nat) :
    emittedFrom (some scope) checks n m = (emittedFrom none checks n m).map fun emitted =>
      (emitted.1.within scope, emitted.2.map (Atom.within scope)) := by
  induction checks generalizing n m with
  | nil => rfl
  | cons c rest ih =>
    simp [emittedFrom, ih, TagCheck.announcement, TagCheck.ruleFrom, Rule.map, Emission.label,
      Emission.qualify, Predicate.bodyFrom_within scope]

theorem helpersFrom_within (checks : List TagCheck) (m : Nat) :
    helpersFrom (some scope) checks m =
      (helpersFrom none checks m).map (Rule.map (Atom.within scope)) := by
  induction checks generalizing m with
  | nil => rfl
  | cons c rest ih => simp only [helpersFrom, List.map_append, ih, Predicate.rulesFrom_within]

theorem emittedStatements_within (emitted : Atom × Rule) :
    emittedStatements (emitted.1.within scope, emitted.2.map (Atom.within scope)) =
      (emittedStatements emitted).map (Statement.within scope) := by
  simp only [emittedStatements, Rule.clause_map]
  rfl

theorem helperStatements_within (rule : Rule) : helperStatements (rule.map (Atom.within scope)) =
    (helperStatements rule).map (Statement.within scope) := by
  simp only [helperStatements, Rule.clause_map]
  rfl

/-- What a program states in a namespace is what it states without one, moved into the namespace. -/
theorem statements_within (program : Program) : program.statements (some scope) =
    (program.statements none).map (Statement.within scope) := by
  simp only [statements, emittedFrom_within, helpersFrom_within, List.flatMap_map, List.map_append,
    List.map_map, List.map_flatMap, emittedStatements_within, helperStatements_within]
  simp [Function.comp_def, Statement.within, TagClaim.atom, Ownership.atom, Edge.atom]

theorem clauses_map_within (list : List Statement) :
    clauses (list.map (Statement.within scope)) =
      (clauses list).map (Clause.map (Atom.within scope)) := by
  simp only [clauses, List.filterMap_map, List.map_filterMap]
  congr 1
  funext s
  cases s <;> rfl

variable {scope}

/-- Where a program takes helpers, it has a rule for one of them. -/
theorem exists_helper_clause {program : Program} (h : helperTotal program.checks ≠ 0) :
    ∃ clause ∈ clauses (program.statements none), ∃ n,
      clause.head = .helper (Emission.helperName none n) := by
  have hlength := (@heads_helpersFrom none program.checks 0).length_eq
  have hne : helpersFrom none program.checks 0 ≠ [] := by
    intro hnil
    simp [hnil] at hlength
    omega
  obtain ⟨rule, hrule⟩ := List.exists_mem_of_ne_nil _ hne
  obtain ⟨n, _, _, _, rfl⟩ := exists_of_mem_helpersFrom hrule
  rw [clauses_statements]
  exact ⟨_, List.mem_map_of_mem (List.mem_append_right _ hrule), n, rfl⟩

/-- If a text is read as the rules of a program that takes helpers in a namespace, then the
    namespace is made of name characters. -/
theorem readable_of_clauses_eq {program : Program} (h : helperTotal program.checks ≠ 0)
    {text : String} {list : List Statement} (hread : Datalog.read text = some list)
    (hclauses : clauses list =
      (clauses (program.statements none)).map (Clause.map (Atom.within scope))) :
    Emission.Readable (some scope) := by
  obtain ⟨clause, hclause, n, hhead⟩ := exists_helper_clause h
  have hmem : clause.map (Atom.within scope) ∈ clauses list := by
    rw [hclauses]
    exact List.mem_map_of_mem hclause
  -- The head of the rule was read from the text, so its relation is a name, whatever the text is.
  have hname := Datalog.isName_of_read hread (Datalog.mem_clauses_iff.mp hmem)
  have hrelation : (Statement.rule (clause.map (Atom.within scope))).relation =
      Emission.helperName (some scope) n := by
    rw [Statement.relation, Clause.map, hhead, within_helper, Atom.helper]
  rw [hrelation] at hname
  rintro _ ⟨⟩ c hc
  exact hname.2 c (by simp [Emission.helperName, Emission.qualify, hc])

/-- Programs stay readable in the namespaces that can be part of a name. In any other namespace
    that is a valid identifier, the text of a valid program is read as its rules in that namespace
    only if it takes no helpers: labels are between quotes, but helper relations are not. -/
theorem read_render_within_iff {program : Program} (hincludes : program.includes = [])
    (hvalid : program.Valid) {scope : String} {e : Emission} (he : Emission.within scope = .ok e) :
    ∃ plain, Datalog.read (program.render {}) = some plain ∧
      ((∃ list, Datalog.read (program.render e) = some list ∧
          clauses list = (clauses plain).map (Clause.map (Atom.within scope))) ↔
        (helperTotal program.checks ≠ 0 → ∀ c ∈ scope.toList, isNameChar c = true)) ∧
      ((helperTotal program.checks ≠ 0 → ∀ c ∈ scope.toList, isNameChar c = true) →
        Datalog.read (program.render e) = some (plain.map (Statement.within scope))) := by
  obtain ⟨hscope, heq⟩ := check_bind_eq_ok_iff.mp he
  cases heq
  have hquote : ∀ name, some scope = some name → '"' ∉ name.toList := by
    rintro _ ⟨⟩
    exact (Identifier.check_eq_ok_iff.mp hscope).ne_quote
  have hread (h : helperTotal program.checks ≠ 0 → ∀ c ∈ scope.toList, isNameChar c = true) :
      Datalog.read (program.render { scope := some scope }) =
        some ((program.statements none).map (Statement.within scope)) := by
    rw [← statements_within]
    refine read_render_of_helpers hincludes hvalid hquote fun hhelpers => ?_
    rintro _ ⟨⟩
    exact h hhelpers
  refine ⟨_, read_render hincludes hvalid Emission.readable_none, ⟨?_, fun h => ?_⟩, hread⟩
  · rintro ⟨list, hlist, hclauses⟩ hhelpers
    exact readable_of_clauses_eq hhelpers hlist hclauses scope rfl
  · exact ⟨_, hread h, clauses_map_within scope _⟩

/-- A program with one check, which takes a helper. -/
def helped : Program where
  checks := [⟨⟨.connection "R" "P" "h", []⟩, .not (.or (.tag "a") (.tag "b"))⟩]

theorem valid_helped : helped.Valid := by
  refine ⟨nofun, nofun, nofun, fun c hc => ?_⟩
  obtain rfl : c = _ := by simpa [helped] using hc
  rfl

/-- In a namespace of letters and digits its rules are read with the namespace in front. -/
theorem read_render_within_letters : helped.includes = [] ∧ helped.Valid ∧
    Emission.within "w0" = .ok { scope := some "w0" } ∧
    ∃ plain, Datalog.read (helped.render {}) = some plain ∧
      Datalog.read (helped.render { scope := some "w0" }) =
        some (plain.map (Statement.within "w0")) := by
  obtain ⟨plain, hplain, _, hwithin⟩ :=
    @read_render_within_iff helped rfl valid_helped "w0" _ rfl
  exact ⟨rfl, valid_helped, rfl, plain, hplain, hwithin fun _ => by simp [isNameChar]⟩

/-- A hyphen keeps them from being read, though a namespace may have one. -/
theorem not_read_render_within_hyphen : helped.includes = [] ∧ helped.Valid ∧
    Emission.within "a-b" = .ok { scope := some "a-b" } ∧
    ¬ ∃ plain list, Datalog.read (helped.render {}) = some plain ∧
      Datalog.read (helped.render { scope := some "a-b" }) = some list ∧
      clauses list = (clauses plain).map (Clause.map (Atom.within "a-b")) := by
  refine ⟨rfl, valid_helped, rfl, ?_⟩
  rintro ⟨plain, list, hplain, hlist, hclauses⟩
  rw [read_render rfl valid_helped Emission.readable_none] at hplain
  obtain rfl := Option.some.inj hplain
  have hreadable := readable_of_clauses_eq (by decide) hlist hclauses
  exact absurd (hreadable _ rfl '-' (by decide)) (by decide)

end Program

end InfoFlow
