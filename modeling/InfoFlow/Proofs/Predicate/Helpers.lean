import Mathlib.Data.List.Nodup
import InfoFlow.Proofs.Datalog.Literals
import InfoFlow.Proofs.Predicate.Meaning
import InfoFlow.Proofs.Program.Readable

namespace InfoFlow

open Datalog (Atom Body Clause Formula Literal Ordered Rule Stratified)

namespace Predicate

/-- The nodes of a predicate from the root down, each as often as it is used. -/
def nodes : Predicate → List Predicate
  | .tag name => [.tag name]
  | .and left right => .and left right :: (left.nodes ++ right.nodes)
  | .or left right => .or left right :: (left.nodes ++ right.nodes)
  | .not operand => .not operand :: operand.nodes

/-- Whether a node is the negation of something other than a tag. -/
def isNegatedComposite : Predicate → Bool
  | .not (.tag _) => false
  | .not _ => true
  | _ => false

/-- There is a helper for each negated composite. -/
theorem helperCount_eq (p : Predicate) : p.helperCount = p.nodes.countP isNegatedComposite := by
  fun_induction helperCount p with
  | case1 | case4 => rfl
  | case2 left right ihl ihr | case3 left right ihl ihr =>
    simp [nodes, isNegatedComposite, ihl, ihr]
  | case5 operand hoperand ih => simp [nodes, isNegatedComposite, ih]

variable {scope : Option String} {path : String}

/-- Rules are collected after those of the helpers that they ask for. -/
theorem ordered_rulesFrom (p : Predicate) (n : Nat) :
    Ordered ["ownsAccessPath", "mustHaveTag"] ((p.rulesFrom scope path n).map Rule.clause) := by
  fun_induction rulesFrom scope path p n with
  | case1 | case4 => exact .nil
  | case2 left right n ihl ihr | case3 left right n ihl ihr =>
    rw [List.map_append]
    exact ihl.append ihr
  | case5 operand n hoperand ih =>
    rw [List.map_append]
    refine ih.record fun relation hrelation => ?_
    obtain rfl | hrelation := List.mem_cons.mp hrelation
    · exact .inl List.mem_cons_self
    · obtain rfl | ⟨rule, hrule, rfl⟩ := relations_bodyFrom hrelation
      · exact .inl (by simp)
      · exact .inr (List.mem_map.mpr ⟨_, List.mem_map_of_mem hrule, rfl⟩)

/-- Helpers rank by their numbers, so none depends on itself. -/
theorem stratified_rulesFrom (p : Predicate) (n : Nat) :
    Stratified ((p.rulesFrom scope path n).map Rule.clause)
      (helperRank scope (n + p.helperCount)) := by
  intro clause hclause relation hrelation
  obtain ⟨rule, hrule, rfl⟩ := List.mem_map.mp hclause
  obtain ⟨m, inner, _, hm, rfl⟩ := exists_of_mem_rulesFrom hrule
  exact helperRank_lt hm hrelation

/-- What the body of a predicate asks for, and what the rules of its helpers do. -/
def literalsFrom (scope : Option String) (path : String) (p : Predicate) (n : Nat) : List Literal :=
  (p.bodyFrom scope path n).formula.literals true ++
    (p.rulesFrom scope path n).flatMap (·.clause.condition.literals true)

/-- A helper is asked for in place of a composite, and what the composite asks for stands in the
    rule of the helper. -/
theorem literalsFrom_not_perm (scope : Option String) (path : String) {operand : Predicate}
    (hoperand : ∀ name, operand ≠ .tag name) (n : Nat) :
    (literalsFrom scope path (.not operand) n).Perm
      (⟨false, .helper (Emission.helperName scope n)⟩ :: ⟨true, .owns .owner path⟩ ::
        literalsFrom scope path operand (n + 1)) := by
  have hbody : ((Predicate.not operand).bodyFrom scope path n).formula.literals true =
      [⟨false, .helper (Emission.helperName scope n)⟩] := by
    rw [bodyFrom_not hoperand]
    rfl
  rw [literalsFrom, hbody, rulesFrom_not hoperand, List.flatMap_append, List.flatMap_singleton,
    List.singleton_append]
  exact .cons _ List.perm_append_comm

/-- Whether a literal is about something other than ownership and tags. -/
def isAboutHelper (literal : Literal) : Bool :=
  literal.atom.relation ∉ ["ownsAccessPath", "mustHaveTag"]

theorem isAboutHelper_of_relation_eq {literal : Literal} {n : Nat}
    (h : literal.atom.relation = Emission.helperName scope n) : isAboutHelper literal = true := by
  simp [isAboutHelper, h, Emission.helperName_ne_ownsAccessPath,
    Emission.helperName_ne_mustHaveTag]

/-- Each helper is asked for once, by a negated atom. -/
theorem filter_literalsFrom_perm (scope : Option String) (path : String) (p : Predicate)
    (n : Nat) : ((literalsFrom scope path p n).filter isAboutHelper).Perm
      ((List.range' n p.helperCount).map fun m =>
        ⟨false, .helper (Emission.helperName scope m)⟩) := by
  fun_induction rulesFrom scope path p n with
  | case1 | case4 => simp [literalsFrom, bodyFrom, rulesFrom, helperCount, Body.formula,
      Formula.literals, isAboutHelper, Atom.mustHaveTag]
  | case2 left right n ihl ihr | case3 left right n ihl ihr =>
    rw [helperCount, ← List.range'_append_1, List.map_append]
    refine .trans ?_ (ihl.append ihr)
    rw [← List.filter_append]
    refine .filter _ ?_
    simp only [literalsFrom, bodyFrom, rulesFrom, Body.formula, Formula.literals,
      List.flatMap_append, List.append_assoc]
    exact (List.perm_append_comm_assoc ..).append_left _
  | case5 operand n hoperand ih =>
    have hhelper : isAboutHelper ⟨false, .helper (Emission.helperName scope n)⟩ = true :=
      isAboutHelper_of_relation_eq rfl
    have hguard : ¬ isAboutHelper ⟨true, .owns .owner path⟩ = true := by
      simp [isAboutHelper, Atom.owns]
    have hfilter := (literalsFrom_not_perm scope path hoperand n).filter isAboutHelper
    rw [List.filter_cons_of_pos hhelper, List.filter_cons_of_neg hguard] at hfilter
    rw [helperCount_not hoperand, List.range'_succ, List.map_cons]
    exact hfilter.trans (ih.cons _)

/-- So each helper of a predicate occurs once among all that is asked for. -/
theorem filter_literalsFrom_eq {p : Predicate} {n m : Nat} (hn : n ≤ m)
    (hm : m < n + p.helperCount) :
    (literalsFrom scope path p n).filter (·.atom.relation = Emission.helperName scope m) =
      [⟨false, .helper (Emission.helperName scope m)⟩] := by
  let asks (literal : Literal) : Bool := literal.atom.relation = Emission.helperName scope m
  have hasks : ∀ literal, (asks literal && isAboutHelper literal) = asks literal := by
    intro literal
    rw [Bool.and_eq_left_iff_imp, decide_eq_true_eq]
    exact isAboutHelper_of_relation_eq
  have hnumber : (List.range' n p.helperCount).filter (fun j => decide
      (Emission.helperName scope j = Emission.helperName scope m)) = [m] := by
    simp only [(Emission.helperName_injective scope).eq_iff, List.filter_eq]
    rw [List.count_eq_one_of_mem List.nodup_range' (List.mem_range'_1.mpr ⟨hn, hm⟩)]
    rfl
  have hperm := (filter_literalsFrom_perm scope path p n).filter asks
  rw [List.filter_filter, List.filter_map] at hperm
  simp only [hasks, asks, Function.comp_def, Atom.helper] at hperm
  rw [hnumber] at hperm
  exact List.perm_singleton.mp hperm

/-- The rules that a valid predicate adds are read back, each from a text of its own. -/
theorem forall₂_read_rulesFrom (hscope : Emission.Readable scope) (hpath : '"' ∉ path.toList)
    {p : Predicate} (hp : p.check = .ok ()) (n : Nat) :
    List.Forall₂ (fun helper clause => Datalog.read helper.rule = some [.rule clause] ∧
        clause.head = .helper helper.relation)
      ((p.rulesFrom scope path n).map HelperRule.ofRule)
      ((p.rulesFrom scope path n).map Rule.clause) := by
  rw [List.forall₂_map_left_iff, List.forall₂_map_right_iff, List.forall₂_same]
  intro rule hrule
  have hreadable := readable_of_mem_rulesFrom hscope hpath hp hrule
  obtain ⟨m, inner, _, _, rfl⟩ := exists_of_mem_rulesFrom hrule
  exact ⟨Datalog.read_eq hreadable.lexes (.rule hreadable), rfl⟩

/-- What the body of a valid predicate on a valid path takes from an emission without a namespace,
    whatever was emitted before. There are as many new helpers as the predicate has negations of
    composites, numbered on without gaps, and one more rule for each; labels and the rules collected
    before stay. The body and the new rules can be read, and in all of them each new helper stands
    once, as a negated atom for the owner. Each new rule asks only for helpers whose rules were
    collected before it, and no helper depends on itself. -/
theorem helpers_accounted (path : AccessPath) (hpath : path.check = .ok ()) (p : Predicate)
    (hp : p.check = .ok ()) (e : Emission) (hscope : e.scope = none) :
    ∃ body added condition clauses,
      p.body path.term e = (body, { e with
        helpersIssued := e.helpersIssued + p.nodes.countP isNegatedComposite
        helperRules := e.helperRules ++ added }) ∧
      (added.map (·.relation)).Perm
        ((List.range' e.helpersIssued (p.nodes.countP isNegatedComposite)).map
          (Emission.helperName none)) ∧
      Datalog.readCondition body.render = some condition ∧
      List.Forall₂ (fun helper clause => Datalog.read helper.rule = some [.rule clause] ∧
        clause.head = .helper helper.relation) added clauses ∧
      (∀ f ∈ condition :: clauses.map (·.condition), f.NegatesAtoms) ∧
      (∀ helper ∈ added,
        ((condition :: clauses.map (·.condition)).flatMap (Formula.literals true)).filter
          (·.atom.relation = helper.relation) = [⟨false, .helper helper.relation⟩]) ∧
      Ordered ["ownsAccessPath", "mustHaveTag"] clauses ∧
      ∀ relation, ¬ Relation.TransGen (Datalog.DependsOn clauses) relation relation := by
  have hquote := (AccessPath.check_eq_ok_iff.mp hpath).ne_quote
  have hreadable : Emission.Readable e.scope := hscope ▸ Emission.readable_none
  have hrelations : (((p.rulesFrom e.scope path.term e.helpersIssued).map
      HelperRule.ofRule).map (·.relation)).Perm
        ((List.range' e.helpersIssued p.helperCount).map (Emission.helperName none)) := by
    have hheads := (heads_rulesFrom e.scope path.term p e.helpersIssued).map (·.relation)
    rw [List.map_map, List.map_map] at hheads
    rw [List.map_map, ← hscope]
    exact hheads
  refine ⟨p.bodyFrom e.scope path.term e.helpersIssued,
    (p.rulesFrom e.scope path.term e.helpersIssued).map HelperRule.ofRule, _,
    (p.rulesFrom e.scope path.term e.helpersIssued).map Rule.clause, ?_, ?_,
    (readable_bodyFrom hquote hp (fun _ => hreadable) _).readCondition_render,
    forall₂_read_rulesFrom hreadable hquote hp _, ?_, ?_, ordered_rulesFrom .., ?_⟩
  · rw [body_eq, ← helperCount_eq, Emission.withHelpers, length_rulesFrom]
  · rw [← helperCount_eq]
    exact hrelations
  · refine List.forall_mem_cons.mpr ⟨Body.negatesAtoms_formula _, ?_⟩
    rw [List.map_map, List.forall_mem_map]
    exact fun rule _ => ⟨trivial, rule.body.negatesAtoms_formula⟩
  · intro helper hhelper
    obtain ⟨m, hm, hname⟩ := List.mem_map.mp (hrelations.subset (List.mem_map_of_mem hhelper))
    obtain ⟨hle, hlt⟩ := List.mem_range'_1.mp hm
    rw [← hname, ← hscope, List.flatMap_cons, List.flatMap_map, List.flatMap_map]
    exact filter_literalsFrom_eq hle hlt
  · exact (stratified_rulesFrom p _).not_dependsOn_self

end Predicate

/-- An emission that has given out names already. -/
def Emission.underWay : Emission :=
  { labelsIssued := 3, helpersIssued := 7, helperRules := [⟨"notHelper6", "left from before"⟩] }

namespace Predicate

/-- Negations of a conjunction, of a disjunction and of a negation. The tags hold what separates the
    parts of a rule. -/
def nestedNegations : Predicate :=
  .not (.and (.not (.or (.tag "a,(b") (.tag "c);d"))) (.not (.not (.tag "!e"))))

/-- The outermost helper has the first of the three numbers and the last of the three rules. -/
theorem helpers_accounted_nested : ∃ path : AccessPath, path.check = .ok () ∧
    nestedNegations.check = .ok () ∧ Emission.underWay.scope = none ∧
    ∃ body added condition clauses,
      nestedNegations.body path.term .underWay = (body, { Emission.underWay with
        helpersIssued := 10
        helperRules := Emission.underWay.helperRules ++ added }) ∧
      added.map (·.relation) = ["notHelper8", "notHelper9", "notHelper7"] ∧
      Datalog.readCondition body.render = some condition ∧
      ((condition :: clauses.map (·.condition)).flatMap (Formula.literals true)).filter
        (·.atom.relation = "notHelper9") = [⟨false, .helper "notHelper9"⟩] ∧
      Ordered ["ownsAccessPath", "mustHaveTag"] clauses := by
  obtain ⟨body, added, condition, clauses, hbody, _, hcondition, _, _, honce, hordered, _⟩ :=
    helpers_accounted ⟨.connection "r" "p" "h", [⟨"f"⟩]⟩ rfl nestedNegations rfl .underWay rfl
  have hrelations : added.map (·.relation) = ["notHelper8", "notHelper9", "notHelper7"] := by
    have hrules := congrArg (·.2.helperRules) hbody
    rw [body_eq] at hrules
    rw [← List.append_cancel_left hrules]
    rfl
  have hmem : "notHelper9" ∈ added.map (·.relation) := by simp [hrelations]
  obtain ⟨helper, hhelper, hname⟩ := List.mem_map.mp hmem
  have hnine := honce helper hhelper
  rw [hname] at hnine
  exact ⟨_, rfl, rfl, rfl, body, added, condition, clauses, hbody, hrelations, hcondition, hnine,
    hordered⟩

end Predicate

end InfoFlow
