import Mathlib.Data.List.Perm.Basic
import InfoFlow.Predicate.Body

namespace InfoFlow

open Datalog (Atom Body Rule)

/-- A rule as it is collected. -/
def HelperRule.ofRule (rule : Rule) : HelperRule :=
  ⟨rule.head.relation, rule.render⟩

/-- The emission after helpers with the given rules. -/
def Emission.withHelpers (e : Emission) (rules : List Rule) : Emission :=
  { e with
    helpersIssued := e.helpersIssued + rules.length
    helperRules := e.helperRules ++ rules.map HelperRule.ofRule }

namespace Emission

variable (e : Emission) (rules more : List Rule)

@[simp] theorem withHelpers_scope : (e.withHelpers rules).scope = e.scope := rfl

@[simp] theorem withHelpers_helpersIssued :
    (e.withHelpers rules).helpersIssued = e.helpersIssued + rules.length := rfl

@[simp] theorem withHelpers_helperRules :
    (e.withHelpers rules).helperRules = e.helperRules ++ rules.map HelperRule.ofRule := rfl

@[simp] theorem withHelpers_nil : e.withHelpers [] = e := by
  simp [withHelpers]

@[simp] theorem withHelpers_withHelpers :
    (e.withHelpers rules).withHelpers more = e.withHelpers (rules ++ more) := by
  simp [withHelpers, Nat.add_assoc]

end Emission

namespace Predicate

/-- How many helpers a predicate takes: one for each negation of a composite predicate. -/
def helperCount : Predicate → Nat
  | .tag _ => 0
  | .and left right | .or left right => left.helperCount + right.helperCount
  | .not (.tag _) => 0
  | .not operand => operand.helperCount + 1

/-- The body of a predicate when the next helper has the given number. -/
def bodyFrom (scope : Option String) (path : String) : Predicate → Nat → Body
  | .tag name, _ => .holds (.mustHaveTag path name)
  | .and left right, n =>
    .both (left.bodyFrom scope path n) (right.bodyFrom scope path (n + left.helperCount))
  | .or left right, n =>
    .either (left.bodyFrom scope path n) (right.bodyFrom scope path (n + left.helperCount))
  | .not (.tag name), _ => .absent (.mustHaveTag path name)
  | .not _, n => .absent (.helper (Emission.helperName scope n))

/-- The rules of the helpers of a predicate, those of helpers further in before the others. -/
def rulesFrom (scope : Option String) (path : String) : Predicate → Nat → List Rule
  | .tag _, _ => []
  | .and left right, n | .or left right, n =>
    left.rulesFrom scope path n ++ right.rulesFrom scope path (n + left.helperCount)
  | .not (.tag _), _ => []
  | .not operand, n =>
    operand.rulesFrom scope path (n + 1) ++
      [helperRule (Emission.helperName scope n) path (operand.bodyFrom scope path (n + 1))]

section Not

variable {operand : Predicate} (hoperand : ∀ name, operand ≠ .tag name)

include hoperand

theorem helperCount_not : (Predicate.not operand).helperCount = operand.helperCount + 1 := by
  rw [helperCount]
  exact hoperand

theorem bodyFrom_not (scope : Option String) (path : String) (n : Nat) :
    (Predicate.not operand).bodyFrom scope path n =
      .absent (.helper (Emission.helperName scope n)) := by
  rw [bodyFrom]
  exact hoperand

theorem rulesFrom_not (scope : Option String) (path : String) (n : Nat) :
    (Predicate.not operand).rulesFrom scope path n = operand.rulesFrom scope path (n + 1) ++
      [helperRule (Emission.helperName scope n) path (operand.bodyFrom scope path (n + 1))] := by
  rw [rulesFrom]
  exact hoperand

end Not

theorem length_rulesFrom (scope : Option String) (path : String) (p : Predicate) (n : Nat) :
    (p.rulesFrom scope path n).length = p.helperCount := by
  fun_induction rulesFrom scope path p n <;> simp_all [helperCount]

/-- What `body` gives: the body, and an emission with the rules of the helpers in addition. -/
theorem body_eq (path : String) (p : Predicate) (e : Emission) :
    p.body path e = (p.bodyFrom e.scope path e.helpersIssued,
      e.withHelpers (p.rulesFrom e.scope path e.helpersIssued)) := by
  fun_induction body path p e with
  | case1 name e => simp [bodyFrom, rulesFrom]
  | case2 e left right l e₁ hleft r e₂ hright ihl ihr
  | case3 e left right l e₁ hleft r e₂ hright ihl ihr =>
    rw [hleft] at ihl
    rw [hright] at ihr
    cases ihl
    cases ihr
    simp [bodyFrom, rulesFrom, length_rulesFrom]
  | case4 e name => simp [bodyFrom, rulesFrom]
  | case5 e operand hoperand relation e₁ hnext inner e₂ hinner ih =>
    rw [hinner] at ih
    cases hnext
    cases ih
    simp [bodyFrom, rulesFrom, Emission.withHelpers, Emission.addRule,
      HelperRule.ofRule, helperRule, Atom.helper, Nat.add_assoc, Nat.add_comm]

/-- The helpers of a predicate are numbered without gaps, each with a rule of its own. -/
theorem heads_rulesFrom (scope : Option String) (path : String) (p : Predicate) (n : Nat) :
    ((p.rulesFrom scope path n).map (·.head)).Perm
      ((List.range' n p.helperCount).map fun m => .helper (Emission.helperName scope m)) := by
  fun_induction rulesFrom scope path p n with
  | case1 => simp [helperCount]
  | case2 left right n ihl ihr | case3 left right n ihl ihr =>
    rw [helperCount, ← List.range'_append_1, List.map_append, List.map_append]
    exact ihl.append ihr
  | case4 => simp [helperCount]
  | case5 operand n hoperand ih =>
    rw [helperCount_not hoperand, List.range'_succ, List.map_append, List.map_cons]
    exact (List.perm_append_singleton _ _).trans (ih.cons _)

/-- The rule of a helper has the guard of its path, and the body below it starts with the next
    number. -/
theorem exists_of_mem_rulesFrom {scope : Option String} {path : String} {p : Predicate} {n : Nat}
    {rule : Rule} (h : rule ∈ p.rulesFrom scope path n) :
    ∃ (m : Nat) (inner : Predicate), n ≤ m ∧ m < n + p.helperCount ∧
      rule = helperRule (Emission.helperName scope m) path (inner.bodyFrom scope path (m + 1)) := by
  fun_induction rulesFrom scope path p n with
  | case1 => simp at h
  | case2 left right n ihl ihr | case3 left right n ihl ihr =>
    rw [helperCount]
    obtain h | h := List.mem_append.mp h
    · obtain ⟨m, inner, hle, hlt, h⟩ := ihl h
      exact ⟨m, inner, hle, by omega, h⟩
    · obtain ⟨m, inner, hle, hlt, h⟩ := ihr h
      exact ⟨m, inner, by omega, by omega, h⟩
  | case4 => simp at h
  | case5 operand n hoperand ih =>
    rw [helperCount_not hoperand]
    obtain h | h := List.mem_append.mp h
    · obtain ⟨m, inner, hle, hlt, h⟩ := ih h
      exact ⟨m, inner, by omega, by omega, h⟩
    · exact ⟨n, operand, Nat.le_refl _, by omega, by simpa using h⟩

end Predicate

end InfoFlow
