import Mathlib.Data.Set.Basic
import Mathlib.Logic.Function.Basic
import InfoFlow.Proofs.Datalog.Evaluation
import InfoFlow.Proofs.Datalog.RoundTrip
import InfoFlow.Proofs.Emission.Names
import InfoFlow.Proofs.Predicate.Compiled

namespace InfoFlow.Predicate

open Datalog (Atom Body Formula Rule Tuple)

variable {scope : Option String} {path : String}

/-- A body asks for tags, and for helpers that it has rules for. -/
theorem relations_bodyFrom {p : Predicate} {n : Nat} {relation : String}
    (h : relation ∈ (p.bodyFrom scope path n).formula.relations) : relation = "mustHaveTag" ∨
      ∃ rule ∈ p.rulesFrom scope path n, rule.head.relation = relation := by
  fun_induction rulesFrom scope path p n with
  | case1 | case4 =>
    exact .inl (by simpa [bodyFrom, Body.formula, Formula.relations, Atom.mustHaveTag] using h)
  | case2 left right n ihl ihr | case3 left right n ihl ihr =>
    simp only [List.mem_append, or_and_right, exists_or]
    obtain h | h := List.mem_append.mp h
    · exact (ihl h).imp_right .inl
    · exact (ihr h).imp_right .inr
  | case5 operand n hoperand =>
    have hhelper : relation = Emission.helperName scope n := by
      simpa [bodyFrom, Body.formula, Formula.relations, Atom.helper] using h
    exact .inr ⟨_, List.mem_append_right _ (List.mem_singleton_self _), hhelper.symm⟩

/-- The helpers are numbered from the first number of the body on. -/
theorem relations_bodyFrom_numbered {p : Predicate} {n : Nat} {relation : String}
    (h : relation ∈ (p.bodyFrom scope path n).formula.relations) :
    relation = "mustHaveTag" ∨ ∃ m, n ≤ m ∧ relation = Emission.helperName scope m := by
  refine (relations_bodyFrom h).imp_right ?_
  rintro ⟨rule, hrule, rfl⟩
  obtain ⟨m, inner, hle, _, rfl⟩ := exists_of_mem_rulesFrom hrule
  exact ⟨m, hle, rfl⟩

/-- The rank of a relation, for helpers with numbers below a bound: a helper ranks above those with
    higher numbers, checks above all helpers, and tags and ownership have no rank. -/
noncomputable def helperRank (scope : Option String) (bound : Nat) : String → Nat :=
  Function.extend (Emission.helperName scope) (bound - ·) fun relation =>
    if relation = "check" then bound + 1 else 0

theorem helperRank_helperName (bound n : Nat) :
    helperRank scope bound (Emission.helperName scope n) = bound - n :=
  (Emission.helperName_injective scope).extend_apply ..

theorem helperRank_of_ne {relation : String} (h : ∀ n, Emission.helperName scope n ≠ relation)
    (bound : Nat) : helperRank scope bound relation =
      if relation = "check" then bound + 1 else 0 :=
  Function.extend_apply' _ _ _ fun ⟨n, hn⟩ => h n hn

theorem helperRank_check (bound : Nat) : helperRank scope bound "check" = bound + 1 :=
  helperRank_of_ne (Emission.helperName_ne_check scope) bound

theorem helperRank_mustHaveTag (bound : Nat) : helperRank scope bound "mustHaveTag" = 0 :=
  helperRank_of_ne (Emission.helperName_ne_mustHaveTag scope) bound

theorem helperRank_ownsAccessPath (bound : Nat) : helperRank scope bound "ownsAccessPath" = 0 :=
  helperRank_of_ne (Emission.helperName_ne_ownsAccessPath scope) bound

/-- A helper ranks above everything that its rule asks for. -/
theorem helperRank_lt {bound m : Nat} (hm : m < bound) {inner : Predicate} {relation : String}
    (h : relation ∈ (helperRule (Emission.helperName scope m) path
      (inner.bodyFrom scope path (m + 1))).clause.condition.relations) :
    helperRank scope bound relation < helperRank scope bound (Emission.helperName scope m) := by
  rw [helperRank_helperName]
  obtain rfl | h := List.mem_cons.mp h
  · simp only [helperRule, Atom.owns, helperRank_ownsAccessPath]
    omega
  · obtain rfl | ⟨j, hj, rfl⟩ := relations_bodyFrom_numbered h
    · rw [helperRank_mustHaveTag]
      omega
    · rw [helperRank_helperName]
      omega

/-- A body holds for an owner of the path exactly when the predicate does, if every helper holds
    for the owners of the path for whom its own body does. -/
theorem holds_bodyFrom_iff {known : Set Tuple} {owner : String} {present : String → Bool}
    (howner : (Atom.owns .owner path).tuple owner ∈ known)
    (hpresent : ∀ tag, present tag = true ↔ (Atom.mustHaveTag path tag).tuple owner ∈ known)
    {p : Predicate} {n : Nat} (hhelpers : ∀ rule ∈ p.rulesFrom scope path n,
      rule.head.tuple owner ∈ known ↔ rule.clause.condition.Holds known owner known) :
    (p.bodyFrom scope path n).formula.Holds known owner known ↔ p.eval present = true := by
  fun_induction rulesFrom scope path p n with
  | case1 name n => simp [bodyFrom, Body.formula, Formula.Holds, eval, hpresent]
  | case2 left right n ihl ihr | case3 left right n ihl ihr =>
    simp only [List.mem_append] at hhelpers
    simp [bodyFrom, Body.formula, Formula.Holds, eval, ihl fun rule h => hhelpers rule (.inl h),
      ihr fun rule h => hhelpers rule (.inr h)]
  | case4 name n => simp [bodyFrom, Body.formula, Formula.Holds, eval, ← hpresent]
  | case5 operand n hoperand ih =>
    simp only [List.mem_append] at hhelpers
    have hinner := ih fun rule h => hhelpers rule (.inl h)
    have hhelper := hhelpers _ (.inr (List.mem_singleton_self _))
    have hguard : (Formula.atom (.owns .owner path)).Holds known owner known := howner
    simp only [helperRule, Rule.clause, Formula.Holds] at hhelper
    simp [bodyFrom, Body.formula, Formula.Holds, eval, hhelper, hinner, howner]

end InfoFlow.Predicate
