import Mathlib.Algebra.GroupWithZero.Nat
import Mathlib.Data.List.Nodup
import InfoFlow.Program.Basic
import InfoFlow.Proofs.Datalog.Evaluation
import InfoFlow.Proofs.Emission.Names
import InfoFlow.Proofs.Predicate.Compiled

namespace InfoFlow

open Datalog (Atom Rule Tuple)

/-- The fact that announces a check under the label with a number. -/
def TagCheck.announcement (scope : Option String) (c : TagCheck) (n : Nat) : Atom :=
  .isCheck (Emission.label scope n) c.path.term

/-- The rule of a check under the label with number `n`, when its first helper has number `m`. -/
def TagCheck.ruleFrom (scope : Option String) (c : TagCheck) (n m : Nat) : Rule :=
  ⟨.checkHolds (Emission.label scope n) c.path.term, .owns .owner c.path.term,
    c.predicate.bodyFrom scope c.path.term m⟩

/-- The text of a check and the helpers that are collected for it. -/
theorem TagCheck.emit_eq (c : TagCheck) (e : Emission) : c.emit e =
    ((c.announcement e.scope e.labelsIssued).render ++ ". " ++
        (c.ruleFrom e.scope e.labelsIssued e.helpersIssued).render,
      { e.withHelpers (c.predicate.rulesFrom e.scope c.path.term e.helpersIssued) with
        labelsIssued := e.labelsIssued + 1 }) := by
  simp only [emit, rule, Emission.nextLabel, Predicate.body_eq]
  rfl

namespace Program

/-- The facts and rules of checks, when the numbers of labels and of helpers start as given. -/
def emittedFrom (scope : Option String) : List TagCheck → Nat → Nat → List (Atom × Rule)
  | [], _, _ => []
  | c :: rest, n, m =>
    (c.announcement scope n, c.ruleFrom scope n m) ::
      emittedFrom scope rest (n + 1) (m + c.predicate.helperCount)

/-- The rules of the helpers of checks, when their numbers start as given. -/
def helpersFrom (scope : Option String) : List TagCheck → Nat → List Rule
  | [], _ => []
  | c :: rest, m =>
    c.predicate.rulesFrom scope c.path.term m ++
      helpersFrom scope rest (m + c.predicate.helperCount)

/-- The line of a check. -/
def emittedLine (emitted : Atom × Rule) : String :=
  emitted.1.render ++ ". " ++ emitted.2.render ++ "\n"

/-- The lines of checks and the helpers that they take. -/
theorem checkLines_eq (checks : List TagCheck) (e : Emission) :
    checkLines checks e =
      ((emittedFrom e.scope checks e.labelsIssued e.helpersIssued).map emittedLine,
        { e.withHelpers (helpersFrom e.scope checks e.helpersIssued) with
          labelsIssued := e.labelsIssued + checks.length }) := by
  induction checks generalizing e with
  | nil => simp [checkLines, emittedFrom, helpersFrom]
  | cons c rest ih =>
    simp only [checkLines, TagCheck.emit_eq, ih]
    simp [emittedFrom, helpersFrom, emittedLine, Emission.withHelpers, Predicate.length_rulesFrom,
      Nat.add_assoc, Nat.add_comm 1]

variable {scope : Option String}

/-- How many helpers the predicates of checks take. -/
def helperTotal (checks : List TagCheck) : Nat :=
  (checks.map (·.predicate.helperCount)).sum

/-- The rules of the checks of a program, and after them those of their helpers. -/
def rules (scope : Option String) (program : Program) : List Rule :=
  (emittedFrom scope program.checks 0 0).map Prod.snd ++ helpersFrom scope program.checks 0

theorem getElem?_emittedFrom (checks : List TagCheck) (n m k : Nat) :
    (emittedFrom scope checks n m)[k]? = checks[k]?.map fun c =>
      (c.announcement scope (n + k),
        c.ruleFrom scope (n + k) (m + helperTotal (checks.take k))) := by
  induction checks generalizing n m k with
  | nil => simp [emittedFrom]
  | cons c rest ih =>
    cases k with
    | zero => simp [emittedFrom, helperTotal]
    | succ k =>
      have hn : n + 1 + k = n + (k + 1) := by omega
      simp [emittedFrom, ih, helperTotal, hn, Nat.add_assoc]

/-- The helpers of a check are among those of the program. -/
theorem rulesFrom_subset_helpersFrom {checks : List TagCheck} {k : Nat} {c : TagCheck}
    (hk : checks[k]? = some c) (m : Nat) :
    c.predicate.rulesFrom scope c.path.term (m + helperTotal (checks.take k)) ⊆
      helpersFrom scope checks m := by
  induction checks generalizing m k with
  | nil => simp at hk
  | cons first rest ih =>
    cases k with
    | zero =>
      obtain rfl : first = c := by simpa using hk
      simp [helpersFrom, helperTotal]
    | succ k =>
      have hrest := ih (k := k) (by simpa using hk) (m + first.predicate.helperCount)
      simp only [helpersFrom, helperTotal, List.take_succ_cons, List.map_cons, List.sum_cons,
        ← Nat.add_assoc]
      exact List.Subset.trans hrest (List.subset_append_right _ _)

/-- Every helper belongs to the predicate of a check. -/
theorem exists_check_of_mem_helpersFrom {checks : List TagCheck} {m : Nat} {rule : Rule}
    (h : rule ∈ helpersFrom scope checks m) :
    ∃ c ∈ checks, ∃ j, rule ∈ c.predicate.rulesFrom scope c.path.term j := by
  induction checks generalizing m with
  | nil => simp [helpersFrom] at h
  | cons c rest ih =>
    obtain h | h := List.mem_append.mp h
    · exact ⟨c, by simp, m, h⟩
    · obtain ⟨other, hother, hrule⟩ := ih h
      exact ⟨other, by simp [hother], hrule⟩

theorem exists_of_mem_helpersFrom {checks : List TagCheck} {m : Nat} {rule : Rule}
    (h : rule ∈ helpersFrom scope checks m) :
    ∃ (j : Nat) (path : String) (inner : Predicate), j < m + helperTotal checks ∧
      rule = Predicate.helperRule (Emission.helperName scope j) path
        (inner.bodyFrom scope path (j + 1)) := by
  induction checks generalizing m with
  | nil => simp [helpersFrom] at h
  | cons c rest ih =>
    simp only [helperTotal, List.map_cons, List.sum_cons]
    obtain h | h := List.mem_append.mp h
    · obtain ⟨j, inner, _, hlt, rfl⟩ := Predicate.exists_of_mem_rulesFrom h
      exact ⟨j, c.path.term, inner, by omega, rfl⟩
    · obtain ⟨j, path, inner, hlt, rfl⟩ := ih h
      exact ⟨j, path, inner, by simp only [helperTotal] at hlt; omega, rfl⟩

/-- All helpers of a program are numbered without gaps. -/
theorem heads_helpersFrom (checks : List TagCheck) (m : Nat) :
    ((helpersFrom scope checks m).map (·.head)).Perm
      ((List.range' m (helperTotal checks)).map fun j =>
        .helper (Emission.helperName scope j)) := by
  induction checks generalizing m with
  | nil => simp [helpersFrom, helperTotal]
  | cons c rest ih =>
    simp only [helpersFrom, helperTotal, List.map_cons, List.sum_cons, List.map_append,
      ← List.range'_append_1]
    exact (Predicate.heads_rulesFrom scope c.path.term c.predicate m).append (ih _)

theorem nodup_heads_helpersFrom (checks : List TagCheck) (m : Nat) :
    ((helpersFrom scope checks m).map (·.head)).Nodup := by
  rw [(heads_helpersFrom checks m).nodup_iff]
  refine (List.nodup_range' ..).map fun j k h => ?_
  exact Emission.helperName_injective scope (congrArg Atom.relation h)

/-- What is emitted for a check has a label with the number of the check. -/
theorem exists_getElem?_of_mem_emittedFrom {checks : List TagCheck} {emitted : Atom × Rule}
    {n m : Nat} (h : emitted ∈ emittedFrom scope checks n m) :
    ∃ (k : Nat) (c : TagCheck) (j : Nat), checks[k]? = some c ∧
      emitted = (c.announcement scope (n + k), c.ruleFrom scope (n + k) j) := by
  obtain ⟨k, hk⟩ := List.mem_iff_getElem?.mp h
  rw [getElem?_emittedFrom, Option.map_eq_some_iff] at hk
  obtain ⟨c, hc, rfl⟩ := hk
  exact ⟨k, c, _, hc, rfl⟩

theorem exists_of_mem_emittedFrom {checks : List TagCheck} {emitted : Atom × Rule} {n m : Nat}
    (h : emitted ∈ emittedFrom scope checks n m) :
    ∃ c ∈ checks, ∃ k j, emitted = (c.announcement scope k, c.ruleFrom scope k j) := by
  obtain ⟨k, c, j, hk, rfl⟩ := exists_getElem?_of_mem_emittedFrom h
  exact ⟨c, List.mem_of_getElem? hk, _, _, rfl⟩

/-- The labels of checks are numbered without gaps. -/
theorem labels_emittedFrom (checks : List TagCheck) (n m : Nat) :
    (emittedFrom scope checks n m).map (·.2.head.args.head?) =
      (List.range' n checks.length).map fun k => some (.text (Emission.label scope k)) := by
  induction checks generalizing n m with
  | nil => rfl
  | cons c rest ih =>
    simp [emittedFrom, ih, List.range'_succ, TagCheck.ruleFrom, Atom.checkHolds]

theorem nodup_heads_emittedFrom (checks : List TagCheck) (n m : Nat) :
    ((emittedFrom scope checks n m).map (·.2.head)).Nodup := by
  refine List.Nodup.of_map (·.args.head?) ?_
  rw [List.map_map, Function.comp_def, labels_emittedFrom]
  refine (List.nodup_range' ..).map fun j k h => ?_
  exact Emission.label_injective scope (by simpa using h)

/-- Rules are for checks or for helpers. -/
theorem heads_rules {program : Program} {rule : Rule} (h : rule ∈ program.rules scope) :
    (∃ label path, rule.head = .checkHolds label path) ∨
      ∃ j, rule.head = .helper (Emission.helperName scope j) := by
  obtain h | h := List.mem_append.mp h
  · obtain ⟨emitted, hmem, rfl⟩ := List.mem_map.mp h
    obtain ⟨c, _, k, m, rfl⟩ := exists_of_mem_emittedFrom hmem
    exact .inl ⟨_, _, rfl⟩
  · obtain ⟨j, path, inner, _, rfl⟩ := exists_of_mem_helpersFrom h
    exact .inr ⟨j, rfl⟩

theorem nodup_heads_rules (program : Program) : ((program.rules scope).map (·.head)).Nodup := by
  rw [rules, List.map_append, List.map_map, List.nodup_append']
  refine ⟨nodup_heads_emittedFrom .., nodup_heads_helpersFrom .., fun head hcheck hhelper => ?_⟩
  obtain ⟨emitted, hmem, rfl⟩ := List.mem_map.mp hcheck
  obtain ⟨c, _, k, m, rfl⟩ := exists_of_mem_emittedFrom hmem
  obtain ⟨rule, hrule, heq⟩ := List.mem_map.mp hhelper
  obtain ⟨j, path, inner, _, rfl⟩ := exists_of_mem_helpersFrom hrule
  exact Emission.helperName_ne_check scope j (congrArg Atom.relation heq)

/-- Different rules, and one rule for different owners, derive different tuples. -/
theorem eq_of_head_tuple_eq {program : Program} {rule other : Rule}
    (hrule : rule ∈ program.rules scope) (hother : other ∈ program.rules scope)
    {owner who : String} (h : other.head.tuple who = rule.head.tuple owner) :
    other = rule ∧ who = owner := by
  have hheads : other.head = rule.head ∧ who = owner := by
    have hrelation := congrArg Tuple.relation h
    have hvalues := congrArg Tuple.values h
    obtain ⟨label, path, hhead⟩ | ⟨j, hhead⟩ := heads_rules hrule <;>
      obtain ⟨label', path', hhead'⟩ | ⟨j', hhead'⟩ := heads_rules hother <;>
      rw [hhead, hhead'] at hrelation hvalues ⊢
    · obtain ⟨rfl, rfl, rfl⟩ : label' = label ∧ who = owner ∧ path' = path := by
        simpa [Atom.tuple, Atom.checkHolds, Datalog.Term.value] using hvalues
      exact ⟨rfl, rfl⟩
    · exact absurd hrelation (Emission.helperName_ne_check scope j')
    · exact absurd hrelation.symm (Emission.helperName_ne_check scope j)
    · have hname : Emission.helperName scope j' = Emission.helperName scope j := hrelation
      rw [hname]
      exact ⟨rfl, by simpa [Atom.tuple, Atom.helper, Datalog.Term.value] using hvalues⟩
  exact ⟨List.inj_on_of_nodup_map (nodup_heads_rules program) hother hrule hheads.1, hheads.2⟩

end Program

end InfoFlow
