import InfoFlow.Proofs.Program.Sentences

namespace InfoFlow

namespace Datalog

/-- The label that an atom is about, if its relation is one of labels. -/
def Atom.label? (a : Atom) : Option String :=
  if a.relation = "isCheck" ∨ a.relation = "check" then a.args.head?.bind Term.text? else none

namespace Sentence

/-- The labels that facts announce. -/
def announced (list : List Sentence) : List String :=
  (list.filterMap fact?).filterMap Atom.label?

/-- The labels that rules derive. -/
def derived (list : List Sentence) : List String :=
  (list.filterMap rule?).filterMap (·.head.label?)

/-- The relations that are declared. -/
def declared (list : List Sentence) : List String :=
  list.filterMap declared?

/-- The relations that rules define, apart from that of checks. -/
def defined (list : List Sentence) : List String :=
  ((list.filterMap rule?).map (·.head.relation)).filter (· ≠ "check")

variable (list more : List Sentence)

@[simp] theorem announced_append :
    announced (list ++ more) = announced list ++ announced more := by
  simp [announced]

@[simp] theorem derived_append : derived (list ++ more) = derived list ++ derived more := by
  simp [derived]

@[simp] theorem declared_append : declared (list ++ more) = declared list ++ declared more := by
  simp [declared]

@[simp] theorem defined_append : defined (list ++ more) = defined list ++ defined more := by
  simp [defined]

end Sentence

end Datalog

open Datalog (Atom Rule Sentence)

namespace Program

variable {scope : Option String}

theorem announced_emittedFrom (checks : List TagCheck) (n m : Nat) :
    (emittedFrom scope checks n m).filterMap (·.1.label?) =
      (List.range' n checks.length).map (Emission.label scope) := by
  induction checks generalizing n m with
  | nil => rfl
  | cons c rest ih =>
    have hlabel : (c.announcement scope n).label? = some (Emission.label scope n) := rfl
    simp [emittedFrom, ih, hlabel, List.range'_succ]

theorem derived_emittedFrom (checks : List TagCheck) (n m : Nat) :
    (emittedFrom scope checks n m).filterMap (·.2.head.label?) =
      (List.range' n checks.length).map (Emission.label scope) := by
  induction checks generalizing n m with
  | nil => rfl
  | cons c rest ih =>
    have hlabel : (c.ruleFrom scope n m).head.label? = some (Emission.label scope n) := rfl
    simp [emittedFrom, ih, hlabel, List.range'_succ]

theorem label?_helper (n : Nat) : (Atom.helper (Emission.helperName scope n)).label? = none := by
  have hcheck := Emission.helperName_ne_check scope n
  have hannounced : Emission.helperName scope n ≠ "isCheck" :=
    Emission.helperName_ne (c := 'k') (by simp) (by simp)
  simp [Atom.label?, Atom.helper, hcheck, hannounced]

/-- The labels of a text, as its facts announce them, are those of the numbers up to that of its
    checks. -/
theorem announced_sentences (scope : Option String) (program : Program) :
    Sentence.announced (program.sentences scope) =
      (List.range' 0 program.checks.length).map (Emission.label scope) := by
  have hclaim (claim : TagClaim) : claim.atom.label? = none := rfl
  have howns (ownership : Ownership) : ownership.atom.label? = none := rfl
  have hedge (edge : Edge) : edge.atom.label? = none := rfl
  simp [Sentence.announced, filterMap_fact?_sentences, List.filterMap_map, announced_emittedFrom,
    hclaim, howns, hedge]

/-- The rules derive the same labels in the same order. -/
theorem derived_sentences (scope : Option String) (program : Program) :
    Sentence.derived (program.sentences scope) =
      (List.range' 0 program.checks.length).map (Emission.label scope) := by
  have hhelpers : (helpersFrom scope program.checks 0).filterMap (·.head.label?) = [] := by
    refine List.filterMap_eq_nil_iff.mpr fun rule hrule => ?_
    obtain ⟨j, path, inner, _, rfl⟩ := exists_of_mem_helpersFrom hrule
    exact label?_helper j
  simp [Sentence.derived, filterMap_rule?_sentences, rules, List.filterMap_map,
    derived_emittedFrom, hhelpers]

/-- The relations that a text declares are those of the numbers up to that of its helpers, though in
    the order of their rules. -/
theorem declared_sentences (scope : Option String) (program : Program) :
    (Sentence.declared (program.sentences scope)).Perm
      ((List.range' 0 (helperTotal program.checks)).map (Emission.helperName scope)) := by
  rw [Sentence.declared, filterMap_declared?_sentences]
  simpa [Function.comp_def, Atom.helper] using
    (heads_helpersFrom program.checks 0).map Atom.relation

/-- Its rules define the relations that it declares. -/
theorem defined_sentences (scope : Option String) (program : Program) :
    Sentence.defined (program.sentences scope) = Sentence.declared (program.sentences scope) := by
  have hchecks : (((emittedFrom scope program.checks 0 0).map Prod.snd).map
      (·.head.relation)).filter (· ≠ "check") = [] := by
    refine List.filter_eq_nil_iff.mpr fun relation hrelation => ?_
    simp only [List.map_map, List.mem_map] at hrelation
    obtain ⟨emitted, hmem, rfl⟩ := hrelation
    obtain ⟨c, _, k, j, rfl⟩ := exists_of_mem_emittedFrom hmem
    simp [TagCheck.ruleFrom, Atom.checkHolds]
  have hhelpers : ((helpersFrom scope program.checks 0).map (·.head.relation)).filter
      (· ≠ "check") = (helpersFrom scope program.checks 0).map (·.head.relation) := by
    refine List.filter_eq_self.mpr fun relation hrelation => ?_
    obtain ⟨rule, hrule, rfl⟩ := List.mem_map.mp hrelation
    obtain ⟨j, path, inner, _, rfl⟩ := exists_of_mem_helpersFrom hrule
    simp [Predicate.helperRule, Atom.helper, Emission.helperName_ne_check]
  rw [Sentence.defined, Sentence.declared, filterMap_rule?_sentences,
    filterMap_declared?_sentences, rules, List.map_append, List.filter_append, hchecks, hhelpers,
    List.nil_append]

theorem nodup_announced (scope : Option String) (program : Program) :
    (Sentence.announced (program.sentences scope)).Nodup := by
  rw [announced_sentences]
  exact (List.nodup_range' ..).map (Emission.label_injective scope)

theorem nodup_declared (scope : Option String) (program : Program) :
    (Sentence.declared (program.sentences scope)).Nodup := by
  rw [(declared_sentences scope program).nodup_iff]
  exact (List.nodup_range' ..).map (Emission.helperName_injective scope)

section Namespaces

variable {s t : Option String}

theorem disjoint_announced (h : s ≠ t) (p q : Program) :
    List.Disjoint (Sentence.announced (p.sentences s)) (Sentence.announced (q.sentences t)) := by
  intro name hp hq
  rw [announced_sentences] at hp hq
  obtain ⟨m, _, rfl⟩ := List.mem_map.mp hp
  obtain ⟨n, _, heq⟩ := List.mem_map.mp hq
  exact h (Emission.label_injective2 heq).1.symm

theorem disjoint_declared (h : s ≠ t) (p q : Program) :
    List.Disjoint (Sentence.declared (p.sentences s)) (Sentence.declared (q.sentences t)) := by
  intro name hp hq
  rw [(declared_sentences s p).mem_iff] at hp
  rw [(declared_sentences t q).mem_iff] at hq
  obtain ⟨m, _, rfl⟩ := List.mem_map.mp hp
  obtain ⟨n, _, heq⟩ := List.mem_map.mp hq
  exact h (Emission.helperName_injective2 heq).1.symm

/-- Texts that are written in different namespaces, or one of them without a namespace, do not
    collide. They have no label and no helper relation in common; and put together they announce
    every label once and derive just these, and declare every helper relation once and define just
    these. -/
theorem names_disjoint_of_ne (h : s ≠ t) {e f : Emission} (he : Emission.start s = .ok e)
    (hf : Emission.start t = .ok f) (p q : Program) :
    p.render e = includeBlock p.includes ++ (p.layout s).render ∧
    q.render f = includeBlock q.includes ++ (q.layout t).render ∧
    List.Disjoint (Sentence.announced (p.sentences s)) (Sentence.announced (q.sentences t)) ∧
    List.Disjoint (Sentence.declared (p.sentences s)) (Sentence.declared (q.sentences t)) ∧
    let both := p.sentences s ++ q.sentences t
    (Sentence.announced both).Nodup ∧ Sentence.derived both = Sentence.announced both ∧
    (Sentence.declared both).Nodup ∧ Sentence.defined both = Sentence.declared both := by
  obtain rfl := Emission.eq_of_start_eq_ok he
  obtain rfl := Emission.eq_of_start_eq_ok hf
  have hlabels := disjoint_announced h p q
  have hhelpers := disjoint_declared h p q
  refine ⟨render_eq s p, render_eq t q, hlabels, hhelpers, ?_⟩
  simp only [Sentence.announced_append, Sentence.derived_append, Sentence.declared_append,
    Sentence.defined_append]
  refine ⟨?_, ?_, ?_, ?_⟩
  · exact (nodup_announced s p).append (nodup_announced t q) hlabels
  · rw [derived_sentences, derived_sentences, announced_sentences, announced_sentences]
  · exact (nodup_declared s p).append (nodup_declared t q) hhelpers
  · rw [defined_sentences, defined_sentences]

/-- A program with one check, the negation of a composite. -/
def neither : Program where
  checks := [⟨⟨.specification "P" "h", []⟩, .not (.or (.tag "a") (.tag "b"))⟩]

/-- Not even a namespace that is a label itself leads to a collision. -/
theorem names_disjoint_neither : Emission.start none = .ok {} ∧
    Emission.start (some "check_num_0") = .ok { scope := some "check_num_0" } ∧
    Sentence.announced (neither.sentences none) = ["check_num_0"] ∧
    Sentence.announced (neither.sentences (some "check_num_0")) = ["check_num_0_check_num_0"] ∧
    (Sentence.declared (neither.sentences none ++
      neither.sentences (some "check_num_0"))).Nodup := by
  have hnone : Emission.start none = .ok {} := rfl
  have hsome : Emission.start (some "check_num_0") = .ok { scope := some "check_num_0" } := rfl
  have hboth := names_disjoint_of_ne (by decide) hnone hsome neither neither
  exact ⟨hnone, hsome, by decide, by decide, hboth.2.2.2.2.2.2.1⟩

end Namespaces

end Program

end InfoFlow
