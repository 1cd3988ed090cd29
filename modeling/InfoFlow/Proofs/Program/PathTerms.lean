import InfoFlow.Proofs.Program.Collision
import InfoFlow.Proofs.Program.Sentences

namespace InfoFlow

namespace Datalog

/-- The columns of a relation that hold terms of access paths. Relations of helpers have none. -/
def pathColumns : String → List Nat
  | "edge" => [0, 1]
  | "mustHaveTag" => [0]
  | "claimHasTag" | "ownsAccessPath" | "isCheck" => [1]
  | "check" => [2]
  | _ => []

/-- The terms of access paths in an atom, from left to right. -/
def Atom.pathTerms (a : Atom) : List String :=
  (pathColumns a.relation).filterMap fun column => a.args[column]?.bind Term.text?

def Body.atoms : Body → List Atom
  | .holds a | .absent a => [a]
  | .both left right | .either left right => left.atoms ++ right.atoms

/-- The atoms of a rule, from left to right. -/
def Rule.atoms (rule : Rule) : List Atom :=
  rule.head :: rule.guard :: rule.body.atoms

def Sentence.atoms : Sentence → List Atom
  | .fact a => [a]
  | .declaration _ => []
  | .rule r => r.atoms

namespace Atom

@[simp] theorem pathTerms_edge (source target : String) :
    (edge source target).pathTerms = [source, target] := rfl

@[simp] theorem pathTerms_claimHasTag (particle path tag : String) :
    (claimHasTag particle path tag).pathTerms = [path] := rfl

@[simp] theorem pathTerms_owns (who : Term) (path : String) :
    (owns who path).pathTerms = [path] := rfl

@[simp] theorem pathTerms_mustHaveTag (path tag : String) :
    (mustHaveTag path tag).pathTerms = [path] := rfl

@[simp] theorem pathTerms_isCheck (label path : String) :
    (isCheck label path).pathTerms = [path] := rfl

@[simp] theorem pathTerms_checkHolds (label path : String) :
    (checkHolds label path).pathTerms = [path] := rfl

@[simp] theorem pathTerms_helper (relation : String) : (helper relation).pathTerms = [] := by
  refine List.filterMap_eq_nil_iff.mpr fun column _ => ?_
  cases column <;> rfl

end Atom

end Datalog

open Datalog (Atom Rule Sentence)

section

variable {scope : Option String} {path : String}

/-- The body of a predicate is about its own path alone. -/
theorem Predicate.pathTerms_bodyFrom {p : Predicate} {n : Nat} {a : Atom}
    (ha : a ∈ (p.bodyFrom scope path n).atoms) {t : String} (ht : t ∈ a.pathTerms) : t = path := by
  fun_induction bodyFrom scope path p n with
  | case1 name =>
    obtain rfl := List.mem_singleton.mp ha
    simpa using ht
  | case2 left right n ihl ihr | case3 left right n ihl ihr =>
    exact (List.mem_append.mp ha).elim ihl ihr
  | case4 name =>
    obtain rfl := List.mem_singleton.mp ha
    simpa using ht
  | case5 =>
    obtain rfl := List.mem_singleton.mp ha
    simp at ht

/-- So are the rules of its helpers. -/
theorem Predicate.pathTerms_rulesFrom {p : Predicate} {n : Nat} {rule : Rule}
    (hrule : rule ∈ p.rulesFrom scope path n) {a : Atom} (ha : a ∈ rule.atoms) {t : String}
    (ht : t ∈ a.pathTerms) : t = path := by
  obtain ⟨m, inner, _, _, rfl⟩ := exists_of_mem_rulesFrom hrule
  obtain rfl | ha := List.mem_cons.mp ha
  · simp [helperRule] at ht
  · obtain rfl | ha := List.mem_cons.mp ha
    · simpa [helperRule] using ht
    · exact pathTerms_bodyFrom ha ht

theorem TagCheck.pathTerms_ruleFrom {c : TagCheck} {n m : Nat} {a : Atom}
    (ha : a ∈ (c.ruleFrom scope n m).atoms) {t : String} (ht : t ∈ a.pathTerms) :
    t = c.path.term := by
  obtain rfl | ha := List.mem_cons.mp ha
  · simpa [ruleFrom] using ht
  · obtain rfl | ha := List.mem_cons.mp ha
    · simpa [ruleFrom] using ht
    · exact Predicate.pathTerms_bodyFrom ha ht

end

namespace Program

/-- A part of the program is about the path. -/
inductive Mentions (program : Program) : AccessPath → Prop where
  | claim {claim : TagClaim} (h : claim ∈ program.claims) : Mentions program claim.path
  | ownership {ownership : Ownership} (h : ownership ∈ program.ownership) :
    Mentions program ownership.path
  | source {edge : Edge} (h : edge ∈ program.edges) : Mentions program edge.source
  | target {edge : Edge} (h : edge ∈ program.edges) : Mentions program edge.target
  | check {check : TagCheck} (h : check ∈ program.checks) : Mentions program check.path

theorem mem_paths_iff {program : Program} {path : AccessPath} :
    path ∈ program.paths ↔ program.Mentions path := by
  constructor
  · intro h
    simp only [paths, List.mem_append, List.mem_map, List.mem_flatMap, List.mem_cons,
      List.not_mem_nil, or_false] at h
    obtain ((⟨claim, h, rfl⟩ | ⟨ownership, h, rfl⟩) | ⟨edge, h, rfl | rfl⟩) | ⟨check, h, rfl⟩ := h
    · exact .claim h
    · exact .ownership h
    · exact .source h
    · exact .target h
    · exact .check h
  · rintro (h | h | h | h | h) <;>
      simp only [paths, List.mem_append, List.mem_map, List.mem_flatMap]
    · exact .inl (.inl (.inl ⟨_, h, rfl⟩))
    · exact .inl (.inl (.inr ⟨_, h, rfl⟩))
    · exact .inl (.inr ⟨_, h, by simp⟩)
    · exact .inl (.inr ⟨_, h, by simp⟩)
    · exact .inr ⟨_, h, rfl⟩

/-- The search for collisions finds none when no two paths with the same term are different. -/
theorem collision?_eq_none_iff_forall_mentions {program : Program} : program.collision? = none ↔
    ∀ p q, program.Mentions p → program.Mentions q → p.term = q.term → p = q := by
  rw [collision?_eq_none_iff]
  simp only [AccessPath.Unambiguous, mem_paths_iff]
  exact ⟨fun h p q hp hq => h p hp q hq, fun h p hp q hq => h p q hp hq⟩

section

variable {scope : Option String}

theorem pathTerms_announcements (checks : List TagCheck) (n m : Nat) :
    (emittedFrom scope checks n m).flatMap (·.1.pathTerms) = checks.map (·.path.term) := by
  induction checks generalizing n m with
  | nil => rfl
  | cons c rest ih => simp [emittedFrom, TagCheck.announcement, ih]

/-- The facts of a text name the paths of the program, one after the other. -/
theorem pathTerms_facts (scope : Option String) (program : Program) :
    ((program.sentences scope).filterMap Sentence.fact?).flatMap Atom.pathTerms =
      program.paths.map AccessPath.term := by
  have hclaim (claim : TagClaim) : claim.atom.pathTerms = [claim.path.term] := rfl
  have howns (ownership : Ownership) : ownership.atom.pathTerms = [ownership.path.term] := rfl
  have hedge (edge : Edge) : edge.atom.pathTerms = [edge.source.term, edge.target.term] := rfl
  simp [filterMap_fact?_sentences, pathTerms_announcements, paths, List.flatMap_map, hclaim, howns,
    hedge, List.map_flatMap, Function.comp_def, ← List.map_eq_flatMap]

/-- The rules of a text are about the paths of its checks. -/
theorem pathTerms_rules {program : Program} {rule : Rule} (hrule : rule ∈ program.rules scope)
    {a : Atom} (ha : a ∈ rule.atoms) {t : String} (ht : t ∈ a.pathTerms) :
    ∃ c ∈ program.checks, c.path.term = t := by
  obtain h | h := List.mem_append.mp hrule
  · obtain ⟨emitted, hmem, rfl⟩ := List.mem_map.mp h
    obtain ⟨c, hc, k, j, rfl⟩ := exists_of_mem_emittedFrom hmem
    exact ⟨c, hc, (TagCheck.pathTerms_ruleFrom ha ht).symm⟩
  · obtain ⟨c, hc, j, hmem⟩ := exists_check_of_mem_helpersFrom h
    exact ⟨c, hc, (Predicate.pathTerms_rulesFrom hmem ha ht).symm⟩

/-- Wherever a text names a path by its term, the program is about a path with that term. -/
theorem exists_mentions_of_mem_pathTerms {program : Program} {s : Sentence}
    (hs : s ∈ program.sentences scope) {a : Atom} (ha : a ∈ s.atoms) {t : String}
    (ht : t ∈ a.pathTerms) : ∃ path, program.Mentions path ∧ path.term = t := by
  cases s with
  | fact fact =>
    obtain rfl := List.mem_singleton.mp ha
    have hfact : a ∈ (program.sentences scope).filterMap Sentence.fact? :=
      List.mem_filterMap.mpr ⟨_, hs, rfl⟩
    have hterm := List.mem_flatMap_of_mem hfact ht
    rw [pathTerms_facts] at hterm
    obtain ⟨path, hpath, hterm⟩ := List.mem_map.mp hterm
    exact ⟨path, mem_paths_iff.mp hpath, hterm⟩
  | declaration relation => cases ha
  | rule rule =>
    have hrule : rule ∈ (program.sentences scope).filterMap Sentence.rule? :=
      List.mem_filterMap.mpr ⟨_, hs, rfl⟩
    rw [filterMap_rule?_sentences] at hrule
    obtain ⟨c, hc, hterm⟩ := pathTerms_rules hrule ha ht
    exact ⟨c.path, .check hc, hterm⟩

end

/-- The search for collisions is exact and covers the whole text. Nothing is reported exactly when
    no two different paths of the program have the same term. Then every term that stands for a path
    in a sentence of the text, in whatever namespace it is written, stands for one path only. A
    report is about the first collision in the order in which the facts of the text name the
    paths. -/
theorem first_collision_exact (program : Program) :
    (program.collision? = none ↔ ∀ p q, program.Mentions p → program.Mentions q →
      p.term = q.term → p = q) ∧
    (program.collision? = none → ∀ scope, ∀ s ∈ program.sentences scope, ∀ a ∈ s.atoms,
      ∀ t ∈ a.pathTerms, ∃! path, program.Mentions path ∧ path.term = t) ∧
    (∀ c, program.collision? = some c → c.FirstOf program.paths) ∧
    ∀ scope, program.render { scope } =
        includeBlock program.includes ++ (program.layout scope).render ∧
      program.paths.map AccessPath.term =
        ((program.sentences scope).filterMap Sentence.fact?).flatMap Atom.pathTerms := by
  refine ⟨collision?_eq_none_iff_forall_mentions, fun h scope s hs a ha t ht => ?_,
    fun c => firstOf_of_collision?_eq_some,
    fun scope => ⟨render_eq scope program, (pathTerms_facts scope program).symm⟩⟩
  obtain ⟨path, hpath, hterm⟩ := exists_mentions_of_mem_pathTerms hs ha ht
  refine ⟨path, ⟨hpath, hterm⟩, fun other ⟨hother, hotherTerm⟩ => ?_⟩
  exact collision?_eq_none_iff_forall_mentions.mp h other path hother hpath
    (hotherTerm.trans hterm.symm)

end Program

end InfoFlow
