import InfoFlow.Proofs.Predicate.Meaning
import InfoFlow.Proofs.Program.Text

namespace InfoFlow

open Datalog (Atom Derives Rule Stratified Tuple clauses facts)

namespace Program

variable {scope : Option String}

/-- No helper depends on itself, and nothing depends on checks. -/
theorem stratified_rules (scope : Option String) (program : Program) :
    Stratified ((program.rules scope).map Rule.clause)
      (Predicate.helperRank scope (helperTotal program.checks)) := by
  intro clause hclause relation hrelation
  obtain ⟨rule, hrule, rfl⟩ := List.mem_map.mp hclause
  obtain h | h := List.mem_append.mp hrule
  · obtain ⟨emitted, hmem, rfl⟩ := List.mem_map.mp h
    obtain ⟨c, _, k, m, rfl⟩ := exists_of_mem_emittedFrom hmem
    change Predicate.helperRank scope _ relation < Predicate.helperRank scope _ "check"
    rw [Predicate.helperRank_check]
    obtain rfl | hrelation := List.mem_cons.mp hrelation
    · simp [TagCheck.ruleFrom, Atom.owns, Predicate.helperRank_ownsAccessPath]
    · obtain rfl | ⟨j, _, rfl⟩ := Predicate.relations_bodyFrom_numbered hrelation
      · simp [Predicate.helperRank_mustHaveTag]
      · rw [Predicate.helperRank_helperName]
        omega
  · obtain ⟨m, path, inner, hm, rfl⟩ := exists_of_mem_helpersFrom h
    rw [Nat.zero_add] at hm
    exact Predicate.helperRank_lt hm hrelation

/-- Ownership and required tags as tuples. -/
def given (owns : Set (String × String)) (tagged : Set (String × String × String)) : Set Tuple :=
  {t | ∃ owner path, (owner, path) ∈ owns ∧ t = ⟨"ownsAccessPath", [owner, path]⟩} ∪
    {t | ∃ path owner tag, (path, owner, tag) ∈ tagged ∧ t = ⟨"mustHaveTag", [path, owner, tag]⟩}

section Outcome

variable {program : Program} {owns : Set (String × String)}
  {tagged : Set (String × String × String)} {outcome : Set Tuple}

/-- Rules derive nothing of what is given. -/
theorem head_ne_of_mem_rules {rule : Rule} (hrule : rule ∈ program.rules scope) :
    rule.head.relation ≠ "ownsAccessPath" ∧ rule.head.relation ≠ "mustHaveTag" := by
  obtain ⟨label, path, h⟩ | ⟨j, h⟩ := heads_rules hrule
  · rw [h]
    exact ⟨by simp [Atom.checkHolds], by simp [Atom.checkHolds]⟩
  · rw [h]
    exact ⟨Emission.helperName_ne_ownsAccessPath scope j,
      Emission.helperName_ne_mustHaveTag scope j⟩

variable (h : Derives ((program.rules scope).map Rule.clause) (given owns tagged) outcome)

include h

theorem owns_mem_outcome_iff (owner path : String) :
    (Atom.owns .owner path).tuple owner ∈ outcome ↔ (owner, path) ∈ owns := by
  rw [h.mem_iff_given]
  · simp [given, Atom.owns, Atom.tuple, Datalog.Term.value]
  · intro clause hclause
    obtain ⟨rule, hrule, rfl⟩ := List.mem_map.mp hclause
    exact (head_ne_of_mem_rules hrule).1

theorem mustHaveTag_mem_outcome_iff (owner path tag : String) :
    (Atom.mustHaveTag path tag).tuple owner ∈ outcome ↔ (path, owner, tag) ∈ tagged := by
  rw [h.mem_iff_given]
  · simp [given, Atom.mustHaveTag, Atom.tuple, Datalog.Term.value]
  · intro clause hclause
    obtain ⟨rule, hrule, rfl⟩ := List.mem_map.mp hclause
    exact (head_ne_of_mem_rules hrule).2

/-- What the head of a rule says is derived exactly when its condition holds. -/
theorem head_mem_outcome_iff {rule : Rule} (hrule : rule ∈ program.rules scope) (owner : String) :
    rule.head.tuple owner ∈ outcome ↔ rule.clause.condition.Holds outcome owner outcome := by
  have hclause : rule.clause ∈ (program.rules scope).map Rule.clause := List.mem_map_of_mem hrule
  refine h.head_mem_iff hclause ?_ ?_
  · rintro (⟨who, path, _, heq⟩ | ⟨path, who, tag, _, heq⟩)
    · exact (head_ne_of_mem_rules hrule).1 (congrArg Tuple.relation heq)
    · exact (head_ne_of_mem_rules hrule).2 (congrArg Tuple.relation heq)
  · intro clause hclause who heq
    obtain ⟨other, hother, rfl⟩ := List.mem_map.mp hclause
    obtain ⟨rfl, rfl⟩ := eq_of_head_tuple_eq hrule hother heq
    exact ⟨rfl, rfl⟩

open Classical in
/-- The label of a check is derived for the owners of its path for whom the predicate holds. -/
theorem check_mem_outcome_iff {k : Nat} {c : TagCheck} (hk : program.checks[k]? = some c)
    (owner : String) :
    ⟨"check", [Emission.label scope k, owner, c.path.term]⟩ ∈ outcome ↔
      (owner, c.path.term) ∈ owns ∧
        c.predicate.eval (fun tag => decide ((c.path.term, owner, tag) ∈ tagged)) = true := by
  have hrule : c.ruleFrom scope k (helperTotal (program.checks.take k)) ∈ program.rules scope := by
    refine List.mem_append_left _ (List.mem_map_of_mem (f := Prod.snd)
      (a := (c.announcement scope k, c.ruleFrom scope k _)) (List.mem_iff_getElem?.mpr ⟨k, ?_⟩))
    simp [getElem?_emittedFrom, hk]
  have hhead := head_mem_outcome_iff h hrule owner
  have howns := owns_mem_outcome_iff h owner c.path.term
  refine hhead.trans ((and_congr howns Iff.rfl).trans (and_congr_right fun howner => ?_))
  refine Predicate.holds_bodyFrom_iff (howns.mpr howner) (fun tag => ?_) fun rule hmem => ?_
  · rw [decide_eq_true_iff, mustHaveTag_mem_outcome_iff h]
  · have hhelper := rulesFrom_subset_helpersFrom hk 0 (by rwa [Nat.zero_add])
    exact head_mem_outcome_iff h (List.mem_append_right _ hhelper) owner

end Outcome

open Classical in
/-- The emitted rules mean what the checks do. Read back from the text of a valid program, they
    have exactly one outcome on any ownership and any required tags, and in it the label under
    which a check is announced is derived for an owner exactly when the owner owns the path of the
    check and the predicate holds of the tags required there. -/
theorem derives_check_iff (program : Program) (hincludes : program.includes = [])
    (hvalid : program.Valid) (owns : Set (String × String))
    (tagged : Set (String × String × String)) :
    ∃ list, Datalog.read (program.render {}) = some list ∧
      (∃! outcome, Derives (clauses list) (given owns tagged) outcome) ∧
      ∀ outcome, Derives (clauses list) (given owns tagged) outcome →
        ∀ k c, program.checks[k]? = some c →
          (facts "isCheck" list)[k]? = some (.isCheck (Emission.label none k) c.path.term) ∧
          ∀ owner, ⟨"check", [Emission.label none k, owner, c.path.term]⟩ ∈ outcome ↔
            (owner, c.path.term) ∈ owns ∧
              c.predicate.eval (fun tag => decide ((c.path.term, owner, tag) ∈ tagged)) = true := by
  refine ⟨program.statements none, read_render hincludes hvalid Emission.readable_none, ?_⟩
  rw [clauses_statements, (facts_statements none program).2.2.2]
  refine ⟨(stratified_rules none program).existsUnique_derives _, ?_⟩
  intro outcome houtcome k c hk
  refine ⟨?_, check_mem_outcome_iff houtcome hk⟩
  simp [getElem?_emittedFrom, hk, TagCheck.announcement]

/-- Two checks of one path. The second one is a negation within a negation, and its tags hold
    everything that separates the parts of a rule. -/
def nestedChecks : Program :=
  let path : AccessPath := ⟨.connection "r" "p" "h", [⟨"f"⟩]⟩
  { checks := [⟨path, .not (.or (.tag "a") (.tag "b"))⟩,
      ⟨path, .not (.and (.tag "x,(y)") (.not (.or (.tag "u;!v") (.tag ":-"))))⟩] }

/-- Of two owners that lack the first of the tags, the one that owns the path passes the check. -/
theorem derives_check_nested : nestedChecks.includes = [] ∧ nestedChecks.Valid ∧
    ∃ list outcome, Datalog.read (nestedChecks.render {}) = some list ∧
      Derives (clauses list) (given {("alice", "r.p.h.f")} {("r.p.h.f", "alice", "u;!v")}) outcome ∧
      ⟨"check", ["check_num_1", "alice", "r.p.h.f"]⟩ ∈ outcome ∧
      ⟨"check", ["check_num_1", "bob", "r.p.h.f"]⟩ ∉ outcome := by
  have hvalid : nestedChecks.Valid := by
    refine ⟨nofun, nofun, nofun, fun check hcheck => ?_⟩
    obtain rfl | rfl : check = _ ∨ check = _ := by simpa [nestedChecks] using hcheck
    · rfl
    · rfl
  obtain ⟨list, hread, ⟨outcome, houtcome, _⟩, hmeans⟩ := derives_check_iff nestedChecks rfl hvalid
    {("alice", "r.p.h.f")} {("r.p.h.f", "alice", "u;!v")}
  have hcheck := (hmeans outcome houtcome 1 _ rfl).2
  refine ⟨rfl, hvalid, list, outcome, hread, houtcome, (hcheck "alice").mpr ?_, fun h => ?_⟩
  · exact ⟨rfl, by simp [Predicate.eval]⟩
  · have := ((hcheck "bob").mp h).1
    simp at this

end Program

end InfoFlow
