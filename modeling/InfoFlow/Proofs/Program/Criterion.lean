import Mathlib.Data.Set.Subsingleton
import InfoFlow.Proofs.Program.Meaning

namespace InfoFlow

open Datalog (Atom Derives Rule Statement Tuple clauses facts)

open Classical in
/-- The predicate of a check holds for an owner, by the tags that are required of the data there. -/
def TagCheck.HoldsFor (c : TagCheck) (tagged : Set (String × String × String))
    (owner : String) : Prop :=
  c.predicate.eval (fun tag => decide ((c.path.term, owner, tag) ∈ tagged)) = true

/-- The labels under which checks are announced. -/
def announcedLabels (list : List Statement) : Set String :=
  {label | ∃ path, Atom.isCheck label path ∈ facts "isCheck" list}

/-- The labels that are derived, whoever the owner is. -/
def derivedLabels (outcome : Set Tuple) : Set String :=
  {label | ∃ owner path, ⟨"check", [label, owner, path]⟩ ∈ outcome}

namespace Program

variable {scope : Option String} {program : Program}

/-- Each check is announced under the label with its number. -/
theorem mem_announcedLabels_iff {label : String} :
    label ∈ announcedLabels (program.statements scope) ↔
      ∃ k c, program.checks[k]? = some c ∧ label = Emission.label scope k := by
  rw [announcedLabels, (facts_statements scope program).2.2.2]
  constructor
  · rintro ⟨path, h⟩
    obtain ⟨emitted, hmem, heq⟩ := List.mem_map.mp h
    obtain ⟨k, c, j, hk, rfl⟩ := exists_getElem?_of_mem_emittedFrom hmem
    obtain ⟨hlabel, _⟩ : Emission.label scope k = label ∧ c.path.term = path := by
      simpa [TagCheck.announcement, Atom.isCheck] using heq
    exact ⟨k, c, hk, hlabel.symm⟩
  · rintro ⟨k, c, hk, rfl⟩
    refine ⟨c.path.term, List.mem_iff_getElem?.mpr ⟨k, ?_⟩⟩
    simp [getElem?_emittedFrom, hk, TagCheck.announcement]

/-- A rule that derives labels is the rule of a check. -/
theorem exists_check_of_mem_rules {rule : Rule} (h : rule ∈ program.rules scope)
    (hhead : rule.head.relation = "check") : ∃ k c, program.checks[k]? = some c ∧
      rule.head = .checkHolds (Emission.label scope k) c.path.term := by
  obtain h | h := List.mem_append.mp h
  · obtain ⟨emitted, hmem, rfl⟩ := List.mem_map.mp h
    obtain ⟨k, c, j, hk, rfl⟩ := exists_getElem?_of_mem_emittedFrom hmem
    exact ⟨k, c, hk, by rw [Nat.zero_add, TagCheck.ruleFrom]⟩
  · obtain ⟨j, _, _, _, rfl⟩ := exists_of_mem_helpersFrom h
    exact absurd hhead (Emission.helperName_ne_check scope j)

section Outcome

variable {owns : Set (String × String)} {tagged : Set (String × String × String)}
  {outcome : Set Tuple}
  (h : Derives ((program.rules scope).map Rule.clause) (given owns tagged) outcome)

include h

/-- A label is derived when the predicate of its check holds for some owner of the path. -/
theorem mem_derivedLabels_iff {label : String} : label ∈ derivedLabels outcome ↔
    ∃ k c, program.checks[k]? = some c ∧ label = Emission.label scope k ∧
      ∃ owner, (owner, c.path.term) ∈ owns ∧ c.HoldsFor tagged owner := by
  constructor
  · rintro ⟨owner, path, hmem⟩
    -- No label is given, so it comes from a rule, and only the rules of checks derive labels.
    obtain (⟨_, _, _, heq⟩ | ⟨_, _, _, _, heq⟩) | ⟨clause, hclause, who, _, heq⟩ :=
      (h.mem_iff _).mp hmem
    · simp at heq
    · simp at heq
    · obtain ⟨rule, hrule, rfl⟩ := List.mem_map.mp hclause
      obtain ⟨k, c, hk, hhead⟩ := exists_check_of_mem_rules hrule (congrArg Tuple.relation heq)
      obtain ⟨rfl, rfl, rfl⟩ :
          Emission.label scope k = label ∧ who = owner ∧ c.path.term = path := by
        simpa [Rule.clause, hhead, Atom.tuple, Atom.checkHolds, Datalog.Term.value] using heq
      exact ⟨k, c, hk, rfl, who, (check_mem_outcome_iff h hk who).mp hmem⟩
  · rintro ⟨k, c, hk, rfl, owner, howner⟩
    exact ⟨owner, c.path.term, (check_mem_outcome_iff h hk owner).mpr howner⟩

/-- The labels agree when each check holds for some owner of its path. -/
theorem announcedLabels_eq_derivedLabels_iff :
    announcedLabels (program.statements scope) = derivedLabels outcome ↔
      ∀ c ∈ program.checks, ∃ owner, (owner, c.path.term) ∈ owns ∧ c.HoldsFor tagged owner := by
  have hderived : derivedLabels outcome ⊆ announcedLabels (program.statements scope) := by
    intro label hlabel
    obtain ⟨k, c, hk, hlabel, _⟩ := (mem_derivedLabels_iff h).mp hlabel
    exact mem_announcedLabels_iff.mpr ⟨k, c, hk, hlabel⟩
  constructor
  · intro heq c hc
    obtain ⟨k, hk⟩ := List.mem_iff_getElem?.mp hc
    have hlabel : Emission.label scope k ∈ derivedLabels outcome :=
      heq ▸ mem_announcedLabels_iff.mpr ⟨k, c, hk, rfl⟩
    obtain ⟨j, other, hj, hlabel, howner⟩ := (mem_derivedLabels_iff h).mp hlabel
    obtain rfl := Emission.label_injective scope hlabel
    obtain rfl := Option.some.inj (hk.symm.trans hj)
    exact howner
  · intro hall
    refine Set.Subset.antisymm (fun label hlabel => ?_) hderived
    obtain ⟨k, c, hk, rfl⟩ := mem_announcedLabels_iff.mp hlabel
    exact (mem_derivedLabels_iff h).mpr ⟨k, c, hk, rfl, hall c (List.mem_of_getElem? hk)⟩

end Outcome

/-- What the comparison of labels tells about a valid program, on any ownership and any required
    tags. The announced labels are the derived ones exactly when the predicate of each check holds
    for some owner of its path. So it holds for every owner of a path that has no more than one, but
    nothing is said about the other owners of a path that has several. -/
theorem labels_agree_iff (program : Program) (hincludes : program.includes = [])
    (hvalid : program.Valid) (owns : Set (String × String))
    (tagged : Set (String × String × String)) :
    ∃ list, Datalog.read (program.render {}) = some list ∧
      (∃! outcome, Derives (clauses list) (given owns tagged) outcome) ∧
      ∀ outcome, Derives (clauses list) (given owns tagged) outcome →
        (announcedLabels list = derivedLabels outcome ↔
          ∀ c ∈ program.checks, ∃ owner, (owner, c.path.term) ∈ owns ∧ c.HoldsFor tagged owner) ∧
        (announcedLabels list = derivedLabels outcome →
          ∀ c ∈ program.checks, {owner | (owner, c.path.term) ∈ owns}.Subsingleton →
            ∀ owner, (owner, c.path.term) ∈ owns → c.HoldsFor tagged owner) := by
  refine ⟨program.statements none, read_render hincludes hvalid Emission.readable_none, ?_⟩
  rw [clauses_statements]
  refine ⟨(stratified_rules none program).existsUnique_derives _, fun outcome houtcome => ?_⟩
  have hiff := announcedLabels_eq_derivedLabels_iff houtcome
  refine ⟨hiff, fun hagree c hc hsingle owner howner => ?_⟩
  obtain ⟨who, hwho, hholds⟩ := hiff.mp hagree c hc
  obtain rfl := hsingle hwho howner
  exact hholds

/-- A program with one check for a tag, and the owners of its path. -/
def ownedBy (owners : List String) : Program :=
  let path : AccessPath := ⟨.connection "R" "P" "h", []⟩
  { ownership := owners.map fun owner => ⟨owner, path⟩, checks := [⟨path, .tag "t"⟩] }

theorem valid_ownedBy {owners : List String} (h : ∀ owner ∈ owners, Identifier.Valid owner) :
    (ownedBy owners).Valid := by
  refine ⟨nofun, fun o ho => ?_, nofun, fun c hc => ?_⟩
  · obtain ⟨owner, howner, rfl⟩ := List.mem_map.mp ho
    exact Ownership.check_eq_ok_iff.mpr ⟨h owner howner, AccessPath.check_eq_ok_iff.mp rfl⟩
  · obtain rfl : c = _ := by simpa [ownedBy] using hc
    rfl

/-- With one owner the labels agree only if the data has the tag. -/
theorem labels_agree_ownedBy_one : (ownedBy ["alice"]).includes = [] ∧ (ownedBy ["alice"]).Valid ∧
    ∃ list outcome, Datalog.read ((ownedBy ["alice"]).render {}) = some list ∧
      Derives (clauses list) (given {("alice", "R.P.h")} ∅) outcome ∧
      announcedLabels list ≠ derivedLabels outcome := by
  have hvalid := @valid_ownedBy ["alice"] (by decide)
  obtain ⟨list, hread, ⟨outcome, houtcome, _⟩, hagree⟩ :=
    labels_agree_iff (ownedBy ["alice"]) rfl hvalid {("alice", "R.P.h")} ∅
  refine ⟨rfl, hvalid, list, outcome, hread, houtcome, fun heq => ?_⟩
  obtain ⟨owner, _, hholds⟩ := (hagree outcome houtcome).1.mp heq _ (List.mem_cons_self ..)
  simp [TagCheck.HoldsFor, Predicate.eval] at hholds

/-- With two owners the labels agree though the data lacks the tag for one of them. -/
theorem labels_agree_ownedBy_two : (ownedBy ["alice", "bob"]).includes = [] ∧
    (ownedBy ["alice", "bob"]).Valid ∧
    ∃ list outcome, Datalog.read ((ownedBy ["alice", "bob"]).render {}) = some list ∧
      Derives (clauses list)
        (given {("alice", "R.P.h"), ("bob", "R.P.h")} {("R.P.h", "alice", "t")}) outcome ∧
      announcedLabels list = derivedLabels outcome ∧
      ∃ c ∈ (ownedBy ["alice", "bob"]).checks,
        c.path.term = "R.P.h" ∧ ¬ c.HoldsFor {("R.P.h", "alice", "t")} "bob" := by
  have hvalid := @valid_ownedBy ["alice", "bob"] (by decide)
  have hterm : AccessPath.term ⟨.connection "R" "P" "h", []⟩ = "R.P.h" := rfl
  have hstratified := stratified_rules none (ownedBy ["alice", "bob"])
  obtain ⟨outcome, houtcome, _⟩ := hstratified.existsUnique_derives
    (given {("alice", "R.P.h"), ("bob", "R.P.h")} {("R.P.h", "alice", "t")})
  refine ⟨rfl, hvalid, _, outcome, read_render rfl hvalid Emission.readable_none, ?_, ?_,
    _, List.mem_cons_self .., rfl, ?_⟩
  · rwa [clauses_statements]
  · rw [announcedLabels_eq_derivedLabels_iff houtcome]
    intro c hc
    obtain rfl : c = _ := by simpa [ownedBy] using hc
    exact ⟨"alice", .inl rfl, by simp [TagCheck.HoldsFor, Predicate.eval, hterm]⟩
  · simp [TagCheck.HoldsFor, Predicate.eval]

end Program

end InfoFlow
