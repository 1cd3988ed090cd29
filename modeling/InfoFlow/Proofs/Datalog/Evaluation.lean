import Mathlib.Logic.Relation
import Mathlib.Order.Bounds.Basic
import InfoFlow.Proofs.Datalog.Reading

namespace InfoFlow.Datalog

/-- A relation that holds for values. -/
structure Tuple where
  relation : String
  values : List String
deriving DecidableEq, Repr

/-- The value of an argument for an owner. -/
def Term.value (owner : String) : Term → String
  | .owner => owner
  | .text value => value

/-- What an atom says for an owner. -/
def Atom.tuple (atom : Atom) (owner : String) : Tuple :=
  ⟨atom.relation, atom.args.map (Term.value owner)⟩

/-- A condition for an owner. Its negations are judged in `judge`, all else in `known`. -/
def Formula.Holds (judge : Set Tuple) (owner : String) : Set Tuple → Formula → Prop
  | known, .atom a => a.tuple owner ∈ known
  | _, .neg operand => ¬ operand.Holds judge owner judge
  | known, .conj left right => left.Holds judge owner known ∧ right.Holds judge owner known
  | known, .disj left right => left.Holds judge owner known ∨ right.Holds judge owner known

/-- A set that holds the given tuples, and with the condition of a rule also its head. -/
def Closed (rules : List Clause) (given judge known : Set Tuple) : Prop :=
  given ⊆ known ∧ ∀ rule ∈ rules, ∀ owner,
    rule.condition.Holds judge owner known → rule.head.tuple owner ∈ known

/-- The outcome of rules on given tuples: the least set that holds them and is closed under the
    rules. Negation means absence, and what is absent is judged by the outcome itself. -/
def Derives (rules : List Clause) (given outcome : Set Tuple) : Prop :=
  IsLeast {known | Closed rules given outcome known} outcome

/-- The relations that a condition asks for. -/
def Formula.relations : Formula → List String
  | .atom a => [a.relation]
  | .neg operand => operand.relations
  | .conj left right | .disj left right => left.relations ++ right.relations

/-- No relation depends on itself: conditions ask for relations of lower rank only. -/
def Stratified (rules : List Clause) (rank : String → Nat) : Prop :=
  ∀ rule ∈ rules, ∀ relation ∈ rule.condition.relations, rank relation < rank rule.head.relation

/-- A condition is judged by the tuples of the relations that it asks for. -/
theorem Formula.Holds.mono {f : Formula} {judge judge' known known' : Set Tuple} {owner : String}
    (hjudge : ∀ t, t.relation ∈ f.relations → (t ∈ judge ↔ t ∈ judge'))
    (hknown : ∀ t, t.relation ∈ f.relations → t ∈ known → t ∈ known')
    (h : f.Holds judge owner known) : f.Holds judge' owner known' := by
  induction f generalizing judge judge' known known' with
  | atom a => exact hknown _ (by simp [Formula.relations, Atom.tuple]) h
  | neg operand ih =>
    intro hoperand
    exact h (ih (fun t ht => (hjudge t ht).symm) (fun t ht => (hjudge t ht).mpr) hoperand)
  | conj left right ihl ihr =>
    simp only [Formula.relations, List.mem_append] at hjudge hknown
    exact ⟨ihl (fun t ht => hjudge t (.inl ht)) (fun t ht => hknown t (.inl ht)) h.1,
      ihr (fun t ht => hjudge t (.inr ht)) (fun t ht => hknown t (.inr ht)) h.2⟩
  | disj left right ihl ihr =>
    simp only [Formula.relations, List.mem_append] at hjudge hknown
    exact h.imp (ihl (fun t ht => hjudge t (.inl ht)) (fun t ht => hknown t (.inl ht)))
      (ihr (fun t ht => hjudge t (.inr ht)) (fun t ht => hknown t (.inr ht)))

theorem Formula.holds_congr {f : Formula} {s t : Set Tuple} {owner : String}
    (h : ∀ tuple, tuple.relation ∈ f.relations → (tuple ∈ s ↔ tuple ∈ t)) :
    f.Holds s owner s ↔ f.Holds t owner t :=
  ⟨.mono h fun tuple ht => (h tuple ht).mp,
    .mono (fun tuple ht => (h tuple ht).symm) fun tuple ht => (h tuple ht).mpr⟩

/-- A tuple that is given, or the head of a rule whose condition holds in a set. -/
def Supported (rules : List Clause) (given known : Set Tuple) (t : Tuple) : Prop :=
  t ∈ given ∨ ∃ rule ∈ rules, ∃ owner,
    rule.condition.Holds known owner known ∧ rule.head.tuple owner = t

/-- An outcome consists of what it supports. No rank is needed for this. -/
theorem Derives.mem_iff {rules : List Clause} {given outcome : Set Tuple}
    (h : Derives rules given outcome) (t : Tuple) :
    t ∈ outcome ↔ Supported rules given outcome t := by
  obtain ⟨⟨hgiven, hrules⟩, hleast⟩ := h
  constructor
  · intro ht
    by_contra hnot
    have hclosed : Closed rules given outcome (outcome \ {t}) := by
      refine ⟨fun s hs => ⟨hgiven hs, ?_⟩, fun rule hrule owner hholds => ?_⟩
      · rintro rfl
        exact hnot (.inl hs)
      · have hheld := hholds.mono (fun _ _ => Iff.rfl) fun _ _ hs => hs.1
        refine ⟨hrules rule hrule owner hheld, ?_⟩
        intro hhead
        exact hnot (.inr ⟨rule, hrule, owner, hheld, hhead⟩)
    exact (hleast hclosed ht).2 rfl
  · rintro (ht | ⟨rule, hrule, owner, hholds, rfl⟩)
    · exact hgiven ht
    · exact hrules rule hrule owner hholds

/-- A relation that no rule has at its head consists of what is given of it. -/
theorem Derives.mem_iff_given {rules : List Clause} {given outcome : Set Tuple}
    (h : Derives rules given outcome) {t : Tuple}
    (hheads : ∀ rule ∈ rules, rule.head.relation ≠ t.relation) : t ∈ outcome ↔ t ∈ given := by
  rw [h.mem_iff]
  refine or_iff_left ?_
  rintro ⟨rule, hrule, owner, _, rfl⟩
  exact hheads rule hrule rfl

/-- What only one rule can derive holds exactly for the owners for which its condition does. -/
theorem Derives.head_mem_iff {rules : List Clause} {given outcome : Set Tuple}
    (h : Derives rules given outcome) {rule : Clause} (hrule : rule ∈ rules) {owner : String}
    (hgiven : rule.head.tuple owner ∉ given) (hunique : ∀ other ∈ rules, ∀ who,
      other.head.tuple who = rule.head.tuple owner → other = rule ∧ who = owner) :
    rule.head.tuple owner ∈ outcome ↔ rule.condition.Holds outcome owner outcome := by
  rw [h.mem_iff]
  constructor
  · rintro (hmem | ⟨other, hother, who, hholds, heq⟩)
    · exact absurd hmem hgiven
    · obtain ⟨rfl, rfl⟩ := hunique other hother who heq
      exact hholds
  · exact fun hholds => .inr ⟨rule, hrule, owner, hholds, rfl⟩

section Stratified

variable {rules : List Clause} {given : Set Tuple} {rank : String → Nat}

/-- Two sets that agree below a rank support the same tuples of that rank. -/
theorem Stratified.supported_congr (hrank : Stratified rules rank) {s t : Set Tuple} {n : Nat}
    (h : ∀ tuple, rank tuple.relation < n → (tuple ∈ s ↔ tuple ∈ t)) {tuple : Tuple}
    (htuple : rank tuple.relation ≤ n) :
    Supported rules given s tuple ↔ Supported rules given t tuple := by
  refine or_congr Iff.rfl (exists_congr fun rule => and_congr_right fun hrule =>
    exists_congr fun owner => and_congr_left ?_)
  rintro rfl
  refine Formula.holds_congr fun other hother => h other ?_
  exact (hrank rule hrule _ hother).trans_le htuple

/-- A set that consists of what it supports is the outcome, as no tuple supports itself. -/
theorem Stratified.derives_of_mem_iff (hrank : Stratified rules rank) {outcome : Set Tuple}
    (h : ∀ t, t ∈ outcome ↔ Supported rules given outcome t) : Derives rules given outcome := by
  refine ⟨⟨fun t ht => (h t).mpr (.inl ht), fun rule hrule owner hholds =>
    (h _).mpr (.inr ⟨rule, hrule, owner, hholds, rfl⟩)⟩, ?_⟩
  rintro known ⟨hgiven, hrules⟩ t ht
  induction hn : rank t.relation using Nat.strong_induction_on generalizing t with
  | _ n ih =>
    obtain hmem | ⟨rule, hrule, owner, hholds, rfl⟩ := (h t).mp ht
    · exact hgiven hmem
    · refine hrules rule hrule owner (hholds.mono (fun _ _ => Iff.rfl) fun s hs hmem => ?_)
      exact ih _ (hn ▸ hrank rule hrule _ hs) hmem rfl

/-- What is found in so many rounds, when each round judges by the round before it. -/
def round (rules : List Clause) (given : Set Tuple) : Nat → Set Tuple
  | 0 => ∅
  | n + 1 => {t | Supported rules given (round rules given n) t}

/-- The rounds settle a tuple once their number exceeds its rank. -/
theorem Stratified.mem_round_iff (hrank : Stratified rules rank) {t : Tuple} {m n : Nat}
    (hm : rank t.relation < m) (hn : rank t.relation < n) :
    t ∈ round rules given m ↔ t ∈ round rules given n := by
  induction hr : rank t.relation using Nat.strong_induction_on generalizing t m n with
  | _ r ih =>
    obtain ⟨m, rfl⟩ := Nat.exists_eq_add_one_of_ne_zero (Nat.ne_zero_of_lt hm)
    obtain ⟨n, rfl⟩ := Nat.exists_eq_add_one_of_ne_zero (Nat.ne_zero_of_lt hn)
    exact hrank.supported_congr (fun s hs => ih _ hs (by omega) (by omega) rfl) hr.le

/-- Without circular dependencies the rules have exactly one outcome. -/
theorem Stratified.existsUnique_derives (hrank : Stratified rules rank) (given : Set Tuple) :
    ∃! outcome, Derives rules given outcome := by
  refine ⟨{t | t ∈ round rules given (rank t.relation + 1)}, ?_, ?_⟩
  · refine hrank.derives_of_mem_iff fun t => ?_
    refine hrank.supported_congr (n := rank t.relation) (fun s hs => ?_) le_rfl
    exact hrank.mem_round_iff hs (Nat.lt_succ_self _)
  · intro outcome houtcome
    ext t
    induction hr : rank t.relation using Nat.strong_induction_on generalizing t with
    | _ r ih =>
      rw [houtcome.mem_iff]
      refine hrank.supported_congr (fun s hs => ?_) hr.le
      rw [ih _ hs s rfl]
      exact hrank.mem_round_iff (Nat.lt_succ_self _) (hr ▸ hs)

/-- One relation asks for another in the condition of a rule that derives it. -/
def DependsOn (rules : List Clause) (relation other : String) : Prop :=
  ∃ rule ∈ rules, rule.head.relation = relation ∧ other ∈ rule.condition.relations

/-- Ranks fall along dependencies, so these do not lead back. -/
theorem Stratified.not_dependsOn_self (hrank : Stratified rules rank) (relation : String) :
    ¬ Relation.TransGen (DependsOn rules) relation relation := by
  have hfalls {source target : String} (h : Relation.TransGen (DependsOn rules) source target) :
      rank target < rank source := by
    induction h with
    | single hstep =>
      obtain ⟨rule, hrule, rfl, htarget⟩ := hstep
      exact hrank rule hrule _ htarget
    | tail _ hstep ih =>
      obtain ⟨rule, hrule, rfl, htarget⟩ := hstep
      exact (hrank rule hrule _ htarget).trans ih
  exact fun h => (hfalls h).ne rfl

end Stratified

/-- Rules in an order in which they can be recorded one by one: each asks for the given relations
    and for those that rules before it derive. -/
inductive Ordered (given : List String) : List Clause → Prop
  | nil : Ordered given []
  | record {rules : List Clause} {rule : Clause} (before : Ordered given rules)
      (asks : ∀ relation ∈ rule.condition.relations,
        relation ∈ given ∨ relation ∈ rules.map (·.head.relation)) :
      Ordered given (rules ++ [rule])

theorem Ordered.append {given : List String} {rules more : List Clause} (h : Ordered given rules)
    (hmore : Ordered given more) : Ordered given (rules ++ more) := by
  induction hmore with
  | nil => rwa [List.append_nil]
  | record _ asks ih =>
    rw [← List.append_assoc]
    refine ih.record fun relation hrelation => (asks relation hrelation).imp_right fun hhead => ?_
    rw [List.map_append]
    exact List.mem_append_right _ hhead

end InfoFlow.Datalog
