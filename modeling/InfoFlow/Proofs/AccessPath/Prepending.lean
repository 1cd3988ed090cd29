import InfoFlow.Proofs.AccessPath.ChainSet

namespace InfoFlow.ChainSet

variable {selector other : Selector} {s t : ChainSet} {chain inner : Chain}

/-- What is behind the selector is what was in the set. -/
theorem cons_mem_prependToAll : selector :: inner ∈ s.prependToAll selector ↔ inner ∈ s := by
  rw [mem_prependToAll]
  constructor
  · rintro ⟨_, hmem, ⟨⟩⟩
    exact hmem
  · exact fun hmem => ⟨inner, hmem, rfl⟩

/-- An operation commutes with the step if it decides about a chain by whether the chain is in the
    one set and in the other, and takes in none that is in neither. -/
theorem prependToAll_eq_of_mem_iff (decides : Prop → Prop → Prop) {whole : ChainSet}
    (hnone : ¬ decides False False)
    (hinner : ∀ chain, chain ∈ whole ↔ decides (chain ∈ s) (chain ∈ t)) {deeper : ChainSet}
    (hdeeper : ∀ chain, chain ∈ deeper ↔
      decides (chain ∈ s.prependToAll selector) (chain ∈ t.prependToAll selector)) :
    whole.prependToAll selector = deeper := by
  refine eq_of_mem_iff fun chain => ?_
  rw [hdeeper]
  by_cases hchain : ∃ inner, selector :: inner = chain
  · obtain ⟨inner, rfl⟩ := hchain
    simp only [cons_mem_prependToAll, hinner]
  · -- No other chain is in any of the deeper sets.
    have hnot (u : ChainSet) : chain ∉ u.prependToAll selector := fun h =>
      hchain ((mem_prependToAll.mp h).imp fun _ => And.right)
    simp only [hnot, hnone]

theorem prependToAll_union : (s.union t).prependToAll selector =
    (s.prependToAll selector).union (t.prependToAll selector) :=
  prependToAll_eq_of_mem_iff Or (by simp) (fun _ => mem_union) fun _ => mem_union

theorem prependToAll_inter : (s.inter t).prependToAll selector =
    (s.prependToAll selector).inter (t.prependToAll selector) :=
  prependToAll_eq_of_mem_iff And (by simp) (fun _ => mem_inter) fun _ => mem_inter

theorem prependToAll_diff : (s.diff t).prependToAll selector =
    (s.prependToAll selector).diff (t.prependToAll selector) :=
  prependToAll_eq_of_mem_iff (fun first second => first ∧ ¬ second) (by simp)
    (fun _ => mem_diff) fun _ => mem_diff

theorem isSubset_prependToAll : (s.prependToAll selector).isSubset (t.prependToAll selector) =
    s.isSubset t := by
  rw [Bool.eq_iff_iff, isSubset_iff, isSubset_iff]
  constructor
  · intro h inner hinner
    exact cons_mem_prependToAll.mp (h _ (cons_mem_prependToAll.mpr hinner))
  · intro h chain hchain
    obtain ⟨inner, hinner, rfl⟩ := mem_prependToAll.mp hchain
    exact cons_mem_prependToAll.mpr (h inner hinner)

/-- Chains behind different selectors are different, whatever the sets. -/
theorem inter_prependToAll_of_ne (h : other ≠ selector) :
    (s.prependToAll selector).inter (t.prependToAll other) = empty := by
  refine eq_of_mem_iff fun chain => iff_of_false (fun hchain => ?_) not_mem_empty
  obtain ⟨hleft, hright⟩ := mem_inter.mp hchain
  obtain ⟨inner, _, rfl⟩ := mem_prependToAll.mp hleft
  obtain ⟨_, _, heq⟩ := mem_prependToAll.mp hright
  exact h (List.cons.inj heq).1

/-- A selector in front of all chains embeds the sets of chains, with their order and their algebra.
    Each chain of the set gives one chain, at the same place of the ascending list, and there are no
    others; chains compare behind the selector as they do without it. Union, intersection and
    difference may be taken before or after the step, one set is part of another exactly when it is
    so one step deeper, and sets behind different selectors have no chain in common. -/
theorem prependToAll_embeds (selector : Selector) (s t : ChainSet) :
    (s.prependToAll selector).size = s.size ∧
    (s.prependToAll selector).chains = s.chains.map (selector :: ·) ∧
    (∀ a b : Chain, compare (selector :: a) (selector :: b) = compare a b) ∧
    (∀ inner : Chain,
      (s.prependToAll selector).contains (selector :: inner) = s.contains inner) ∧
    (∀ chain : Chain, (s.prependToAll selector).contains chain = true →
      ∃ inner, chain = selector :: inner ∧ s.contains inner = true) ∧
    (s.union t).prependToAll selector =
      (s.prependToAll selector).union (t.prependToAll selector) ∧
    (s.inter t).prependToAll selector =
      (s.prependToAll selector).inter (t.prependToAll selector) ∧
    (s.diff t).prependToAll selector =
      (s.prependToAll selector).diff (t.prependToAll selector) ∧
    (s.prependToAll selector).isSubset (t.prependToAll selector) = s.isSubset t ∧
    ∀ other : Selector, other ≠ selector →
      (s.prependToAll selector).inter (t.prependToAll other) = empty := by
  refine ⟨size_prependToAll selector s, chains_prependToAll selector s,
    compare_cons_self selector, fun inner => ?_, fun chain hchain => ?_, prependToAll_union,
    prependToAll_inter, prependToAll_diff, isSubset_prependToAll,
    fun other => inter_prependToAll_of_ne⟩
  · rw [Bool.eq_iff_iff, contains_iff, contains_iff, cons_mem_prependToAll]
  · obtain ⟨inner, hinner, rfl⟩ := mem_prependToAll.mp (contains_iff.mp hchain)
    exact ⟨inner, rfl, contains_iff.mpr hinner⟩

/-- The empty chain stays the first one. -/
example : ((ofList [[⟨"b"⟩, ⟨"a"⟩], [], [⟨"b"⟩]]).prependToAll ⟨"a"⟩).chains =
    [[⟨"a"⟩], [⟨"a"⟩, ⟨"b"⟩], [⟨"a"⟩, ⟨"b"⟩, ⟨"a"⟩]] := by
  decide

end InfoFlow.ChainSet
