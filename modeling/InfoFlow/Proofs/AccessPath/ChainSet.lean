import InfoFlow.AccessPath.ChainSet

namespace InfoFlow.ChainSet

variable {s t : ChainSet} {list : List Chain} {chain : Chain}

theorem not_mem_empty : chain ∉ empty := by
  simp [mem_iff, empty]

theorem isEmpty_iff : s.isEmpty = true ↔ ∀ chain, chain ∉ s :=
  List.isEmpty_iff.trans List.eq_nil_iff_forall_not_mem

theorem mem_leaf : chain ∈ leaf ↔ chain = [] := by
  simp [mem_iff, leaf]

theorem mem_insertAll : chain ∈ insertAll list s ↔ chain ∈ list ∨ chain ∈ s := by
  induction list with
  | nil => simp [insertAll]
  | cons first rest ih =>
    have hstep : insertAll (first :: rest) s = (insertAll rest s).insert first := rfl
    rw [hstep, mem_insert, ih, List.mem_cons, or_assoc]

theorem mem_prependToAll {selector : Selector} :
    chain ∈ s.prependToAll selector ↔ ∃ inner ∈ s, selector :: inner = chain := by
  rw [prependToAll, ofList, mem_insertAll, List.mem_map]
  exact or_iff_left not_mem_empty

theorem mem_union : chain ∈ s.union t ↔ chain ∈ s ∨ chain ∈ t :=
  mem_insertAll

theorem contains_iff : s.contains chain = true ↔ chain ∈ s :=
  List.contains_iff_mem

theorem mem_inter : chain ∈ s.inter t ↔ chain ∈ s ∧ chain ∈ t := by
  simp only [mem_iff, inter, List.mem_filter, contains_iff]

theorem mem_diff : chain ∈ s.diff t ↔ chain ∈ s ∧ chain ∉ t := by
  simp only [mem_iff, diff, List.mem_filter, Bool.not_eq_true', ← Bool.not_eq_true, contains_iff]

theorem isSubset_iff : s.isSubset t = true ↔ ∀ chain ∈ s, chain ∈ t := by
  simp only [isSubset, List.all_eq_true, contains_iff, mem_iff]

theorem nodup_chains (s : ChainSet) : s.chains.Nodup := by
  refine s.ascending.imp ?_
  rintro a _ hlt rfl
  simp [Std.ReflCmp.compare_self] at hlt

/-- Sets with the same members are equal. -/
theorem eq_of_mem_iff (h : ∀ chain, chain ∈ s ↔ chain ∈ t) : s = t := by
  have hperm : s.chains.Perm t.chains :=
    (List.perm_ext_iff_of_nodup s.nodup_chains t.nodup_chains).mpr h
  refine ext (hperm.eq_of_pairwise (fun a b _ _ hab hba => ?_) s.ascending t.ascending)
  rw [Std.OrientedCmp.gt_of_lt hab] at hba
  cases hba

theorem place_of_lt (h : ∀ other ∈ list, compare chain other = .lt) :
    place chain list = chain :: list := by
  cases list with
  | nil => rfl
  | cons head rest => rw [place, h head List.mem_cons_self]

/-- An ascending list is the list of the set of its members. -/
theorem chains_ofList (h : list.Pairwise fun a b => compare a b = .lt) :
    (ofList list).chains = list := by
  induction list with
  | nil => rfl
  | cons head rest ih =>
    obtain ⟨hhead, hrest⟩ := List.pairwise_cons.mp h
    have hstep : (ofList (head :: rest)).chains = place head (ofList rest).chains := rfl
    rw [hstep, ih hrest, place_of_lt hhead]

theorem ofList_chains (s : ChainSet) : ofList s.chains = s :=
  ext (chains_ofList s.ascending)

theorem compare_cons_self (selector : Selector) (a b : Chain) :
    compare (selector :: a) (selector :: b) = compare a b := by
  have hself : compare selector selector = .eq := Std.ReflCmp.compare_self
  rw [List.compare_cons_cons, hself]
  rfl

/-- Chains keep their order when they get the same selector in front. -/
theorem chains_prependToAll (selector : Selector) (s : ChainSet) :
    (s.prependToAll selector).chains = s.chains.map (selector :: ·) := by
  refine chains_ofList (List.pairwise_map.mpr ?_)
  simpa only [compare_cons_self] using s.ascending

theorem length_place (h : chain ∉ list) : (place chain list).length = list.length + 1 := by
  induction list with
  | nil => rfl
  | cons head rest ih =>
    obtain ⟨hne, hrest⟩ := not_or.mp (mt List.mem_cons.mpr h)
    rw [place]
    split
    · rfl
    · rename_i heq
      exact absurd (Std.LawfulEqCmp.eq_of_compare heq) hne
    · rw [List.length_cons, ih hrest, List.length_cons]

theorem size_insertAll (hlist : list.Nodup) (h : ∀ chain ∈ list, chain ∉ s) :
    (insertAll list s).size = list.length + s.size := by
  induction list with
  | nil => simp [insertAll]
  | cons first rest ih =>
    obtain ⟨hfirst, hrest⟩ := List.nodup_cons.mp hlist
    obtain ⟨hnew, hothers⟩ := List.forall_mem_cons.mp h
    have hplace : first ∉ (insertAll rest s).chains := by
      rw [← mem_iff, mem_insertAll]
      exact not_or.mpr ⟨hfirst, hnew⟩
    have hstep : (insertAll (first :: rest) s).size =
        (place first (insertAll rest s).chains).length := rfl
    rw [hstep, length_place hplace, List.length_cons, Nat.add_right_comm, ← ih hrest hothers]
    rfl

theorem size_union (h : ∀ chain ∈ s, chain ∉ t) : (s.union t).size = s.size + t.size :=
  size_insertAll s.nodup_chains h

theorem size_prependToAll (selector : Selector) (s : ChainSet) :
    (s.prependToAll selector).size = s.size := by
  rw [size, chains_prependToAll, List.length_map, size]

end InfoFlow.ChainSet
