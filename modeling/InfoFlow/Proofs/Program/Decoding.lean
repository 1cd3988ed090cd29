import InfoFlow.Proofs.Program.Text

namespace InfoFlow

open Datalog (Atom Body Rule)

namespace Predicate

variable {scope : Option String} {path : String}

section

variable {p : Predicate} {n : Nat}

theorem eq_tag_of_bodyFrom {tag : String}
    (h : p.bodyFrom scope path n = .holds (.mustHaveTag path tag)) : p = .tag tag := by
  fun_cases bodyFrom scope path p n with
  | case1 name => simpa [bodyFrom, Atom.mustHaveTag] using h
  | _ => simp [bodyFrom] at h

theorem exists_and_of_bodyFrom {a b : Body} (h : p.bodyFrom scope path n = .both a b) :
    ∃ left right, p = .and left right ∧ left.bodyFrom scope path n = a ∧
      right.bodyFrom scope path (n + left.helperCount) = b := by
  fun_cases bodyFrom scope path p n with
  | case2 left right => simpa [bodyFrom] using h
  | _ => simp [bodyFrom] at h

theorem exists_or_of_bodyFrom {a b : Body} (h : p.bodyFrom scope path n = .either a b) :
    ∃ left right, p = .or left right ∧ left.bodyFrom scope path n = a ∧
      right.bodyFrom scope path (n + left.helperCount) = b := by
  fun_cases bodyFrom scope path p n with
  | case3 left right => simpa [bodyFrom] using h
  | _ => simp [bodyFrom] at h

/-- A body that is the absence of an atom is that of a negation: of a tag, or of what the rule of
    a helper asks for. -/
theorem exists_not_of_bodyFrom {a : Atom} (h : p.bodyFrom scope path n = .absent a) :
    (∃ tag, p = .not (.tag tag) ∧ a = .mustHaveTag path tag) ∨
    ∃ operand, p = .not operand ∧ a = .helper (Emission.helperName scope n) ∧
      p.rulesFrom scope path n = operand.rulesFrom scope path (n + 1) ++
        [helperRule (Emission.helperName scope n) path
          (operand.bodyFrom scope path (n + 1))] := by
  fun_cases bodyFrom scope path p n with
  | case4 tag => exact .inl ⟨tag, rfl, by simpa [bodyFrom] using h.symm⟩
  | case5 operand hoperand =>
    have ha : a = .helper (Emission.helperName scope n) := by simpa [bodyFrom] using h.symm
    exact .inr ⟨operand, rfl, ha, by simp [rulesFrom]⟩
  | _ => simp [bodyFrom] at h

end

theorem helper_ne_mustHaveTag (n : Nat) (tag : String) :
    Atom.helper (Emission.helperName scope n) ≠ .mustHaveTag path tag := by
  intro h
  exact Emission.helperName_ne_mustHaveTag scope n (congrArg Atom.relation h)

/-- Among rules with different heads, a predicate is determined by its body and by the rules of its
    helpers. -/
theorem eq_of_bodyFrom_eq {rules : List Rule} (hheads : (rules.map (·.head)).Nodup)
    {p q : Predicate} {n : Nat} (hp : p.rulesFrom scope path n ⊆ rules)
    (hq : q.rulesFrom scope path n ⊆ rules)
    (h : p.bodyFrom scope path n = q.bodyFrom scope path n) : p = q := by
  fun_induction rulesFrom scope path p n generalizing q with
  | case1 tag n =>
    rw [bodyFrom] at h
    exact (eq_tag_of_bodyFrom h.symm).symm
  | case2 left right n ihl ihr =>
    rw [bodyFrom] at h
    obtain ⟨left', right', rfl, hleft, hright⟩ := exists_and_of_bodyFrom h.symm
    rw [rulesFrom] at hq
    obtain ⟨hpl, hpr⟩ := List.append_subset.mp hp
    obtain ⟨hql, hqr⟩ := List.append_subset.mp hq
    obtain rfl := ihl hpl hql hleft.symm
    obtain rfl := ihr hpr hqr hright.symm
    rfl
  | case3 left right n ihl ihr =>
    rw [bodyFrom] at h
    obtain ⟨left', right', rfl, hleft, hright⟩ := exists_or_of_bodyFrom h.symm
    rw [rulesFrom] at hq
    obtain ⟨hpl, hpr⟩ := List.append_subset.mp hp
    obtain ⟨hql, hqr⟩ := List.append_subset.mp hq
    obtain rfl := ihl hpl hql hleft.symm
    obtain rfl := ihr hpr hqr hright.symm
    rfl
  | case4 tag n =>
    rw [bodyFrom] at h
    obtain ⟨tag', rfl, htag⟩ | ⟨_, _, hhelper, _⟩ := exists_not_of_bodyFrom h.symm
    · obtain rfl : tag = tag' := by simpa [Atom.mustHaveTag] using htag
      rfl
    · exact absurd hhelper.symm (helper_ne_mustHaveTag n tag)
  | case5 operand n hoperand ih =>
    rw [bodyFrom] at h
    obtain ⟨tag, _, htag⟩ | ⟨other, rfl, _, hrules⟩ := exists_not_of_bodyFrom h.symm
    · exact absurd htag (helper_ne_mustHaveTag n tag)
    · rw [hrules] at hq
      obtain ⟨hpo, hrule⟩ := List.append_subset.mp hp
      obtain ⟨hqo, hrule'⟩ := List.append_subset.mp hq
      -- Both helpers have the same name, and there is only one rule for it.
      have hsame := List.inj_on_of_nodup_map hheads (hrule (List.mem_singleton_self _))
        (hrule' (List.mem_singleton_self _)) rfl
      have hbody := congrArg Rule.body hsame
      rw [ih hpo hqo hbody]
    · exact hoperand

end Predicate

namespace Program

variable {scope : Option String}

/-- Among rules with different heads, checks are determined by their rules and by those of their
    helpers, apart from how their paths are made up. -/
theorem checks_eq_of_rules_eq {rules : List Rule} (hheads : (rules.map (·.head)).Nodup)
    {checks others : List TagCheck} {n m : Nat} (hchecks : helpersFrom scope checks m ⊆ rules)
    (hothers : helpersFrom scope others m ⊆ rules)
    (h : (emittedFrom scope checks n m).map Prod.snd =
      (emittedFrom scope others n m).map Prod.snd) :
    checks.map (fun c => (c.path.term, c.predicate)) =
      others.map fun c => (c.path.term, c.predicate) := by
  induction checks generalizing others n m with
  | nil =>
    cases others with
    | nil => rfl
    | cons => cases h
  | cons c rest ih =>
    cases others with
    | nil => cases h
    | cons d others =>
      obtain ⟨hrule, hrest⟩ := List.cons.inj h
      obtain ⟨hhelpers, hchecks⟩ := List.append_subset.mp hchecks
      obtain ⟨hhelpers', hothers⟩ := List.append_subset.mp hothers
      have hguard : Atom.owns .owner c.path.term = .owns .owner d.path.term :=
        congrArg Rule.guard hrule
      have hpath : c.path.term = d.path.term := by simpa [Atom.owns] using hguard
      have hbody : c.predicate.bodyFrom scope c.path.term m =
          d.predicate.bodyFrom scope d.path.term m := congrArg Rule.body hrule
      rw [hpath] at hhelpers hbody
      have hpredicate := Predicate.eq_of_bodyFrom_eq hheads hhelpers hhelpers' hbody
      rw [hpredicate] at hchecks hrest
      rw [List.map_cons, List.map_cons, hpath, hpredicate, ih hchecks hothers hrest]

theorem map_eq_of_injective {α β γ : Type} {f : α → β} {g : β → γ} (hg : Function.Injective g)
    {list more : List α} (h : (list.map fun a => g (f a)) = more.map fun a => g (f a)) :
    list.map f = more.map f := by
  apply List.map_injective_iff.mpr hg
  rw [List.map_map, List.map_map]
  exact h

theorem rules_eq_of_statements_eq {p q : Program} (h : p.statements scope = q.statements scope) :
    p.rules scope = q.rules scope := by
  apply List.map_injective_iff.mpr fun _ _ => Rule.clause_injective
  rw [← clauses_statements, ← clauses_statements, h]

/-- What programs share when they consist of the same statements. -/
theorem parts_eq_of_statements_eq {p q : Program} (h : p.statements scope = q.statements scope) :
    p.claims.map (fun c => (c.particle, c.path.term, c.tag)) =
      q.claims.map (fun c => (c.particle, c.path.term, c.tag)) ∧
    p.ownership.map (fun o => (o.owner, o.path.term)) =
      q.ownership.map (fun o => (o.owner, o.path.term)) ∧
    p.edges.map (fun e => (e.source.term, e.target.term)) =
      q.edges.map (fun e => (e.source.term, e.target.term)) ∧
    p.checks.map (fun c => (c.path.term, c.predicate)) =
      q.checks.map (fun c => (c.path.term, c.predicate)) := by
  obtain ⟨hclaims, hownership, hedges, hlabels⟩ := facts_statements scope p
  obtain ⟨hclaims', hownership', hedges', hlabels'⟩ := facts_statements scope q
  rw [h] at hclaims hownership hedges hlabels
  refine ⟨?_, ?_, ?_, ?_⟩
  · refine map_eq_of_injective
      (g := fun x : String × String × String => Atom.claimHasTag x.1 x.2.1 x.2.2) ?_
      (hclaims.symm.trans hclaims')
    intro x y hxy
    simpa [Atom.claimHasTag, Prod.ext_iff] using hxy
  · refine map_eq_of_injective (g := fun x : String × String => Atom.owns (.text x.1) x.2) ?_
      (hownership.symm.trans hownership')
    intro x y hxy
    simpa [Atom.owns, Prod.ext_iff] using hxy
  · refine map_eq_of_injective (g := fun x : String × String => Atom.edge x.1 x.2) ?_
      (hedges.symm.trans hedges')
    intro x y hxy
    simpa [Atom.edge, Prod.ext_iff] using hxy
  · -- The announcements tell where the rules of the checks end and those of helpers begin.
    have hlength := congrArg List.length (hlabels.symm.trans hlabels')
    rw [List.length_map, List.length_map] at hlength
    obtain ⟨hemitted, hhelpers⟩ :=
      List.append_inj (rules_eq_of_statements_eq h) (by simpa using hlength)
    refine checks_eq_of_rules_eq (nodup_heads_helpersFrom q.checks 0) ?_ (List.Subset.refl _)
      hemitted
    rw [hhelpers]
    exact List.Subset.refl _

end Program

end InfoFlow
