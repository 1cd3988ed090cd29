import InfoFlow.Proofs.Schema.Cache

namespace InfoFlow

namespace Catalog

/-- A call on a catalog. -/
inductive Call where
  | declare (decl : SchemaDecl)
  | schema (name : String)
  | resolve (decl : TypeDecl)
  | resolveAll

/-- The catalog after a call. A declaration that is refused leaves it as it is. -/
def Call.apply (catalog : Catalog) : Call → Catalog
  | .declare decl =>
    match catalog.declare decl with
    | .ok extended => extended
    | .error _ => catalog
  | .schema name => (catalog.schema name).2
  | .resolve decl => (catalog.resolve decl).2
  | .resolveAll => catalog.resolveAll.2

/-- The catalog that some calls lead to from an empty one. -/
def after (calls : List Call) : Catalog :=
  calls.foldl Call.apply {}

/-- The catalog with the same declarations that keeps no schemas. -/
def fresh (catalog : Catalog) : Catalog where
  declared := catalog.declared

/-- A catalog that keeps only sound schemas. -/
def Coherent (catalog : Catalog) : Prop :=
  Sound catalog.declared catalog.resolved

theorem coherent_fresh (catalog : Catalog) : catalog.fresh.Coherent := by
  intro name schema h
  simp [fresh, Entries.get?] at h

section

variable {catalog : Catalog}

/-- A resolution that goes along with an expansion ends like it on a coherent catalog, and leaves
    the catalog coherent. -/
theorem Coherent.run (h : catalog.Coherent) {α : Type} {x : Resolving α} {y : Except Fault α}
    (hrel : (memoised catalog.declared).Rel x y) :
    (catalog.run x).1 = y ∧ (catalog.run x).2.Coherent :=
  hrel catalog.resolved h

theorem Coherent.schema (h : catalog.Coherent) (name : String) :
    (catalog.schema name).1 = expandName catalog.declared [] name ∧
    (catalog.schema name).2.Coherent :=
  h.run (rel_resolveName (by simp))

theorem Coherent.resolve (h : catalog.Coherent) (decl : TypeDecl) :
    (catalog.resolve decl).1 = resolveType (expandName catalog.declared []) decl ∧
    (catalog.resolve decl).2.Coherent :=
  h.run ((memoised catalog.declared).resolveType decl fun _ _ => rel_resolveName (by simp))

theorem Coherent.resolveAll (h : catalog.Coherent) :
    catalog.resolveAll.1 = (catalog.declared.names.forM fun name => do
      let _ ← expandName catalog.declared [] name) ∧
    catalog.resolveAll.2.Coherent := by
  let S := memoised catalog.declared
  exact h.run (S.forM fun _ _ => S.bind (rel_resolveName (by simp)) fun _ => S.pure ())

/-- A declaration is added when it has a valid name that is not declared yet. -/
theorem declare_eq_ok_iff {decl : SchemaDecl} {extended : Catalog} :
    catalog.declare decl = .ok extended ↔
      ∃ name, decl.name = some name ∧ Identifier.Valid name ∧ catalog.declared.has name = false ∧
        { catalog with declared := catalog.declared.put name decl } = extended := by
  unfold declare
  cases decl.name with
  | none => simp
  | some name =>
    by_cases hnew : catalog.declared.has name = true <;>
      simp [check_bind_eq_ok_iff, Identifier.check_eq_ok_iff, hnew]

/-- A new declaration has a name of its own, so no expansion that succeeded before changes. -/
theorem Coherent.declare (h : catalog.Coherent) {decl : SchemaDecl} {extended : Catalog}
    (hdeclare : catalog.declare decl = .ok extended) : extended.Coherent := by
  obtain ⟨name, _, _, hnew, rfl⟩ := declare_eq_ok_iff.mp hdeclare
  intro other schema hkept
  refine expandName_eq_ok_of_le (fun known decl' hget => ?_) (by simp) (h other schema hkept)
  have hne : name ≠ known := by
    rintro rfl
    simp [Entries.has, hget] at hnew
  rw [Entries.get?_put_of_ne hne]
  exact hget

/-- Calls keep catalogs coherent. -/
theorem Coherent.apply (h : catalog.Coherent) (call : Call) :
    (call.apply catalog).Coherent := by
  cases call with
  | declare decl =>
    cases hdeclare : catalog.declare decl with
    | error fault => simpa [Call.apply, hdeclare] using h
    | ok extended => simpa [Call.apply, hdeclare] using h.declare hdeclare
  | schema name => exact (h.schema name).2
  | resolve decl => exact (h.resolve decl).2
  | resolveAll => exact h.resolveAll.2

end

/-- What holds of an empty catalog, and still holds after a call, holds after any calls. -/
theorem after_of_apply {P : Catalog → Prop} (hempty : P {})
    (happly : ∀ catalog call, P catalog → P (Call.apply catalog call)) (calls : List Call) :
    P (after calls) := by
  have hrun (catalog : Catalog) (h : P catalog) : P (calls.foldl Call.apply catalog) := by
    induction calls generalizing catalog with
    | nil => exact h
    | cons call rest ih => exact ih _ (happly catalog call h)
  exact hrun {} hempty

theorem coherent_after (calls : List Call) : (after calls).Coherent :=
  after_of_apply (coherent_fresh {}) (fun _ call h => h.apply call) calls

/-- A catalog declares valid names only. -/
theorem valid_of_has_declared (calls : List Call) :
    ∀ name, (after calls).declared.has name = true → Identifier.Valid name := by
  refine after_of_apply (P := fun catalog => ∀ name, catalog.declared.has name = true →
    Identifier.Valid name) nofun (fun catalog call h => ?_) calls
  cases call with
  | declare decl =>
    cases hdeclare : catalog.declare decl with
    | error fault => simpa [Call.apply, hdeclare] using h
    | ok extended =>
      obtain ⟨key, _, hkey, _, rfl⟩ := declare_eq_ok_iff.mp hdeclare
      simp only [Call.apply, hdeclare, Entries.has_put, Bool.or_eq_true, decide_eq_true_iff]
      rintro name (rfl | hname)
      · exact hkey
      · exact h name hname
  | schema | resolve | resolveAll => exact h

/-- What a catalog keeps is invisible. After any calls, each resolving call gives the same as on a
    catalog with the same declarations that keeps nothing, faults included, and it leaves the
    declarations as they are. -/
theorem answers_eq_fresh (calls : List Call) :
    let catalog := after calls
    (∀ name, (catalog.schema name).1 = (catalog.fresh.schema name).1 ∧
      (catalog.schema name).2.declared = catalog.declared) ∧
    (∀ decl, (catalog.resolve decl).1 = (catalog.fresh.resolve decl).1 ∧
      (catalog.resolve decl).2.declared = catalog.declared) ∧
    catalog.resolveAll.1 = catalog.fresh.resolveAll.1 ∧
      catalog.resolveAll.2.declared = catalog.declared := by
  intro catalog
  have hcatalog : catalog.Coherent := coherent_after calls
  have hfresh := coherent_fresh catalog
  refine ⟨fun name => ⟨?_, rfl⟩, fun decl => ⟨?_, rfl⟩, ?_, rfl⟩
  · rw [(hcatalog.schema name).1, (hfresh.schema name).1]
    rfl
  · rw [(hcatalog.resolve decl).1, (hfresh.resolve decl).1]
    rfl
  · rw [hcatalog.resolveAll.1, hfresh.resolveAll.1]
    rfl

/-- After any calls, all schemas resolve exactly when the declarations are well-formed: field
    names are valid and not repeated at any level, references are to declared names, and they do not
    lead in a circle. -/
theorem resolveAll_eq_ok_iff (calls : List Call) :
    (after calls).resolveAll.1 = .ok () ↔ WellFormed (after calls).declared := by
  rw [(coherent_after calls).resolveAll.1, wellFormed_iff]
  refine Iff.trans forM_eq_ok_iff (forall_congr' fun name => ?_)
  rw [Entries.mem_names_iff]
  refine imp_congr_right fun _ => ?_
  simp [bind_eq_ok_iff, pure, Except.pure]

end Catalog

end InfoFlow
