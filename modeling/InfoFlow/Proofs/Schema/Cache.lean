import InfoFlow.Proofs.Schema.Expansion

namespace InfoFlow.Catalog

open Relation (TransGen)

section

variable {α β : Type}

theorem run_bind (x : Resolving α) (f : α → Resolving β) (kept : Entries Schema) :
    (x >>= f).run.run kept = match x.run.run kept with
      | (.ok a, kept) => (f a).run.run kept
      | (.error fault, kept) => (.error fault, kept) := by
  rw [ExceptT.run_bind, StateT.run_bind]
  obtain ⟨result, kept⟩ := x.run.run kept
  cases result <;> rfl

theorem run_get_bind (f : Entries Schema → Resolving β) (kept : Entries Schema) :
    (get >>= f).run.run kept = (f kept).run.run kept := rfl

end

section

variable {declared : Entries SchemaDecl} {stack : List String} {name : String}
  {kept : Entries Schema}

theorem run_resolveName_of_kept {schema : Schema} (h : kept.get? name = some schema) :
    (resolveName declared stack name).run.run kept = (.ok schema, kept) := by
  rw [resolveName, run_get_bind, h]
  rfl

theorem run_resolveName_of_mem (h : kept.get? name = none) (hstack : name ∈ stack) :
    (resolveName declared stack name).run.run kept =
      (.error (.cyclicSchema (cycle stack name)), kept) := by
  rw [resolveName, run_get_bind, h]
  simp only [dif_pos hstack]
  rfl

theorem run_resolveName_of_get?_eq_none (h : kept.get? name = none) (hstack : name ∉ stack)
    (hget : declared.get? name = none) :
    (resolveName declared stack name).run.run kept = (.error (.unknownType name), kept) := by
  rw [resolveName, run_get_bind, h]
  simp only [dif_neg hstack]
  split
  · rfl
  · simp_all

theorem run_resolveName_of_get?_eq_some {decl : SchemaDecl} (h : kept.get? name = none)
    (hstack : name ∉ stack) (hget : declared.get? name = some decl) :
    (resolveName declared stack name).run.run kept =
      match (resolveFields (resolveName declared (stack ++ [name])) decl.name decl.fields
          []).run.run kept with
      | (.ok fields, kept) =>
        (.ok ⟨decl.name, fields⟩, kept.put name ⟨decl.name, fields⟩)
      | (.error fault, kept) => (.error fault, kept) := by
  rw [resolveName, run_get_bind, h]
  simp only [dif_neg hstack]
  split
  · simp_all
  · rename_i hdecl
    cases hget.symm.trans hdecl
    rw [run_bind]
    obtain ⟨result, kept'⟩ := (resolveFields (resolveName declared (stack ++ [name])) decl.name
      decl.fields []).run.run kept
    cases result <;> rfl

end

/-- Every schema that is kept is what its name expands to. So it lies on no circle, and giving it
    out without a look at the stack hides no fault. -/
def Sound (declared : Entries SchemaDecl) (kept : Entries Schema) : Prop :=
  ∀ name schema, kept.get? name = some schema → expandName declared [] name = .ok schema

/-- A resolution that ends like an expansion as long as only sound schemas are kept, and itself
    keeps nothing else. -/
def memoised (declared : Entries SchemaDecl) : Simulation Resolving (Except Fault) where
  Rel x y := ∀ kept, Sound declared kept →
    (x.run.run kept).1 = y ∧ Sound declared (x.run.run kept).2
  pure _ _ h := ⟨rfl, h⟩
  throw _ _ h := ⟨rfl, h⟩
  bind {_ _ x y f g} hx hf kept h := by
    obtain ⟨hresult, hsound⟩ := hx kept h
    rcases hrun : x.run.run kept with ⟨result, kept'⟩
    rw [hrun] at hresult hsound
    cases hresult
    rw [run_bind, hrun]
    cases result with
    | error fault => exact ⟨rfl, hsound⟩
    | ok a => exact hf a kept' hsound

section

variable {declared : Entries SchemaDecl} {stack : List String} {name : String}

/-- A schema that expands at all is not on a circle, so it also expands below names that lead
    to it. -/
theorem expandName_of_leads {schema : Schema} (h : expandName declared [] name = .ok schema)
    (hstack : ∀ other ∈ stack, TransGen (Refers declared) other name) :
    expandName declared stack name = .ok schema := by
  refine expandName_eq_ok_of_le (fun _ _ => id) (fun other hmem hreach => ?_) h
  exact absurd (TransGen.trans_right hreach (hstack other hmem)) (acyclic_of_expandName h)

/-- A name that is kept resolves as it expands, so only the others are left to look at. -/
theorem rel_resolveName_of_not_kept
    (hstack : ∀ other ∈ stack, TransGen (Refers declared) other name)
    (h : ∀ kept, Sound declared kept → kept.get? name = none →
      ((resolveName declared stack name).run.run kept).1 = expandName declared stack name ∧
      Sound declared ((resolveName declared stack name).run.run kept).2) :
    (memoised declared).Rel (resolveName declared stack name) (expandName declared stack name) := by
  intro kept hkept
  cases hname : kept.get? name with
  | none => exact h kept hkept hname
  | some schema =>
    rw [run_resolveName_of_kept hname, expandName_of_leads (hkept name schema hname) hstack]
    exact ⟨rfl, hkept⟩

theorem Sound.put {kept : Entries Schema} (hkept : Sound declared kept) {schema : Schema}
    (h : expandName declared [] name = .ok schema) : Sound declared (kept.put name schema) := by
  intro other schema' hother
  by_cases hname : name = other
  · subst hname
    rw [Entries.get?_put_self] at hother
    cases hother
    exact h
  · rw [Entries.get?_put_of_ne hname] at hother
    exact hkept other schema' hother

/-- Keeping schemas makes no difference when all names on the stack lead to the name. -/
theorem rel_resolveName (hstack : ∀ other ∈ stack, TransGen (Refers declared) other name) :
    (memoised declared).Rel (resolveName declared stack name) (expandName declared stack name) := by
  induction stack, name using expandName.induct declared with
  | case1 stack name hmem =>
    refine rel_resolveName_of_not_kept hstack fun kept hkept hname => ?_
    rw [run_resolveName_of_mem hname hmem, expandName_of_mem hmem]
    exact ⟨rfl, hkept⟩
  | case2 stack name hnot hget =>
    refine rel_resolveName_of_not_kept hstack fun kept hkept hname => ?_
    rw [run_resolveName_of_get?_eq_none hname hnot hget, expandName_of_get?_eq_none hnot hget]
    exact ⟨rfl, hkept⟩
  | case3 stack name hnot decl hget ih =>
    refine rel_resolveName_of_not_kept hstack fun kept hkept hname => ?_
    have hfollow : ∀ target ∈ decl.inline.references, (memoised declared).Rel
        (resolveName declared (stack ++ [name]) target)
        (expandName declared (stack ++ [name]) target) := by
      intro target htarget
      have hrefers : Refers declared name target := ⟨decl, hget, htarget⟩
      refine ih target fun other hmem => ?_
      obtain hmem | hmem := List.mem_append.mp hmem
      · exact (hstack other hmem).tail hrefers
      · obtain rfl := List.mem_singleton.mp hmem
        exact .single hrefers
    obtain ⟨hresult, hsound⟩ :=
      (memoised declared).resolveFields decl.name decl.fields [] hfollow kept hkept
    have hexpand := expandName_of_get?_eq_some hnot hget
    rw [run_resolveName_of_get?_eq_some hname hnot hget]
    rcases hrun : (resolveFields (resolveName declared (stack ++ [name])) decl.name decl.fields
      []).run.run kept with ⟨result, kept'⟩
    rw [hrun] at hresult hsound
    rw [← hresult] at hexpand
    rw [hexpand]
    cases result with
    | error fault => exact ⟨rfl, hsound⟩
    | ok fields =>
      -- What is kept was expanded below the stack, which an expansion on its own does not see.
      exact ⟨rfl, hsound.put (expandName_eq_ok_of_le (fun _ _ => id) (by simp) hexpand)⟩

end

end InfoFlow.Catalog
