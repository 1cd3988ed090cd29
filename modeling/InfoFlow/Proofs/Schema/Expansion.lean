import InfoFlow.Proofs.Schema.References

namespace InfoFlow.Catalog

open Relation (ReflTransGen TransGen)

/-- Two kinds of computation that go along with each other, step by step. -/
structure Simulation (m n : Type → Type) [Monad m] [MonadExceptOf Fault m] [Monad n]
    [MonadExceptOf Fault n] where
  Rel : {α : Type} → m α → n α → Prop
  pure : ∀ {α : Type} (a : α), Rel (Pure.pure a) (Pure.pure a)
  throw : ∀ {α : Type} (fault : Fault),
    Rel (α := α) (MonadExcept.throw fault) (MonadExcept.throw fault)
  bind : ∀ {α β : Type} {x : m α} {y : n α} {f : α → m β} {g : α → n β},
    Rel x y → (∀ a, Rel (f a) (g a)) → Rel (x >>= f) (y >>= g)

namespace Simulation

variable {m n : Type → Type} [Monad m] [MonadExceptOf Fault m] [Monad n] [MonadExceptOf Fault n]
variable {follow : String → m Schema} {follow' : String → n Schema}

theorem ofExcept (S : Simulation m n) {α : Type} (x : Except Fault α) :
    S.Rel (MonadExcept.ofExcept x) (MonadExcept.ofExcept x) := by
  cases x with
  | error fault => exact S.throw fault
  | ok a => exact S.pure a

theorem forM (S : Simulation m n) {α : Type} {f : α → m Unit} {g : α → n Unit} {list : List α}
    (h : ∀ a ∈ list, S.Rel (f a) (g a)) : S.Rel (list.forM f) (list.forM g) := by
  induction list with
  | nil => exact S.pure ()
  | cons a rest ih =>
    obtain ⟨ha, hrest⟩ := List.forall_mem_cons.mp h
    exact S.bind ha fun _ => ih hrest

mutual

/-- Resolutions go along when following does so for each reference. -/
theorem resolveType (S : Simulation m n) (decl : TypeDecl)
    (h : ∀ name ∈ decl.references, S.Rel (follow name) (follow' name)) :
    S.Rel (Catalog.resolveType follow decl) (Catalog.resolveType follow' decl) := by
  cases decl with
  | primitive =>
    rw [Catalog.resolveType, Catalog.resolveType]
    exact S.pure _
  | inline name fields =>
    rw [Catalog.resolveType, Catalog.resolveType]
    exact S.bind (S.resolveFields name fields [] h) fun _ => S.pure _
  | named name =>
    rw [Catalog.resolveType, Catalog.resolveType]
    exact S.bind (h name (by simp [TypeDecl.references])) fun _ => S.pure _

theorem resolveFields (S : Simulation m n) (schema : Option String)
    (fields : List (String × TypeDecl)) (done : Entries DataType)
    (h : ∀ name ∈ TypeDecl.fieldReferences fields, S.Rel (follow name) (follow' name)) :
    S.Rel (Catalog.resolveFields follow schema fields done)
      (Catalog.resolveFields follow' schema fields done) := by
  cases fields with
  | nil =>
    rw [Catalog.resolveFields, Catalog.resolveFields]
    exact S.pure _
  | cons field rest =>
    obtain ⟨name, decl⟩ := field
    obtain ⟨hdecl, hrest⟩ := List.forall_mem_append.mp h
    have hdone := S.bind (S.resolveType decl hdecl) fun type =>
      S.resolveFields schema rest (done.put name type) hrest
    rw [Catalog.resolveFields, Catalog.resolveFields]
    refine S.bind (S.ofExcept _) fun _ => ?_
    split
    · exact S.bind (S.throw _) fun _ => hdone
    · exact hdone

end

end Simulation

/-- Expands the schema that is declared under a name, anew wherever it is referred to. Nothing is
    kept, so the result is a function of the declarations and of the names on the stack. -/
def expandName (declared : Entries SchemaDecl) (stack : List String) (name : String) :
    Except Fault Schema :=
  if _ : name ∈ stack then .error (.cyclicSchema (cycle stack name))
  else
    match _ : declared.get? name with
    | none => .error (.unknownType name)
    | some decl => do
      let fields ← resolveFields (expandName declared (stack ++ [name])) decl.name decl.fields []
      return ⟨decl.name, fields⟩
termination_by (unvisited declared stack).length
decreasing_by exact unvisited_push_lt ‹_› ‹_›

section

variable {declared : Entries SchemaDecl} {stack : List String} {name : String}

theorem expandName_of_mem (h : name ∈ stack) :
    expandName declared stack name = .error (.cyclicSchema (cycle stack name)) := by
  rw [expandName, dif_pos h]

theorem expandName_of_get?_eq_none (h : name ∉ stack) (hget : declared.get? name = none) :
    expandName declared stack name = .error (.unknownType name) := by
  rw [expandName, dif_neg h]
  split
  · rfl
  · simp_all

theorem expandName_of_get?_eq_some {decl : SchemaDecl} (h : name ∉ stack)
    (hget : declared.get? name = some decl) : expandName declared stack name = (do
      let fields ← resolveFields (expandName declared (stack ++ [name])) decl.name decl.fields []
      return ⟨decl.name, fields⟩) := by
  rw [expandName, dif_neg h]
  split
  · simp_all
  · simp_all

/-- A schema is expanded when its name is not on the stack and its fields resolve, with the name
    on the stack for them. -/
theorem expandName_eq_ok_iff {schema : Schema} : expandName declared stack name = .ok schema ↔
    name ∉ stack ∧ ∃ decl, declared.get? name = some decl ∧ ∃ fields,
      resolveFields (expandName declared (stack ++ [name])) decl.name decl.fields [] = .ok fields ∧
      ⟨decl.name, fields⟩ = schema := by
  by_cases h : name ∈ stack
  · simp [expandName_of_mem h, h]
  · cases hget : declared.get? name with
    | none => simp [expandName_of_get?_eq_none h hget]
    | some decl =>
      simp [expandName_of_get?_eq_some h hget, h, bind_eq_ok_iff, pure, Except.pure]

theorem exists_expandName_iff : (∃ schema, expandName declared stack name = .ok schema) ↔
    name ∉ stack ∧ ∃ decl, declared.get? name = some decl ∧ decl.inline.WellNamed ∧
      ∀ target ∈ decl.inline.references,
        ∃ schema, expandName declared (stack ++ [name]) target = .ok schema := by
  constructor
  · rintro ⟨schema, h⟩
    obtain ⟨hstack, decl, hget, fields, hfields, rfl⟩ := expandName_eq_ok_iff.mp h
    exact ⟨hstack, decl, hget, (exists_resolveFields_decl_iff decl).mp ⟨fields, hfields⟩⟩
  · rintro ⟨hstack, decl, hget, hdecl⟩
    obtain ⟨fields, hfields⟩ := (exists_resolveFields_decl_iff decl).mpr hdecl
    exact ⟨_, expandName_eq_ok_iff.mpr ⟨hstack, decl, hget, fields, hfields, rfl⟩⟩

/-- What an expanded schema leads to is not on the stack. -/
theorem not_mem_of_reaches {schema : Schema} (h : expandName declared stack name = .ok schema)
    {other : String} (hreach : ReflTransGen (Refers declared) name other) : other ∉ stack := by
  induction hreach using ReflTransGen.head_induction_on generalizing stack schema with
  | refl => exact (expandName_eq_ok_iff.mp h).1
  | head hrefers _ ih =>
    obtain ⟨decl, hget, htarget⟩ := hrefers
    obtain ⟨_, decl', hget', _, hexpand⟩ := exists_expandName_iff.mp ⟨schema, h⟩
    cases hget.symm.trans hget'
    obtain ⟨inner, hinner⟩ := hexpand _ htarget
    exact fun hmem => ih hinner (List.mem_append_left _ hmem)

/-- Nor does it lead back to where it started. -/
theorem acyclic_of_expandName {schema : Schema} (h : expandName declared stack name = .ok schema) :
    ¬ TransGen (Refers declared) name name := by
  intro hcycle
  obtain ⟨target, hrefers, hreach⟩ := TransGen.head'_iff.mp hcycle
  obtain ⟨decl, hget, htarget⟩ := hrefers
  obtain ⟨_, decl', hget', _, hexpand⟩ := exists_expandName_iff.mp ⟨schema, h⟩
  cases hget.symm.trans hget'
  obtain ⟨inner, hinner⟩ := hexpand _ htarget
  exact not_mem_of_reaches hinner hreach (by simp)

/-- What one computation gives, the other one gives as well. -/
def refinement : Simulation (Except Fault) (Except Fault) where
  Rel x y := ∀ a, x = .ok a → y = .ok a
  pure _ _ := id
  throw _ _ h := by cases h
  bind hx hf b h := by
    obtain ⟨a, ha, hb⟩ := bind_eq_ok_iff.mp h
    exact bind_eq_ok_iff.mpr ⟨a, hx a ha, hf a b hb⟩

/-- More declarations do not change an expansion, and neither does another stack, when all names
    of it that can be reached were on the old one. -/
theorem expandName_eq_ok_of_le {declared' : Entries SchemaDecl}
    (hdeclared : ∀ other decl, declared.get? other = some decl → declared'.get? other = some decl)
    {stack' : List String} (hstack : ∀ other ∈ stack',
      ReflTransGen (Refers declared) name other → other ∈ stack)
    {schema : Schema} (h : expandName declared stack name = .ok schema) :
    expandName declared' stack' name = .ok schema := by
  fun_induction expandName declared stack name generalizing stack' schema with
  | case1 => cases h
  | case2 => cases h
  | case3 stack name hnot decl hget ih =>
    obtain ⟨fields, hfields, hschema⟩ := bind_eq_ok_iff.mp h
    have hnot' : name ∉ stack' := fun hmem => hnot (hstack name hmem .refl)
    have hrefers : ∀ target ∈ decl.inline.references, Refers declared name target :=
      fun target htarget => ⟨decl, hget, htarget⟩
    have hfollow : ∀ target ∈ decl.inline.references,
        refinement.Rel (expandName declared (stack ++ [name]) target)
          (expandName declared' (stack' ++ [name]) target) := by
      intro target htarget inner hinner
      refine ih target (fun other hmem hreach => ?_) hinner
      obtain hmem | hmem := List.mem_append.mp hmem
      · exact List.mem_append_left _ (hstack other hmem (hreach.head (hrefers target htarget)))
      · exact List.mem_append_right _ hmem
    have hfields' := refinement.resolveFields decl.name decl.fields [] hfollow fields hfields
    exact expandName_eq_ok_iff.mpr
      ⟨hnot', decl, hdeclared name decl hget, fields, hfields', Except.ok.inj hschema⟩

/-- In well-formed declarations a name expands below names that lead to it: none of these is met
    again, as that would close a circle. -/
theorem WellFormed.exists_expandName (h : WellFormed declared) (hname : declared.has name = true)
    (hstack : ∀ other ∈ stack, TransGen (Refers declared) other name) :
    ∃ schema, expandName declared stack name = .ok schema := by
  induction stack, name using expandName.induct declared with
  | case1 stack name hmem => exact absurd (hstack name hmem) (h.acyclic name)
  | case2 stack name hnot hget => simp [Entries.has, hget] at hname
  | case3 stack name hnot decl hget ih =>
    refine exists_expandName_iff.mpr ⟨hnot, decl, hget, h.wellNamed name decl hget, ?_⟩
    intro target htarget
    have hrefers : Refers declared name target := ⟨decl, hget, htarget⟩
    refine ih target (h.closed name target hrefers) fun other hmem => ?_
    obtain hmem | hmem := List.mem_append.mp hmem
    · exact (hstack other hmem).tail hrefers
    · obtain rfl := List.mem_singleton.mp hmem
      exact .single hrefers

/-- Declarations are well-formed when each of them expands. -/
theorem wellFormed_iff : WellFormed declared ↔
    ∀ name, declared.has name = true → ∃ schema, expandName declared [] name = .ok schema := by
  constructor
  · intro h name hname
    exact h.exists_expandName hname (by simp)
  · intro h
    have hexpand : ∀ name decl, declared.get? name = some decl → decl.inline.WellNamed ∧
        ∀ target ∈ decl.inline.references,
          ∃ schema, expandName declared [name] target = .ok schema := by
      intro name decl hget
      have hname : declared.has name = true := by simp [Entries.has, hget]
      obtain ⟨_, decl', hget', hdecl⟩ := exists_expandName_iff.mp (h name hname)
      cases hget.symm.trans hget'
      exact hdecl
    refine ⟨fun name decl hget => (hexpand name decl hget).1, ?_, ?_⟩
    · rintro name target ⟨decl, hget, htarget⟩
      have htarget' := (hexpand name decl hget).2 target htarget
      obtain ⟨_, decl', hget', _⟩ := exists_expandName_iff.mp htarget'
      simp [Entries.has, hget']
    · intro name hcycle
      obtain ⟨target, ⟨decl, hget, _⟩, _⟩ := TransGen.head'_iff.mp hcycle
      obtain ⟨schema, hschema⟩ := h name (by simp [Entries.has, hget])
      exact acyclic_of_expandName hschema hcycle

end

end InfoFlow.Catalog
