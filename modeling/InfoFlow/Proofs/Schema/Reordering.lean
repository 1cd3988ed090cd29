import Mathlib.Data.List.Perm.Basic
import InfoFlow.Proofs.Schema.Declarations
import InfoFlow.Proofs.Schema.LeafChains

namespace InfoFlow

namespace TypeDecl

mutual

/-- Declared types that differ in nothing but the order of fields, at any level. -/
inductive Reordered : TypeDecl → TypeDecl → Prop where
  | primitive : Reordered .primitive .primitive
  | named {name : String} : Reordered (.named name) (.named name)
  | inline {name : Option String} {fields fields' : List (String × TypeDecl)}
    (h : FieldsReordered fields fields') : Reordered (.inline name fields) (.inline name fields')

/-- Fields that are permuted, and whose types may be reordered as well. -/
inductive FieldsReordered : List (String × TypeDecl) → List (String × TypeDecl) → Prop where
  | nil : FieldsReordered [] []
  | cons {name : String} {decl decl' : TypeDecl} {rest rest' : List (String × TypeDecl)}
    (hdecl : Reordered decl decl') (hrest : FieldsReordered rest rest') :
    FieldsReordered ((name, decl) :: rest) ((name, decl') :: rest')
  | swap {first second : String × TypeDecl} {rest : List (String × TypeDecl)} :
    FieldsReordered (first :: second :: rest) (second :: first :: rest)
  | trans {fields middle fields' : List (String × TypeDecl)} (h : FieldsReordered fields middle)
    (h' : FieldsReordered middle fields') : FieldsReordered fields fields'

end

mutual

theorem Reordered.refl (decl : TypeDecl) : decl.Reordered decl := by
  cases decl with
  | primitive => exact .primitive
  | inline name fields => exact .inline (FieldsReordered.refl fields)
  | named name => exact .named

theorem FieldsReordered.refl (fields : List (String × TypeDecl)) :
    FieldsReordered fields fields := by
  cases fields with
  | nil => exact .nil
  | cons field rest => exact .cons (Reordered.refl field.2) (FieldsReordered.refl rest)

end

theorem Reordered.trans {decl middle decl' : TypeDecl} (h : decl.Reordered middle)
    (h' : middle.Reordered decl') : decl.Reordered decl' := by
  cases h with
  | primitive => exact h'
  | named => exact h'
  | inline hfields =>
    cases h' with
    | inline hfields' => exact .inline (hfields.trans hfields')

mutual

theorem Reordered.symm {decl decl' : TypeDecl} : decl.Reordered decl' → decl'.Reordered decl
  | .primitive => .primitive
  | .named => .named
  | .inline h => .inline h.symm

theorem FieldsReordered.symm {fields fields' : List (String × TypeDecl)} :
    FieldsReordered fields fields' → FieldsReordered fields' fields
  | .nil => .nil
  | .cons hdecl hrest => .cons hdecl.symm hrest.symm
  | .swap => .swap
  | .trans h h' => h'.symm.trans h.symm

end

/-- Permuting fields alone is one way to reorder them. -/
theorem FieldsReordered.of_perm {fields fields' : List (String × TypeDecl)}
    (h : fields.Perm fields') : FieldsReordered fields fields' := by
  induction h with
  | nil => exact .nil
  | cons field _ ih => exact .cons (Reordered.refl field.2) ih
  | swap first second rest => exact .swap
  | trans _ _ ih ih' => exact ih.trans ih'

theorem FieldsReordered.map_fst_perm {fields fields' : List (String × TypeDecl)} :
    FieldsReordered fields fields' → (fields.map Prod.fst).Perm (fields'.map Prod.fst)
  | .nil => .nil
  | .cons _ hrest => hrest.map_fst_perm.cons _
  | .swap => .swap ..
  | .trans h h' => h.map_fst_perm.trans h'.map_fst_perm

/-- A field has its counterpart among the reordered ones. -/
theorem FieldsReordered.exists_mem {fields fields' : List (String × TypeDecl)} {name : String}
    {decl : TypeDecl} (h : FieldsReordered fields fields') (hmem : (name, decl) ∈ fields) :
    ∃ decl', (name, decl') ∈ fields' ∧ decl.Reordered decl' :=
  match h with
  | .cons hdecl hrest => by
    obtain heq | hmem := List.mem_cons.mp hmem
    · cases heq
      exact ⟨_, List.mem_cons_self, hdecl⟩
    · obtain ⟨decl', hmem', hdecl'⟩ := hrest.exists_mem hmem
      exact ⟨decl', List.mem_cons_of_mem _ hmem', hdecl'⟩
  | .swap => ⟨decl, (List.Perm.swap ..).mem_iff.mp hmem, Reordered.refl decl⟩
  | .trans h h' => by
    obtain ⟨middle, hmem, hmiddle⟩ := h.exists_mem hmem
    obtain ⟨decl', hmem', hdecl'⟩ := h'.exists_mem hmem
    exact ⟨decl', hmem', hmiddle.trans hdecl'⟩

mutual

theorem Reordered.mem_references_iff {decl decl' : TypeDecl} {target : String} :
    decl.Reordered decl' → (target ∈ decl.references ↔ target ∈ decl'.references)
  | .primitive => .rfl
  | .named => .rfl
  | .inline h => h.mem_fieldReferences_iff

theorem FieldsReordered.mem_fieldReferences_iff {fields fields' : List (String × TypeDecl)}
    {target : String} : FieldsReordered fields fields' →
      (target ∈ fieldReferences fields ↔ target ∈ fieldReferences fields')
  | .nil => .rfl
  | .cons hdecl hrest => by
    simp [fieldReferences, hdecl.mem_references_iff, hrest.mem_fieldReferences_iff]
  | .swap => by simp [fieldReferences, or_left_comm]
  | .trans h h' => h.mem_fieldReferences_iff.trans h'.mem_fieldReferences_iff

end

mutual

theorem Reordered.wellNamed {decl decl' : TypeDecl} :
    decl.Reordered decl' → decl.WellNamed → decl'.WellNamed
  | .primitive, hnamed => hnamed
  | .named, hnamed => hnamed
  | .inline h, ⟨hnodup, hfields⟩ => ⟨h.map_fst_perm.nodup hnodup, h.fieldsWellNamed hfields⟩

theorem FieldsReordered.fieldsWellNamed {fields fields' : List (String × TypeDecl)} :
    FieldsReordered fields fields' → FieldsWellNamed fields → FieldsWellNamed fields'
  | .nil, hnamed => hnamed
  | .cons hdecl hrest, ⟨hname, hnamed, hothers⟩ =>
    ⟨hname, hdecl.wellNamed hnamed, hrest.fieldsWellNamed hothers⟩
  | .swap, ⟨hname, hnamed, hname', hnamed', hothers⟩ =>
    ⟨hname', hnamed', hname, hnamed, hothers⟩
  | .trans h h', hnamed => h'.fieldsWellNamed (h.fieldsWellNamed hnamed)

end

end TypeDecl

/-- Each member of a list has its counterpart in a related list. -/
theorem exists_mem_of_forall₂ {α β : Type} {R : α → β → Prop} {list : List α} {others : List β}
    (h : List.Forall₂ R list others) {a : α} (ha : a ∈ list) : ∃ b ∈ others, R a b := by
  induction h with
  | nil => cases ha
  | cons hfirst _ ih =>
    obtain rfl | ha := List.mem_cons.mp ha
    · exact ⟨_, List.mem_cons_self, hfirst⟩
    · obtain ⟨b, hb, hrelated⟩ := ih ha
      exact ⟨b, List.mem_cons_of_mem _ hb, hrelated⟩

namespace SchemaDecl

/-- Declared records that differ in nothing but the order of fields, at any level. -/
def Reordered (decl decl' : SchemaDecl) : Prop :=
  decl.inline.Reordered decl'.inline

/-- Declarations that are permuted, and each of which may be reordered as well. -/
def ListReordered (decls decls' : List SchemaDecl) : Prop :=
  ∃ permuted, decls.Perm permuted ∧ List.Forall₂ Reordered permuted decls'

variable {decl decl' : SchemaDecl} {decls decls' : List SchemaDecl}

theorem Reordered.symm (h : decl.Reordered decl') : decl'.Reordered decl :=
  TypeDecl.Reordered.symm h

theorem Reordered.name_eq (h : decl.Reordered decl') : decl.name = decl'.name := by
  cases decl
  cases decl'
  cases h
  rfl

theorem ListReordered.symm (h : ListReordered decls decls') : ListReordered decls' decls := by
  obtain ⟨_, hperm, hreordered⟩ := h
  obtain ⟨permuted, hreordered, hperm⟩ := List.perm_comp_forall₂ hperm hreordered
  exact ⟨permuted, hperm.symm, (hreordered.imp fun _ _ => Reordered.symm).flip⟩

theorem ListReordered.exists_mem (h : ListReordered decls decls') (hdecl : decl ∈ decls) :
    ∃ decl' ∈ decls', decl.Reordered decl' := by
  obtain ⟨permuted, hperm, hreordered⟩ := h
  exact exists_mem_of_forall₂ hreordered (hperm.mem_iff.mp hdecl)

theorem ListReordered.map_name_perm (h : ListReordered decls decls') :
    (decls.map name).Perm (decls'.map name) := by
  obtain ⟨permuted, hperm, hreordered⟩ := h
  have hnames : permuted.map name = decls'.map name := by
    rw [← List.forall₂_eq_eq_eq, List.forall₂_map_left_iff, List.forall₂_map_right_iff]
    exact hreordered.imp fun _ _ => Reordered.name_eq
  exact hnames ▸ hperm.map name

end SchemaDecl

namespace Catalog

/-- Whatever is declared on one side is declared on the other side as well, under the same name and
    but for the order of fields. -/
def Included (declared declared' : Entries SchemaDecl) : Prop :=
  ∀ name decl, declared.get? name = some decl →
    ∃ decl', declared'.get? name = some decl' ∧ decl.Reordered decl'

section

variable {declared declared' : Entries SchemaDecl}

theorem Included.has (h : Included declared declared') {name : String}
    (hname : declared.has name = true) : declared'.has name = true := by
  obtain ⟨decl, hget⟩ := Option.isSome_iff_exists.mp hname
  obtain ⟨decl', hget', _⟩ := h name decl hget
  simp [Entries.has, hget']

theorem Included.refers (h : Included declared declared') {source target : String}
    (hrefers : Refers declared source target) : Refers declared' source target := by
  obtain ⟨decl, hget, htarget⟩ := hrefers
  obtain ⟨decl', hget', hdecl⟩ := h source decl hget
  exact ⟨decl', hget', hdecl.mem_references_iff.mp htarget⟩

/-- Declarations stay well-formed when they are reordered. The references are the same, and so are
    the circles. -/
theorem WellFormed.reordered (hdeclared : WellFormed declared) (h : Included declared declared')
    (h' : Included declared' declared) : WellFormed declared' where
  wellNamed name decl' hget' := by
    obtain ⟨decl, hget, hdecl⟩ := h' name decl' hget'
    exact hdecl.symm.wellNamed (hdeclared.wellNamed name decl hget)
  closed source target hrefers := h.has (hdeclared.closed source target (h'.refers hrefers))
  acyclic name hcycle := hdeclared.acyclic name (hcycle.lift id fun _ _ => h'.refers)

/-- Reordered types lead to the same leaves, also through the schemas that they refer to. -/
theorem Leads.reordered (h : Included declared declared') {decl decl' : TypeDecl} {chain : Chain}
    (hleads : Leads declared decl chain) (hdecl : decl.Reordered decl') :
    Leads declared' decl' chain := by
  induction hleads generalizing decl' with
  | primitive =>
    cases hdecl
    exact .primitive
  | blank =>
    cases hdecl with
    | inline hfields =>
      cases List.map_eq_nil_iff.mp hfields.map_fst_perm.nil_eq.symm
      exact .blank
  | field hfield _ ih =>
    cases hdecl with
    | inline hfields =>
      obtain ⟨inner, hfield', hinner⟩ := hfields.exists_mem hfield
      exact .field hfield' (ih hinner)
  | named hget _ ih =>
    cases hdecl
    obtain ⟨target, hget', htarget⟩ := h _ _ hget
    exact .named hget' (ih htarget)

end

section

variable {catalog start result result' : Catalog} {decls decls' : List SchemaDecl}

/-- All schemas of a coherent catalog resolve when they are well-formed. -/
theorem Coherent.resolveAll_ok_iff (h : catalog.Coherent) :
    catalog.resolveAll.1 = .ok () ↔ WellFormed catalog.declared := by
  rw [h.resolveAll.1, wellFormed_iff]
  refine Iff.trans forM_eq_ok_iff (forall_congr' fun name => ?_)
  simp [Entries.mem_names_iff, bind_eq_ok_iff, pure, Except.pure]

/-- Under a name the result has what was declared with it, now or before. -/
theorem get?_foldlM_declare (h : decls.foldlM declare start = .ok result) {name : String}
    {decl : SchemaDecl} : result.declared.get? name = some decl ↔
      start.declared.get? name = some decl ∨ decl ∈ decls ∧ decl.name = some name := by
  induction decls generalizing start with
  | nil =>
    cases h
    simp
  | cons first rest ih =>
    obtain ⟨next, hfirst, hrest⟩ := foldlM_declare_cons_eq_ok_iff.mp h
    obtain ⟨key, hkey, _, hnew, rfl⟩ := declare_eq_ok_iff.mp hfirst
    have hfresh : start.declared.get? key = none := by simpa [Entries.has] using hnew
    rw [ih hrest, List.mem_cons, or_and_right]
    by_cases hname : key = name
    · subst hname
      rw [Entries.get?_put_self, hfresh, Option.some.injEq]
      refine (or_congr_left ⟨?_, ?_⟩).trans (or_iff_right nofun).symm
      · rintro rfl
        exact ⟨rfl, hkey⟩
      · exact fun h => h.1.symm
    · rw [Entries.get?_put_of_ne hname]
      refine or_congr_right (or_iff_right ?_).symm
      rintro ⟨rfl, hdecl⟩
      exact hname (Option.some.inj (hkey.symm.trans hdecl))

/-- Catalogs in which reordered declarations are taken in include each other. -/
theorem included_foldlM_declare (h : SchemaDecl.ListReordered decls decls')
    (hresult : decls.foldlM declare {} = .ok result)
    (hresult' : decls'.foldlM declare {} = .ok result') :
    Included result.declared result'.declared := by
  intro name decl hget
  obtain ⟨⟨⟩⟩ | ⟨hmem, hname⟩ := (get?_foldlM_declare hresult).mp hget
  obtain ⟨decl', hmem', hdecl⟩ := h.exists_mem hmem
  have hname' := hdecl.name_eq.symm.trans hname
  exact ⟨decl', (get?_foldlM_declare hresult').mpr (.inr ⟨hmem', hname'⟩), hdecl⟩

end

end Catalog

end InfoFlow
