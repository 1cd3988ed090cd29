import InfoFlow.Program.Basic
import InfoFlow.Proofs.Steps

namespace InfoFlow

theorem Identifier.check_eq_ok_iff {name : String} :
    Identifier.check name = .ok () ↔ Valid name := by
  unfold Identifier.check Valid
  split <;> simp_all

/-- No character of a valid identifier has a defect. -/
theorem Identifier.Valid.defectOf_eq_none {name : String} (h : Valid name) {c : Char}
    (hc : c ∈ name.toList) : defectOf c = none := by
  unfold Valid defect? at h
  split at h
  · cases h
  · exact List.findSome?_eq_none_iff.mp h c hc

theorem Identifier.Valid.ne_quote {name : String} (h : Valid name) : '"' ∉ name.toList := by
  intro hc
  have := h.defectOf_eq_none hc
  simp [defectOf] at this

theorem Identifier.Valid.ne_blank {name : String} (h : Valid name) : ' ' ∉ name.toList := by
  intro hc
  have := h.defectOf_eq_none hc
  simp [defectOf, Text.isBlank] at this

theorem Identifier.Valid.ne_dot {name : String} (h : Valid name) : '.' ∉ name.toList := by
  intro hc
  have := h.defectOf_eq_none hc
  simp [defectOf] at this

theorem not_mem_intercalate {α : Type} {a : α} {separator : List α} {parts : List (List α)}
    (hseparator : a ∉ separator) (hparts : ∀ part ∈ parts, a ∉ part) :
    a ∉ separator.intercalate parts := by
  induction parts with
  | nil => simp
  | cons part rest ih =>
    have hpart := hparts part (by simp)
    have hrest := ih fun other hother => hparts other (by simp [hother])
    cases rest with
    | nil => simpa using hpart
    | cons second rest => simp [hpart, hseparator, hrest]

/-- A root whose names are all valid. -/
def Root.Valid (root : Root) : Prop :=
  ∀ name ∈ root.names, Identifier.Valid name

theorem Root.check_eq_ok_iff {root : Root} : root.check = .ok () ↔ root.Valid :=
  forM_eq_ok_iff.trans (forall₂_congr fun _ _ => Identifier.check_eq_ok_iff)

theorem Chain.check_eq_ok_iff {chain : Chain} :
    chain.check = .ok () ↔ ∀ field ∈ chain.fields, Identifier.Valid field :=
  forM_eq_ok_iff.trans (forall₂_congr fun _ _ => Identifier.check_eq_ok_iff)

namespace AccessPath

/-- A path whose names are all valid, those of its root and those of its fields. -/
def Valid (path : AccessPath) : Prop :=
  ∀ name ∈ path.names, Identifier.Valid name

theorem valid_iff {path : AccessPath} : path.Valid ↔
    path.root.Valid ∧ ∀ field ∈ path.selectors.fields, Identifier.Valid field := by
  simp [Valid, Root.Valid, names, or_imp, forall_and]

theorem check_eq_ok_iff {path : AccessPath} : path.check = .ok () ↔ path.Valid := by
  rw [check, check_bind_eq_ok_iff, Root.check_eq_ok_iff, Chain.check_eq_ok_iff, valid_iff]

/-- The term of a valid path can stand between quotes. -/
theorem Valid.ne_quote {path : AccessPath} (h : path.Valid) : '"' ∉ path.term.toList := by
  rw [term, String.toList_intercalate]
  refine not_mem_intercalate (by decide) fun name hname => ?_
  obtain ⟨part, hpart, rfl⟩ := List.mem_map.mp hname
  exact (h part hpart).ne_quote

end AccessPath

namespace Predicate

/-- The tags that a predicate asks for. -/
def tags : Predicate → List String
  | .tag name => [name]
  | .and left right | .or left right => left.tags ++ right.tags
  | .not operand => operand.tags

theorem check_eq_ok_iff {p : Predicate} :
    p.check = .ok () ↔ ∀ tag ∈ p.tags, Identifier.Valid tag := by
  induction p with
  | tag name => simp [check, tags, Identifier.check_eq_ok_iff]
  | and left right ihl ihr | or left right ihl ihr =>
    simp [check, tags, check_bind_eq_ok_iff, ihl, ihr, or_imp, forall_and]
  | not operand ih => simpa [check, tags] using ih

end Predicate

theorem TagClaim.check_eq_ok_iff {claim : TagClaim} : claim.check = .ok () ↔
    Identifier.Valid claim.particle ∧ claim.path.Valid ∧ Identifier.Valid claim.tag := by
  simp [check, check_bind_eq_ok_iff, Identifier.check_eq_ok_iff, AccessPath.check_eq_ok_iff]

theorem Ownership.check_eq_ok_iff {ownership : Ownership} : ownership.check = .ok () ↔
    Identifier.Valid ownership.owner ∧ ownership.path.Valid := by
  simp [check, check_bind_eq_ok_iff, Identifier.check_eq_ok_iff, AccessPath.check_eq_ok_iff]

theorem Edge.check_eq_ok_iff {edge : Edge} :
    edge.check = .ok () ↔ edge.source.Valid ∧ edge.target.Valid := by
  simp [check, check_bind_eq_ok_iff, AccessPath.check_eq_ok_iff]

theorem TagCheck.check_eq_ok_iff {c : TagCheck} :
    c.check = .ok () ↔ c.path.Valid ∧ c.predicate.check = .ok () := by
  simp [check, check_bind_eq_ok_iff, AccessPath.check_eq_ok_iff]

/-- A program whose parts all pass their checks. -/
structure Program.Valid (program : Program) : Prop where
  claims : ∀ claim ∈ program.claims, claim.check = .ok ()
  ownership : ∀ ownership ∈ program.ownership, ownership.check = .ok ()
  edges : ∀ edge ∈ program.edges, edge.check = .ok ()
  checks : ∀ check ∈ program.checks, check.check = .ok ()

end InfoFlow
