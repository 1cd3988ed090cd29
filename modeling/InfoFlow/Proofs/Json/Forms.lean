import InfoFlow.Config.Toolchain
import InfoFlow.Proofs.AccessPath.ChainSet
import InfoFlow.Proofs.Json.Source
import InfoFlow.Schema.Json
import InfoFlow.TagCheck.Json

namespace InfoFlow

open Json (Form Gives LawfulSource Refusal RoundTrips Showing Shows Source Spot Value)

theorem Selector.gives (selector : Selector) : Gives Selector.read selector.toJson selector :=
  Spot.gives_choice_withValue (by simp [choice]) ((LawfulSource.string selector.field).map _)

theorem Chain.gives (chain : Chain) : Gives Chain.read chain.toJson chain :=
  Gives.listMap fun selector _ => selector.gives

theorem ChainSet.gives (s : ChainSet) : Gives ChainSet.read s.toJson s := by
  have hchains : Gives (Spot.readList Chain.read) s.toJson s.chains :=
    Gives.listMap fun chain _ => chain.gives
  have hset := hchains.map ChainSet.ofList
  rw [ofList_chains] at hset
  exact hset

theorem Root.gives (root : Root) : Gives Root.read root.toJson root := by
  cases root with
  | connection recipe particle handle =>
    have hnames : Gives (Source.record connectionForm) (.object [("recipe", .text recipe),
        ("particle", .text particle), ("handle", .text handle)]) (recipe, particle, handle) :=
      LawfulSource.record <| .cons rfl (Gives.needed (LawfulSource.string recipe)) <|
        .cons rfl (Gives.needed (LawfulSource.string particle)) <|
        .cons rfl (Gives.needed (LawfulSource.string handle)) <| .nil rfl
    exact Gives.tagged tagging (by decide) (by simp [tagging]) (hnames.map _)
  | specification particle handle =>
    have hnames : Gives (Source.record specificationForm) (.object [("particle_spec",
        .text particle), ("handle_spec", .text handle)]) (particle, handle) :=
      LawfulSource.record <| .cons rfl (Gives.needed (LawfulSource.string particle)) <|
        .cons rfl (Gives.needed (LawfulSource.string handle)) <| .nil rfl
    exact Gives.tagged tagging (by decide) (by simp [tagging]) (hnames.map _)

theorem AccessPath.gives (path : AccessPath) : Gives AccessPath.read path.toJson path :=
  LawfulSource.record <| .cons rfl (Gives.needed path.root.gives) <|
    .cons rfl (Gives.extra path.selectors.gives) <| .nil rfl

theorem Edge.gives (edge : Edge) : Gives Edge.read edge.toJson edge :=
  LawfulSource.record <| .cons rfl (Gives.needed edge.source.gives) <|
    .cons rfl (Gives.needed edge.target.gives) <| .nil rfl

theorem TagClaim.gives (claim : TagClaim) : Gives TagClaim.read claim.toJson claim :=
  LawfulSource.record <| .cons rfl (Gives.needed (LawfulSource.string claim.particle)) <|
    .cons rfl (Gives.needed claim.path.gives) <|
    .cons rfl (Gives.needed (LawfulSource.string claim.tag)) <| .nil rfl

theorem Ownership.gives (ownership : Ownership) :
    Gives Ownership.read ownership.toJson ownership :=
  LawfulSource.record <| .cons rfl (Gives.needed (LawfulSource.string ownership.owner)) <|
    .cons rfl (Gives.needed ownership.path.gives) <| .nil rfl

namespace Predicate

theorem gives_operands {read : Value → Except Refusal Predicate} {left right : Predicate}
    (hleft : Gives read left.toJson left) (hright : Gives read right.toJson right) :
    Gives (Source.record (operandsForm read))
      (.object [("lhs", left.toJson), ("rhs", right.toJson)]) (left, right) :=
  LawfulSource.record <| .cons rfl hleft.needed <| .cons rfl hright.needed <| .nil rfl

/-- A predicate is read when those that are nested less deep are. -/
theorem gives_tagged {σ : Type} [Source σ] [Showing σ] [LawfulSource σ]
    {read : Value → Except Refusal Predicate} (p : Predicate)
    (h : ∀ q : Predicate, q.toJson.nesting < p.toJson.nesting → Gives read q.toJson q) :
    Gives (fun source : σ => Source.tagged tagging source >>= fun r => ofTagged read r.1 r.2)
      p.toJson p := by
  cases p with
  | tag name =>
    have hname : Gives (Source.record tagForm) (.object [("tag", .text name)]) name :=
      LawfulSource.record <| .cons rfl (Gives.needed (LawfulSource.string name)) <| .nil rfl
    exact Gives.tagged tagging (by decide) (by simp [tagging]) (hname.map _)
  | and left right =>
    have hoperands := gives_operands (h left (Value.nesting_lt_of_mem_object "lhs" (by simp)))
      (h right (Value.nesting_lt_of_mem_object "rhs" (by simp)))
    exact Gives.tagged tagging (by decide) (by simp [tagging]) (hoperands.map _)
  | or left right =>
    have hoperands := gives_operands (h left (Value.nesting_lt_of_mem_object "lhs" (by simp)))
      (h right (Value.nesting_lt_of_mem_object "rhs" (by simp)))
    exact Gives.tagged tagging (by decide) (by simp [tagging]) (hoperands.map _)
  | not operand =>
    have hoperand := h operand (Value.nesting_lt_of_mem_object "operand" (by simp))
    have hform : Gives (Source.record (operandForm read)) (.object [("operand", operand.toJson)])
        operand :=
      LawfulSource.record <| .cons rfl hoperand.needed <| .nil rfl
    exact Gives.tagged tagging (by decide) (by simp [tagging]) (hform.map _)

theorem gives_ofValue {depth : Nat} {p : Predicate} (h : p.toJson.nesting ≤ depth) :
    Gives (ofValue depth) p.toJson p := by
  induction depth generalizing p with
  | zero => cases p <;> simp [toJson, Value.nesting] at h
  | succ depth ih =>
    exact gives_tagged p fun q hq => ih (Nat.le_of_lt_succ (Nat.lt_of_lt_of_le hq h))

theorem gives (p : Predicate) : Gives Predicate.read p.toJson p := by
  intro spot hspot
  obtain ⟨_, hnesting, hroom⟩ := id hspot
  refine gives_tagged p (fun q hq => gives_ofValue ?_) spot hspot
  exact Nat.le_of_lt (Nat.lt_trans hq (Nat.lt_of_lt_of_le hnesting hroom))

end Predicate

theorem TagCheck.gives (check : TagCheck) : Gives TagCheck.read check.toJson check :=
  LawfulSource.record <| .cons rfl (Gives.needed check.path.gives) <|
    .cons rfl (Gives.needed check.predicate.gives) <| .nil rfl

section

variable {σ : Type} [Source σ] [Showing σ] [LawfulSource σ]

theorem gives_nameJson (name : Option String) :
    Gives (σ := σ) (Source.optional Source.string) (nameJson name) name := by
  cases name with
  | none => exact LawfulSource.optional_null _
  | some name => exact LawfulSource.optional_of_ne (by simp [nameJson]) (LawfulSource.string name)

/-- The form of a declared field. -/
def TypeDecl.fieldJson (field : String × TypeDecl) : Value :=
  .object [("name", .text field.1), ("type", field.2.toJson)]

theorem TypeDecl.fieldsJson_eq_map (fields : List (String × TypeDecl)) :
    TypeDecl.fieldsJson fields = fields.map TypeDecl.fieldJson := by
  induction fields with
  | nil => rfl
  | cons field rest ih => rw [TypeDecl.fieldsJson, ih, List.map_cons, TypeDecl.fieldJson]

/-- A declaration is read when the types of its fields are. -/
theorem SchemaDecl.gives_record {read : σ → Except Refusal TypeDecl} (decl : SchemaDecl)
    (h : ∀ field ∈ decl.fields, Gives read field.2.toJson field.2) :
    Gives (Source.record (SchemaDecl.form read)) decl.toJson decl := by
  have hfields : Gives (Source.list (Source.record (fieldForm read)))
      (.array (TypeDecl.fieldsJson decl.fields)) decl.fields := by
    rw [TypeDecl.fieldsJson_eq_map]
    refine Gives.listMap fun field hfield => ?_
    exact LawfulSource.record <| .cons rfl (Gives.needed (LawfulSource.string field.1)) <|
      .cons rfl (h field hfield).needed <| .nil rfl
  exact LawfulSource.record <| .cons rfl (gives_nameJson decl.name).extra <|
    .cons rfl hfields.extra <| .nil rfl

namespace TypeDecl

/-- A declared type is read when those that are nested less deep are. -/
theorem gives_tagged {read : Value → Except Refusal TypeDecl} (decl : TypeDecl)
    (h : ∀ inner : TypeDecl, inner.toJson.nesting < decl.toJson.nesting →
      Gives read inner.toJson inner) :
    Gives (fun source : σ => Source.tagged tagging source >>= fun r => ofTagged read r.1 r.2)
      decl.toJson decl := by
  cases decl with
  | primitive =>
    have hprimitive : Gives (ofTagged read "primitive") (.object []) .primitive := by
      rintro _ rfl
      rfl
    exact Gives.tagged tagging (by decide) (by simp) hprimitive
  | inline name fields =>
    have hfields : ∀ field ∈ fields, Gives read field.2.toJson field.2 := by
      intro field hfield
      have hmem : fieldJson field ∈ fieldsJson fields :=
        fieldsJson_eq_map fields ▸ List.mem_map_of_mem hfield
      have hfieldLt : field.2.toJson.nesting < (fieldJson field).nesting :=
        Value.nesting_lt_of_mem_object "type" (by simp)
      have hlistLt := Value.nesting_lt_of_mem_array hmem
      have hdeclLt :
          (Value.array (fieldsJson fields)).nesting < (inline name fields).toJson.nesting :=
        Value.nesting_lt_of_mem_object "fields" (by simp)
      exact h field.2 (Nat.lt_trans hfieldLt (Nat.lt_trans hlistLt hdeclLt))
    have hdecl := SchemaDecl.gives_record ⟨name, fields⟩ hfields
    exact Gives.tagged tagging (by decide) (by simp [tagging]) (hdecl.map _)
  | named name =>
    have hname : Gives (Source.record namedForm) (.object [("name", .text name)]) name :=
      LawfulSource.record <| .cons rfl (Gives.needed (LawfulSource.string name)) <| .nil rfl
    exact Gives.tagged tagging (by decide) (by simp [tagging]) (hname.map _)

theorem gives_ofValue {depth : Nat} {decl : TypeDecl} (h : decl.toJson.nesting ≤ depth) :
    Gives (ofValue depth) decl.toJson decl := by
  induction depth generalizing decl with
  | zero => cases decl <;> simp [toJson, Value.nesting] at h
  | succ depth ih =>
    exact gives_tagged decl fun inner hinner =>
      ih (Nat.le_of_lt_succ (Nat.lt_of_lt_of_le hinner h))

theorem gives (decl : TypeDecl) : Gives TypeDecl.read decl.toJson decl := by
  intro spot hspot
  obtain ⟨_, hnesting, hroom⟩ := id hspot
  refine gives_tagged decl (fun inner hinner => gives_ofValue ?_) spot hspot
  exact Nat.le_of_lt (Nat.lt_trans hinner (Nat.lt_of_lt_of_le hnesting hroom))

end TypeDecl

end

theorem SchemaDecl.gives (decl : SchemaDecl) : Gives SchemaDecl.read decl.toJson decl :=
  gives_record decl fun field _ => field.2.gives

theorem gives_texts (list : List String) :
    Gives (σ := Spot) (Source.list Source.string) (.texts list) list :=
  Gives.listMap fun s _ => LawfulSource.string s

theorem ArgStyle.gives (style : ArgStyle) :
    Gives (Spot.readChoice choice) (.text style.name) style := by
  cases style with
  | flags => exact Spot.gives_choice_alone (by decide) rfl
  | positional => exact Spot.gives_choice_alone (by decide) rfl

theorem Toolchain.gives (toolchain : Toolchain) :
    Gives Toolchain.read toolchain.toJson toolchain :=
  LawfulSource.record <| .cons rfl (Gives.extra (LawfulSource.string toolchain.compiler)) <|
    .cons rfl (gives_texts toolchain.leadingArgs).extra <|
    .cons rfl (Gives.extra toolchain.argStyle.gives) <|
    .cons rfl (gives_texts toolchain.includes).extra <| .nil rfl

end InfoFlow
