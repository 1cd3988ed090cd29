import InfoFlow.Proofs.Json.Forms

namespace InfoFlow

open Json (RoundTrips Value nestingLimit readText)

namespace Json.Value

theorem itemsNumberless_iff {items : List Value} :
    ItemsNumberless items ↔ ∀ item ∈ items, item.Numberless := by
  induction items with
  | nil => simp [ItemsNumberless]
  | cons item rest ih => simp [ItemsNumberless, ih]

theorem membersNumberless_iff {members : List (String × Value)} :
    MembersNumberless members ↔ ∀ member ∈ members, member.2.Numberless := by
  induction members with
  | nil => simp [MembersNumberless]
  | cons member rest ih => simp [MembersNumberless, ih]

@[simp] theorem numberless_null : null.Numberless := trivial

@[simp] theorem numberless_text (s : String) : (text s).Numberless := trivial

@[simp] theorem numberless_array {items : List Value} :
    (array items).Numberless ↔ ∀ item ∈ items, item.Numberless :=
  itemsNumberless_iff

@[simp] theorem numberless_object {members : List (String × Value)} :
    (object members).Numberless ↔ ∀ member ∈ members, member.2.Numberless :=
  membersNumberless_iff

@[simp] theorem numberless_texts (list : List String) : (texts list).Numberless := by
  simp [texts]

end Json.Value

@[simp] theorem Selector.numberless (selector : Selector) : selector.toJson.Numberless := by
  simp [toJson]

@[simp] theorem Chain.numberless (chain : Chain) : chain.toJson.Numberless := by
  simp [toJson]

@[simp] theorem ChainSet.numberless (s : ChainSet) : s.toJson.Numberless := by
  simp [toJson]

@[simp] theorem Root.numberless (root : Root) : root.toJson.Numberless := by
  cases root <;> simp [toJson]

@[simp] theorem AccessPath.numberless (path : AccessPath) : path.toJson.Numberless := by
  simp [toJson]

@[simp] theorem Edge.numberless (edge : Edge) : edge.toJson.Numberless := by
  simp [toJson]

@[simp] theorem TagClaim.numberless (claim : TagClaim) : claim.toJson.Numberless := by
  simp [toJson]

@[simp] theorem Ownership.numberless (ownership : Ownership) :
    ownership.toJson.Numberless := by
  simp [toJson]

@[simp] theorem Predicate.numberless (p : Predicate) : p.toJson.Numberless := by
  induction p with
  | tag name => simp [toJson]
  | and left right ihl ihr | or left right ihl ihr => simp [toJson, ihl, ihr]
  | not operand ih => simp [toJson, ih]

@[simp] theorem TagCheck.numberless (check : TagCheck) : check.toJson.Numberless := by
  simp [toJson]

@[simp] theorem numberless_nameJson (name : Option String) : (nameJson name).Numberless := by
  cases name <;> simp [nameJson]

mutual

@[simp] theorem TypeDecl.numberless (decl : TypeDecl) : decl.toJson.Numberless := by
  cases decl with
  | primitive => simp [toJson]
  | inline name fields => simpa [toJson] using TypeDecl.numberless_fields fields
  | named name => simp [toJson]

theorem TypeDecl.numberless_fields (fields : List (String × TypeDecl)) :
    ∀ item ∈ TypeDecl.fieldsJson fields, item.Numberless := by
  cases fields with
  | nil => simp [fieldsJson]
  | cons field rest =>
    have hdecl := TypeDecl.numberless field.2
    have hrest := TypeDecl.numberless_fields rest
    simpa [fieldsJson, hdecl] using hrest

end

@[simp] theorem SchemaDecl.numberless (decl : SchemaDecl) : decl.toJson.Numberless := by
  simpa [toJson] using TypeDecl.numberless_fields decl.fields

@[simp] theorem Toolchain.numberless (toolchain : Toolchain) : toolchain.toJson.Numberless := by
  simp [toJson]

/-- All values of the model are read back from what is printed for them. Nothing is asked of the
    strings in them. -/
theorem forms_roundTrip :
    RoundTrips Selector.read Selector.toJson ∧ RoundTrips Chain.read Chain.toJson ∧
    RoundTrips ChainSet.read ChainSet.toJson ∧ RoundTrips Root.read Root.toJson ∧
    RoundTrips AccessPath.read AccessPath.toJson ∧ RoundTrips Edge.read Edge.toJson ∧
    RoundTrips TagClaim.read TagClaim.toJson ∧ RoundTrips Ownership.read Ownership.toJson ∧
    RoundTrips Predicate.read Predicate.toJson ∧ RoundTrips TagCheck.read TagCheck.toJson ∧
    RoundTrips TypeDecl.read TypeDecl.toJson ∧ RoundTrips SchemaDecl.read SchemaDecl.toJson ∧
    RoundTrips Toolchain.read Toolchain.toJson :=
  ⟨.of_gives Selector.numberless Selector.gives, .of_gives Chain.numberless Chain.gives,
    .of_gives ChainSet.numberless ChainSet.gives, .of_gives Root.numberless Root.gives,
    .of_gives AccessPath.numberless AccessPath.gives, .of_gives Edge.numberless Edge.gives,
    .of_gives TagClaim.numberless TagClaim.gives,
    .of_gives Ownership.numberless Ownership.gives,
    .of_gives Predicate.numberless Predicate.gives, .of_gives TagCheck.numberless TagCheck.gives,
    .of_gives TypeDecl.numberless TypeDecl.gives,
    .of_gives SchemaDecl.numberless SchemaDecl.gives,
    .of_gives Toolchain.numberless Toolchain.gives⟩

/-- A check whose names need every kind of escape. -/
def TagCheck.unprintable : TagCheck where
  path := ⟨.specification "\n\t" "", [⟨"\\\""⟩]⟩
  predicate := .not (.or (.tag "\x00\x1f\x7f") (.and (.tag "/\x08\x0c\r") (.tag "é\u2028")))

theorem forms_roundTrip_unprintable : TagCheck.unprintable.toJson.nesting < nestingLimit ∧
    readText TagCheck.read TagCheck.unprintable.toJson.compact = .ok .unprintable := by
  have hnesting : TagCheck.unprintable.toJson.nesting < nestingLimit := by decide
  obtain ⟨_, _, _, _, _, _, _, _, _, hcheck, _⟩ := forms_roundTrip
  exact ⟨hnesting, (hcheck .unprintable hnesting Value.compact (by simp)).1⟩

end InfoFlow
