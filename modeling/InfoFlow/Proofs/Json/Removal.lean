import InfoFlow.Json.Reader
import InfoFlow.Proofs.Json.Outline
import InfoFlow.Proofs.Steps

namespace InfoFlow.Json

/-- The members that have another name. -/
def Members.without (name : String) : Members → Members
  | .close => .close
  | .member key value rest =>
    if key.read.toOption = some name then rest.without name
    else .member key value (rest.without name)
  | .keyless found => .keyless found
  | .unseparated stop => .unseparated stop

/-- The first items, and no more. -/
def Items.first : Nat → Items → Items
  | 0, _ => .close
  | count + 1, .item value rest => .item value (rest.first count)
  | _ + 1, items => items

/-- A record without the last of its fields, which has the given name. -/
def Outline.withoutLast {β : Type} (form : Form Spot β) (name : String) : Outline → Outline
  | .object members => .object (members.without name)
  | .array items => .array (items.first (form.fields.length - 1))
  | outline => outline

/-- A text is another one without the last field of its record. -/
def Removes {β : Type} (form : Form Spot β) (name : String) (text shorter : String) : Prop :=
  let document := Document.ofMarks (text.toList.map some)
  Document.ofMarks (shorter.toList.map some) =
    { document with value := document.value.withoutLast form name }

/-- To clear a record undoes what the field does that is read, and nothing else: it may be done
    before or after any other field is read. -/
structure Field.Clears {β : Type} (field : Field Spot β) (clear : β → β) : Prop where
  required : field.required = false
  read : ∀ spot record next, field.read spot record = .ok next → clear next = clear record

def Field.Keeps {β : Type} (field : Field Spot β) (clear : β → β) : Prop :=
  ∀ spot record next, field.read spot record = .ok next →
    field.read spot (clear record) = .ok (clear next)

/-- A field that may be left out is cleared by what undoes its setting. -/
theorem Field.clears_extra {α β : Type} {name : String} {read : Spot → Except Refusal α}
    {set : α → β → β} {clear : β → β} (h : ∀ a record, clear (set a record) = clear record) :
    (Field.extra name read set).Clears clear := by
  refine ⟨rfl, fun spot record next hnext => ?_⟩
  obtain ⟨a, _, ha⟩ := map_eq_ok_iff.mp hnext
  rw [← ha, h]

theorem Field.keeps_extra {α β : Type} {name : String} {read : Spot → Except Refusal α}
    {set : α → β → β} {clear : β → β}
    (h : ∀ a record, clear (set a record) = set a (clear record)) :
    (Field.extra name read set).Keeps clear := by
  intro spot record next hnext
  obtain ⟨a, ha, hset⟩ := map_eq_ok_iff.mp hnext
  exact map_eq_ok_iff.mpr ⟨a, ha, by rw [← hset, h]⟩

theorem lift_eq_ok_iff {α : Type} {x : Except Stop α} {a : α} :
    (liftM x : Except Refusal α) = .ok a ↔ x = .ok a := by
  cases x <;> simp [liftM, monadLift, MonadLift.monadLift, Except.mapError]

section

variable {β : Type} {form : Form Spot β} {before : List (Field Spot β)} {last : Field Spot β}
  {clear : β → β} {room : Nat} {seen : List String} {record result : β} {name : String}

theorem Form.finish_eq_ok_iff : form.finish seen record = .ok result ↔
    (∀ field ∈ form.fields, field.required = true → field.name ∈ seen) ∧ record = result := by
  unfold finish
  split
  · rename_i field hfield
    have hmem := List.mem_of_find?_eq_some hfield
    obtain ⟨hrequired, hmissing⟩ : field.required = true ∧ field.name ∉ seen := by
      simpa using List.find?_some hfield
    exact iff_of_false (by simp) fun h => hmissing (h.1 field hmem hrequired)
  · rename_i hnone
    simp_all

theorem Form.finishShort_eq_ok_iff {fields : List (Field Spot β)} :
    Form.finishShort fields record = .ok result ↔
      fields.any (·.required) = false ∧ record = result := by
  unfold finishShort
  cases fields.any (·.required) <;> simp

theorem Form.fieldFor_filter (hname : name ≠ last.name) :
    form.fieldFor (seen.filter (· ≠ last.name)) name = form.fieldFor seen name := by
  have hcontains : (seen.filter (· ≠ last.name)).contains name = seen.contains name := by
    simp [hname]
  unfold fieldFor
  rw [hcontains]

theorem Form.mem_of_fieldFor {field : Field Spot β}
    (h : form.fieldFor seen name = .ok (some field)) :
    field ∈ form.fields ∧ field.name = name := by
  unfold fieldFor at h
  split at h
  · split at h <;> cases h
  · rename_i found hfound
    split at h
    · cases h
    · cases h
      exact ⟨List.mem_of_find?_eq_some hfound, by simpa using List.find?_some hfound⟩

/-- Members are read in turn: the name, what the member is for, and the value. -/
theorem readMembers_member_eq_ok_iff {key : Key} {value : Outline} {rest : Members} :
    Spot.readMembers form room (.member key value rest) seen record = .ok result ↔
      ∃ name, key.read = .ok name ∧
        ((form.fieldFor seen name = .ok none ∧ value.skip = .ok () ∧
          Spot.readMembers form room rest seen record = .ok result) ∨
        ∃ field next, form.fieldFor seen name = .ok (some field) ∧
          field.read ⟨room, value⟩ record = .ok next ∧
          Spot.readMembers form room rest (name :: seen) next = .ok result) := by
  rw [Spot.readMembers, bind_eq_ok_iff]
  refine exists_congr fun name => ?_
  rw [lift_eq_ok_iff, and_congr_right_iff, bind_eq_ok_iff]
  intro _
  constructor
  · rintro ⟨field?, hfield, h⟩
    cases field? with
    | none =>
      obtain ⟨hskip, h⟩ := check_bind_eq_ok_iff.mp h
      exact .inl ⟨hfield, lift_eq_ok_iff.mp hskip, h⟩
    | some field =>
      obtain ⟨next, hnext, h⟩ := bind_eq_ok_iff.mp h
      exact .inr ⟨field, next, hfield, hnext, h⟩
  · rintro (⟨hfield, hskip, h⟩ | ⟨field, next, hfield, hnext, h⟩)
    · exact ⟨none, hfield, check_bind_eq_ok_iff.mpr ⟨lift_eq_ok_iff.mpr hskip, h⟩⟩
    · exact ⟨some field, hfield, bind_eq_ok_iff.mpr ⟨next, hnext, h⟩⟩

variable (hform : form.fields = before ++ [last]) (hlast : last.Clears clear)
  (hnames : ∀ field ∈ before, field.name ≠ last.name)
  (hbefore : ∀ field ∈ before, field.Keeps clear)

include hform hlast hnames hbefore

/-- Members are read without those for the last field. What was seen before is without its name,
    too. -/
theorem readMembers_without {members : Members}
    (h : Spot.readMembers form room members seen record = .ok result) :
    Spot.readMembers form room (members.without last.name) (seen.filter (· ≠ last.name))
      (clear record) = .ok (clear result) := by
  -- By induction on the members that are kept. A member for the last field changes the record and
  -- the names that were seen; `clear` and the filter undo both.
  fun_induction Members.without last.name members generalizing seen record with
  | case1 =>
    obtain ⟨hseen, rfl⟩ := Form.finish_eq_ok_iff.mp h
    refine Form.finish_eq_ok_iff.mpr ⟨fun field hfield hrequired => ?_, rfl⟩
    have hknown := hseen field hfield hrequired
    rw [hform, List.mem_append, List.mem_singleton] at hfield
    obtain hfield | rfl := hfield
    · exact List.mem_filter.mpr ⟨hknown, by simpa using hnames field hfield⟩
    · cases hlast.required.symm.trans hrequired
  | case2 key value rest hkey ih =>
    obtain ⟨name, hname, h⟩ := readMembers_member_eq_ok_iff.mp h
    obtain rfl : name = last.name := by simpa [hname, Except.toOption] using hkey
    obtain ⟨_, _, h⟩ | ⟨field, next, hfield, hnext, h⟩ := h
    · exact ih h
    · obtain ⟨hmem, hfieldName⟩ := Form.mem_of_fieldFor hfield
      rw [hform, List.mem_append, List.mem_singleton] at hmem
      obtain hmem | rfl := hmem
      · exact absurd hfieldName (hnames field hmem)
      · have hrest := ih h
        rwa [List.filter_cons_of_neg (by simp), hlast.read _ _ _ hnext] at hrest
  | case3 key value rest hkey ih =>
    obtain ⟨name, hname, h⟩ := readMembers_member_eq_ok_iff.mp h
    have hne : name ≠ last.name := fun hsame => hkey (by rw [hname, hsame]; rfl)
    refine readMembers_member_eq_ok_iff.mpr ⟨name, hname, ?_⟩
    rw [Form.fieldFor_filter hne]
    obtain ⟨hfield, hskip, h⟩ | ⟨field, next, hfield, hnext, h⟩ := h
    · exact .inl ⟨hfield, hskip, ih h⟩
    · obtain ⟨hmem, rfl⟩ := Form.mem_of_fieldFor hfield
      rw [hform, List.mem_append, List.mem_singleton] at hmem
      have hkeeps := hbefore field (hmem.resolve_right fun hsame => hne (by rw [hsame]))
      have hrest := ih h
      rw [List.filter_cons_of_pos (by simpa using hne)] at hrest
      exact .inr ⟨field, clear next, hfield, hkeeps _ _ _ hnext, hrest⟩
  | case4 found => cases found <;> cases h
  | case5 stop => cases h

omit hform hnames in
/-- The items of a record are read without the last one. -/
theorem readItems_first {items : Items}
    (h : Spot.readItems room (before ++ [last]) items record = .ok result) :
    Spot.readItems room (before ++ [last]) (items.first before.length) (clear record) =
      .ok (clear result) := by
  induction before generalizing items record with
  | nil =>
    have hclear : clear record = clear result := by
      cases items with
      | close => rw [(Form.finishShort_eq_ok_iff.mp h).2]
      | item value rest =>
        obtain ⟨next, hnext, h⟩ := bind_eq_ok_iff.mp h
        cases rest with
        | close =>
          cases h
          exact (hlast.read _ _ _ hnext).symm
        | _ => cases h
      | unseparated stop => cases h
    exact Form.finishShort_eq_ok_iff.mpr ⟨by simp [hlast.required], hclear⟩
  | cons field before ih =>
    rw [List.forall_mem_cons] at hbefore
    cases items with
    | close =>
      obtain ⟨hrequired, rfl⟩ := Form.finishShort_eq_ok_iff.mp h
      exact Form.finishShort_eq_ok_iff.mpr ⟨hrequired, rfl⟩
    | item value rest =>
      obtain ⟨next, hnext, h⟩ := bind_eq_ok_iff.mp h
      exact bind_eq_ok_iff.mpr ⟨clear next, hbefore.1 _ _ _ hnext, ih hbefore.2 h⟩
    | unseparated stop => cases h

variable (hblank : clear form.blank = form.blank)

include hblank

/-- A record is read without its last field. -/
theorem readRecord_withoutLast {outline : Outline}
    (h : Spot.readRecord form ⟨room, outline⟩ = .ok result) :
    Spot.readRecord form ⟨room, outline.withoutLast form last.name⟩ = .ok (clear result) := by
  cases outline with
  | object members =>
    obtain ⟨inner, hinner, h⟩ := bind_eq_ok_iff.mp h
    have hread := readMembers_without hform hlast hnames hbefore h
    rw [hblank] at hread
    exact bind_eq_ok_iff.mpr ⟨inner, hinner, hread⟩
  | array items =>
    obtain ⟨inner, hinner, h⟩ := bind_eq_ok_iff.mp h
    rw [hform] at h
    have hread := readItems_first hlast hbefore h
    rw [hblank] at hread
    refine bind_eq_ok_iff.mpr ⟨inner, hinner, ?_⟩
    rwa [hform, List.length_append, List.length_singleton, Nat.add_sub_cancel]
  | _ => cases h

/-- A text is read without the last field of its record. -/
theorem readText_of_removes {text shorter : String} (hremoves : Removes form last.name text shorter)
    (h : readText (Spot.readRecord form) text = .ok result) :
    readText (Spot.readRecord form) shorter = .ok (clear result) := by
  obtain ⟨record, hrecord, h⟩ := bind_eq_ok_iff.mp h
  have hshorter := readRecord_withoutLast hform hlast hnames hbefore hblank hrecord
  rw [readText, readMarks, hremoves]
  refine bind_eq_ok_iff.mpr ⟨clear record, hshorter, ?_⟩
  split at h
  · cases h
    exact if_pos ‹_›
  · cases h

end

theorem without_membersOutline (name : String) (members : List (String × Value)) :
    (Value.membersOutline members).without name =
      Value.membersOutline (members.filter (·.1 ≠ name)) := by
  induction members with
  | nil => rfl
  | cons member rest ih =>
    obtain ⟨key, value⟩ := member
    rw [Value.membersOutline, Members.without, ih]
    by_cases hkey : key = name
    · rw [List.filter_cons_of_neg (by simpa using hkey), if_pos (by rw [hkey]; rfl)]
    · rw [List.filter_cons_of_pos (by simpa using hkey), Value.membersOutline,
        if_neg (by simpa [Except.toOption] using hkey)]

/-- What is printed for an object is without a member what is printed for the object without it. -/
theorem removes_of_lexes {β : Type} {form : Form Spot β} {name text shorter : String}
    {members : List (String × Value)} (h : Lexes text (Value.object members).tokens)
    (hshorter : Lexes shorter (Value.object (members.filter (·.1 ≠ name))).tokens) :
    Removes form name text shorter := by
  rw [Removes, document_of_lexes h, document_of_lexes hshorter]
  rw [Value.toOutline, Value.toOutline, Outline.withoutLast, without_membersOutline]

end InfoFlow.Json
