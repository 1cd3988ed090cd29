import InfoFlow.Json.Buffered
import InfoFlow.Proofs.Json.Outline

namespace InfoFlow.Json

/-- Sources of which it is known what value they show, if any. -/
class Showing (σ : Type) where
  Shows : σ → Value → Prop

export Showing (Shows)

/-- A value that was read before shows itself. -/
instance : Showing Value where
  Shows := Eq

/-- A spot of a text shows a value when it has its outline and room for its nesting. -/
instance : Showing Spot where
  Shows spot value := spot.outline = value.toOutline ∧ value.nesting < spot.room ∧
    spot.room ≤ nestingLimit

/-- Wherever the value is shown, the result is read. -/
def Gives {σ α : Type} [Showing σ] (read : σ → Except Refusal α) (value : Value) (a : α) : Prop :=
  ∀ source, Shows source value → read source = .ok a

/-- Some members complete a record: each is for a field that was not seen before, and when all of
    them are read no required field is missing. -/
inductive Form.Completes {σ β : Type} [Showing σ] (form : Form σ β) :
    List (String × Value) → List String → β → β → Prop where
  | nil {seen : List String} {record : β} (h : form.finish seen record = .ok record) :
    form.Completes [] seen record record
  | cons {field : Field σ β} {name : String} {value : Value} {rest : List (String × Value)}
    {seen : List String} {record next result : β}
    (hfield : form.fieldFor seen name = .ok (some field))
    (hread : Gives (field.read · record) value next)
    (hrest : form.Completes rest (name :: seen) next result) :
    form.Completes ((name, value) :: rest) seen record result

/-- Sources that are read as the values that they show. -/
class LawfulSource (σ : Type) [Source σ] [Showing σ] : Prop where
  string (s : String) : Gives (σ := σ) Source.string (.text s) s
  optional_null {α : Type} (read : σ → Except Refusal α) :
    Gives (Source.optional read) .null none
  optional_of_ne {α : Type} {read : σ → Except Refusal α} {value : Value} {a : α}
    (hne : value ≠ .null) (h : Gives read value a) : Gives (Source.optional read) value (some a)
  list {α : Type} {read : σ → Except Refusal α} {items : List Value} {list : List α}
    (h : List.Forall₂ (Gives read) items list) : Gives (Source.list read) (.array items) list
  record {β : Type} {form : Form σ β} {members : List (String × Value)} {result : β}
    (h : form.Completes members [] form.blank result) :
    Gives (Source.record form) (.object members) result
  tagged {tagging : Tagging} {tag : String} {others : List (String × Value)}
    (htag : tag ∈ tagging.tags) (hothers : tagging.member ∉ others.map Prod.fst) :
    Gives (σ := σ) (Source.tagged tagging) (.object ((tagging.member, .text tag) :: others))
      (tag, .object others)

namespace Value

theorem readList_eq {α : Type} {read : Value → Except Refusal α} {items : List Value}
    {list : List α} (h : List.Forall₂ (Gives read) items list) : items.mapM read = .ok list := by
  induction h with
  | nil => rfl
  | cons hfirst hrest ih =>
    rw [List.mapM_cons, hfirst _ rfl, ih]
    rfl

theorem readMembers_eq {β : Type} {form : Form Value β} {members : List (String × Value)}
    {seen : List String} {record result : β} (h : form.Completes members seen record result) :
    readMembers form members seen record = .ok result := by
  induction h with
  | nil h => exact h
  | cons hfield hread hrest ih =>
    rw [readMembers, hfield]
    simpa [bind, Except.bind, hread _ rfl] using ih

/-- The members besides the tag are kept in their order. -/
theorem readTagged_eq {tagging : Tagging} {tag : String} {members others : List (String × Value)}
    (h : tagging.member ∉ members.map Prod.fst) :
    readTagged tagging members (some tag) others =
      .ok (tag, .object (others.reverse ++ members)) := by
  induction members generalizing others with
  | nil => simp [readTagged]
  | cons member members ih =>
    obtain ⟨hname, hmembers⟩ := not_or.mp (mt List.mem_cons.mpr h)
    rw [readTagged, if_neg (Ne.symm hname), ih hmembers]
    simp

instance : LawfulSource Value where
  string s source h := h ▸ rfl
  optional_null read source h := h ▸ rfl
  optional_of_ne {_ read value a} hne h source hsource := by
    obtain rfl : source = value := hsource
    have hread := h source rfl
    cases source <;> simp_all [Source.optional, readOptional]
  list h source hsource := by
    obtain rfl : source = _ := hsource
    exact readList_eq h
  record h source hsource := by
    obtain rfl : source = _ := hsource
    exact readMembers_eq h
  tagged {tagging tag others} htag hothers source hsource := by
    obtain rfl : source = _ := hsource
    have hcheck : readTag tagging (.text tag) = .ok tag := if_pos (List.contains_iff_mem.mpr htag)
    show readTagged tagging _ none [] = _
    rw [readTagged, if_pos rfl, hcheck]
    exact @readTagged_eq tagging tag others [] hothers

end Value

theorem liftM_ok {α : Type} (a : α) :
    (liftM (Except.ok a : Except Stop α) : Except Refusal α) = .ok a := rfl

namespace Spot

theorem go_readList_eq {α : Type} {read : Spot → Except Refusal α} {room : Nat}
    (hroom : room ≤ nestingLimit) {items : List Value} {list : List α}
    (h : List.Forall₂ (Gives read) items list) (hnesting : Value.itemsNesting items < room) :
    readList.go read room (Value.itemsOutline items) = .ok list := by
  induction h with
  | nil => rfl
  | cons hfirst hrest ih =>
    obtain ⟨hitem, hitems⟩ := Nat.max_lt.mp hnesting
    rw [Value.itemsOutline, readList.go, hfirst ⟨room, _⟩ ⟨rfl, hitem, hroom⟩, ih hitems]
    rfl

theorem readMembers_eq {β : Type} {form : Form Spot β} {room : Nat} (hroom : room ≤ nestingLimit)
    {members : List (String × Value)} {seen : List String} {record result : β}
    (h : form.Completes members seen record result)
    (hnesting : Value.membersNesting members < room) :
    readMembers form room (Value.membersOutline members) seen record = .ok result := by
  induction h with
  | nil h => exact h
  | cons hfield hread hrest ih =>
    obtain ⟨hvalue, hmembers⟩ := Nat.max_lt.mp hnesting
    have hnext := hread ⟨room, _⟩ ⟨rfl, hvalue, hroom⟩
    rw [Value.membersOutline, readMembers]
    simpa [liftM_ok, bind, Except.bind, hfield, hnext] using ih hmembers

theorem readTagged_eq {tagging : Tagging} {tag : String} {room : Nat}
    {members others : List (String × Value)} (h : tagging.member ∉ members.map Prod.fst)
    (hnesting : Value.membersNesting members < room) :
    readTagged tagging room (Value.membersOutline members) (some tag) others =
      .ok (tag, .object (others.reverse ++ members)) := by
  induction members generalizing others with
  | nil => simp [Value.membersOutline, readTagged]
  | cons member members ih =>
    obtain ⟨hname, hmembers⟩ := not_or.mp (mt List.mem_cons.mpr h)
    obtain ⟨hvalue, hnesting⟩ := Nat.max_lt.mp hnesting
    have hread := member.2.read_toOutline hvalue
    simp [Value.membersOutline, readTagged, liftM_ok, bind, Except.bind, Ne.symm hname, hread,
      ih hmembers hnesting]

instance : LawfulSource Spot where
  string s source h := by
    obtain ⟨room, _⟩ := source
    obtain ⟨rfl, _⟩ := h
    rfl
  optional_null read source h := by
    obtain ⟨room, _⟩ := source
    obtain ⟨rfl, _⟩ := h
    rfl
  optional_of_ne {_ read value a} hne h source hsource := by
    have hread := h source hsource
    obtain ⟨room, _⟩ := source
    obtain ⟨rfl, _⟩ := hsource
    cases value <;> simp_all [Source.optional, readOptional, Value.toOutline]
  list h source hsource := by
    obtain ⟨room, _⟩ := source
    obtain ⟨rfl, hnesting, hroom⟩ := hsource
    have hitems := go_readList_eq (Nat.le_trans (Nat.sub_le room 1) hroom) h
      (Nat.lt_sub_of_add_lt hnesting)
    show (enter room : Except Refusal Nat) >>= _ = _
    rw [enter_eq hnesting]
    exact hitems
  record h source hsource := by
    obtain ⟨room, _⟩ := source
    obtain ⟨rfl, hnesting, hroom⟩ := hsource
    have hmembers := readMembers_eq (Nat.le_trans (Nat.sub_le room 1) hroom) h
      (Nat.lt_sub_of_add_lt hnesting)
    show (enter room : Except Refusal Nat) >>= _ = _
    rw [enter_eq hnesting]
    exact hmembers
  tagged {tagging tag others} htag hothers source hsource := by
    obtain ⟨room, _⟩ := source
    obtain ⟨rfl, hnesting, hroom⟩ := hsource
    have hmembers := Nat.lt_sub_of_add_lt hnesting
    rw [Value.membersNesting] at hmembers
    have hcheck : tagging.check tag = .ok tag := if_pos (List.contains_iff_mem.mpr htag)
    have hothers := @readTagged_eq tagging tag _ _ [] hothers (Nat.max_lt.mp hmembers).2
    show (enter room : Except Refusal Nat) >>= _ = _
    rw [enter_eq hnesting]
    simpa [Value.membersOutline, readTagged, readTag, readString, Value.toOutline, liftM_ok, bind,
      Except.bind, hcheck] using hothers

/-- A choice that is written as its name. -/
theorem gives_choice_alone {α : Type} {choice : Choice α} {name : String} {a : α}
    (hname : name ∈ choice.names) (h : choice.alone name = .ok a) :
    Gives (readChoice choice) (.text name) a := by
  rintro ⟨room, _⟩ ⟨rfl, _⟩
  have hcheck : choice.check name = .ok name := if_pos (List.contains_iff_mem.mpr hname)
  simpa [readChoice, Value.toOutline, liftM_ok, bind, Except.bind, hcheck] using h

/-- A choice that is written with its value. -/
theorem gives_choice_withValue {α : Type} {choice : Choice α} {name : String} {value : Value}
    {a : α} (hname : name ∈ choice.names) (h : Gives (choice.withValue name) value a) :
    Gives (readChoice choice) (.object [(name, value)]) a := by
  rintro ⟨room, _⟩ ⟨rfl, hnesting, hroom⟩
  have hcheck : choice.check name = .ok name := if_pos (List.contains_iff_mem.mpr hname)
  have hvalue : value.nesting < room - 1 := by
    have hmember := Nat.lt_sub_of_add_lt hnesting
    rw [Value.membersNesting] at hmember
    exact (Nat.max_lt.mp hmember).1
  have hread := h ⟨room - 1, value.toOutline⟩ ⟨rfl, hvalue, Nat.le_trans (Nat.sub_le room 1) hroom⟩
  simp [readChoice, Value.toOutline, Value.membersOutline, enter_eq hnesting, liftM_ok, bind,
    Except.bind, hcheck, hread, pure, Except.pure]

theorem go_readTable_eq {α : Type} {read : Spot → Except Refusal α} {room : Nat}
    (hroom : room ≤ nestingLimit) {members : List (String × Value)} {table : List (String × α)}
    (h : List.Forall₂ (fun member entry => member.1 = entry.1 ∧ Gives read member.2 entry.2)
      members table) (hnesting : Value.membersNesting members < room) :
    readTable.go read room (Value.membersOutline members) = .ok table := by
  induction h with
  | nil => rfl
  | cons hfirst hrest ih =>
    obtain ⟨hvalue, hmembers⟩ := Nat.max_lt.mp hnesting
    have hread := hfirst.2 ⟨room, _⟩ ⟨rfl, hvalue, hroom⟩
    simp [Value.membersOutline, readTable.go, liftM_ok, bind, Except.bind, hread, ih hmembers,
      hfirst.1, pure, Except.pure]

/-- An object that is read as a table. -/
theorem gives_table {α : Type} {read : Spot → Except Refusal α} {members : List (String × Value)}
    {table : List (String × α)} (h : List.Forall₂ (fun member entry => member.1 = entry.1 ∧
      Gives read member.2 entry.2) members table) :
    Gives (readTable read) (.object members) table := by
  rintro ⟨room, _⟩ ⟨rfl, hnesting, hroom⟩
  have hmembers := go_readTable_eq (Nat.le_trans (Nat.sub_le room 1) hroom) h
    (Nat.lt_sub_of_add_lt hnesting)
  show (enter room : Except Refusal Nat) >>= _ = _
  rw [enter_eq hnesting]
  exact hmembers

end Spot

section

variable {σ α β : Type} [Showing σ]

/-- What is read can be turned into something else. -/
theorem Gives.map {read : σ → Except Refusal α} {value : Value} {a : α} (h : Gives read value a)
    (f : α → β) : Gives (f <$> read ·) value (f a) := by
  intro source hsource
  show f <$> read source = _
  rw [h source hsource]
  rfl

/-- A field of a record, which is set to what is read. -/
theorem Gives.needed {read : σ → Except Refusal α} {value : Value} {a : α}
    (h : Gives read value a) {name : String} {set : α → β → β} {record : β} :
    Gives ((Field.needed name read set).read · record) value (set a record) :=
  h.map (set · record)

/-- A field that may be left out is read in the same way where it is there. -/
theorem Gives.extra {read : σ → Except Refusal α} {value : Value} {a : α}
    (h : Gives read value a) {name : String} {set : α → β → β} {record : β} :
    Gives ((Field.extra name read set).read · record) value (set a record) :=
  h.map (set · record)

/-- A tagged value is read in two steps: the tag, and what it is for from the rest. -/
theorem Gives.tagged [Source σ] [LawfulSource σ] (tagging : Tagging) {tag : String}
    {others : List (String × Value)} {ofTagged : String → Value → Except Refusal α} {a : α}
    (htag : tag ∈ tagging.tags) (hothers : tagging.member ∉ others.map Prod.fst)
    (h : Gives (ofTagged tag) (.object others) a) :
    Gives (σ := σ) (fun source => Source.tagged tagging source >>= fun r => ofTagged r.1 r.2)
      (.object ((tagging.member, .text tag) :: others)) a := by
  intro source hsource
  show (Source.tagged tagging source >>= fun r => ofTagged r.1 r.2) = _
  rw [LawfulSource.tagged htag hothers source hsource]
  exact h _ rfl

/-- A list of values, each of which is read for itself. -/
theorem Gives.listMap [Source σ] [LawfulSource σ] {read : σ → Except Refusal α}
    {toJson : α → Value} {list : List α} (h : ∀ a ∈ list, Gives read (toJson a) a) :
    Gives (Source.list read) (.array (list.map toJson)) list :=
  LawfulSource.list (List.forall₂_map_left_iff.mpr (List.forall₂_same.mpr h))

end

/-- A text with the tokens of a value is read like the value, if that is not nested too deep. -/
theorem Gives.readText_eq {α : Type} {read : Spot → Except Refusal α} {value : Value} {a : α}
    (h : Gives read value a) {text : String} (hlexes : Lexes text value.tokens)
    (hnesting : value.nesting < nestingLimit) : readText read text = .ok a := by
  rw [readText_of_lexes hlexes]
  exact h _ ⟨rfl, hnesting, Nat.le_refl _⟩

/-- Whatever is printed for a value, compact or with one item on each line, is read back as the
    value, unless it is nested too deep, and is printed again as the same text. -/
def RoundTrips {α : Type} (read : Spot → Except Refusal α) (toJson : α → Value) : Prop :=
  ∀ a, (toJson a).nesting < nestingLimit → ∀ print ∈ [Value.compact, Value.pretty],
    readText read (print (toJson a)) = .ok a ∧
    (print ∘ toJson) <$> readText read (print (toJson a)) = .ok (print (toJson a))

theorem RoundTrips.of_gives {α : Type} {read : Spot → Except Refusal α} {toJson : α → Value}
    (hnumberless : ∀ a, (toJson a).Numberless) (h : ∀ a, Gives read (toJson a) a) :
    RoundTrips read toJson := by
  intro a hnesting print hprint
  have hlexes : Lexes (print (toJson a)) (toJson a).tokens := by
    obtain rfl | rfl := List.mem_pair.mp hprint
    · exact Value.lexes_compact _ (hnumberless a)
    · exact Value.lexes_prettyAt 0 _ (hnumberless a)
  rw [(h a).readText_eq hlexes hnesting]
  exact ⟨rfl, rfl⟩

end InfoFlow.Json
