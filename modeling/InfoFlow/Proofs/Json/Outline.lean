import InfoFlow.Json.Reader
import InfoFlow.Proofs.Json.Token

namespace InfoFlow.Json

section

variable {ts rest : List Token} {found : Outline}

theorem outline_openArray (h : ∀ more, ts ≠ .closeArray :: more) :
    (outline (.openArray :: ts)).val =
      (.array (outlineItems ts).val.1, (outlineItems ts).val.2) := by
  rw [outline]
  exact h

theorem outline_openObject (h : ∀ more, ts ≠ .closeObject :: more) :
    (outline (.openObject :: ts)).val =
      (.object (outlineMembers ts).val.1, (outlineMembers ts).val.2) := by
  rw [outline]
  exact h

theorem outlineItems_of_close (h : (outline ts).val = (found, .closeArray :: rest)) :
    (outlineItems ts).val = (.item found .close, rest) := by
  obtain ⟨hfound, hrest⟩ := Prod.ext_iff.mp h
  clear h
  rw [outlineItems]
  split <;> simp_all

theorem outlineItems_of_comma (h : (outline ts).val = (found, .comma :: rest)) :
    (outlineItems ts).val =
      (.item found (outlineItems rest).val.1, (outlineItems rest).val.2) := by
  obtain ⟨hfound, hrest⟩ := Prod.ext_iff.mp h
  clear h
  rw [outlineItems]
  split
  · simp_all
  · rename_i more heq
    obtain rfl : more = rest := by simpa [heq] using hrest
    simp_all
  · simp_all

variable {key : String}

theorem outlineMembers_of_close (h : (outline ts).val = (found, .closeObject :: rest)) :
    (outlineMembers (.ofString key :: .colon :: ts)).val =
      (.member ⟨.ok key, .ok ()⟩ found .close, rest) := by
  obtain ⟨hfound, hrest⟩ := Prod.ext_iff.mp h
  clear h
  rw [Token.ofString, outlineMembers]
  split <;> simp_all

theorem outlineMembers_of_comma (h : (outline ts).val = (found, .comma :: rest)) :
    (outlineMembers (.ofString key :: .colon :: ts)).val =
      (.member ⟨.ok key, .ok ()⟩ found (outlineMembers rest).val.1,
        (outlineMembers rest).val.2) := by
  obtain ⟨hfound, hrest⟩ := Prod.ext_iff.mp h
  clear h
  rw [Token.ofString, outlineMembers]
  split
  · simp_all
  · rename_i more heq
    obtain rfl : more = rest := by simpa [heq] using hrest
    simp_all
  · simp_all

end

namespace Value

mutual

/-- The outline of a value, which has no faults. -/
def toOutline : Value → Outline
  | .null => .scalar .null
  | .bool b => .scalar (.bool b)
  | .number numeral => .scalar (.number numeral true)
  | .text s => .scalar (.text (.ok s) (.ok ()))
  | .array items => .array (itemsOutline items)
  | .object members => .object (membersOutline members)

def itemsOutline : List Value → Items
  | [] => .close
  | item :: rest => .item item.toOutline (itemsOutline rest)

def membersOutline : List (String × Value) → Members
  | [] => .close
  | (key, value) :: rest => .member ⟨.ok key, .ok ()⟩ value.toOutline (membersOutline rest)

end

/-- The tokens of items, with a bracket behind them. -/
def closedItems (items : List Value) (rest : List Token) : List Token :=
  [.comma].intercalate (itemTokens items) ++ .closeArray :: rest

/-- The tokens of members, with a bracket behind them. -/
def closedMembers (members : List (String × Value)) (rest : List Token) : List Token :=
  [.comma].intercalate (memberTokens members) ++ .closeObject :: rest

section

variable (item : Value) (items : List Value) (key : String) (value : Value)
  (members : List (String × Value)) (rest more : List Token)

theorem tokens_array_append :
    (array items).tokens ++ rest = .openArray :: closedItems items rest := by
  simp [tokens, closedItems]

theorem tokens_object_append :
    (object members).tokens ++ rest = .openObject :: closedMembers members rest := by
  simp [tokens, closedMembers]

theorem closedItems_singleton :
    closedItems [item] rest = item.tokens ++ .closeArray :: rest := by
  simp [closedItems, itemTokens]

theorem closedItems_cons (h : items ≠ []) : closedItems (item :: items) rest =
    item.tokens ++ .comma :: closedItems items rest := by
  obtain ⟨next, more, rfl⟩ := List.exists_cons_of_ne_nil h
  simp [closedItems, itemTokens, List.intercalate_cons_cons]

theorem closedMembers_singleton : closedMembers [(key, value)] rest =
    .ofString key :: .colon :: (value.tokens ++ .closeObject :: rest) := by
  simp [closedMembers, memberTokens]

theorem closedMembers_cons (h : members ≠ []) : closedMembers ((key, value) :: members) rest =
    .ofString key :: .colon :: (value.tokens ++ .comma :: closedMembers members rest) := by
  obtain ⟨⟨nextKey, next⟩, more, rfl⟩ := List.exists_cons_of_ne_nil h
  simp [closedMembers, memberTokens, List.intercalate_cons_cons]

/-- No item begins with a closing bracket. -/
theorem closedItems_cons_ne : closedItems (item :: items) rest ≠ .closeArray :: more := by
  cases items <;> cases item <;>
    simp [closedItems, itemTokens, tokens, Token.ofString, List.intercalate_cons_cons]

/-- Neither does a member. -/
theorem closedMembers_cons_ne :
    closedMembers ((key, value) :: members) rest ≠ .closeObject :: more := by
  cases members <;>
    simp [closedMembers, memberTokens, Token.ofString, List.intercalate_cons_cons]

end

mutual

/-- The tokens of a value are one value, and what follows them is left. -/
theorem outline_tokens_append (value : Value) (rest : List Token) :
    (outline (value.tokens ++ rest)).val = (value.toOutline, rest) := by
  cases value with
  | null | bool b | number numeral => rw [tokens, List.singleton_append, outline, toOutline]
  | text s => rw [tokens, List.singleton_append, Token.ofString, outline, toOutline]
  | array items =>
    rw [tokens_array_append, toOutline]
    cases items with
    | nil =>
      have hempty : closedItems [] rest = .closeArray :: rest := rfl
      rw [hempty, outline, itemsOutline]
    | cons item items =>
      rw [outline_openArray (closedItems_cons_ne item items rest),
        outlineItems_closedItems (item :: items) (by simp)]
  | object members =>
    rw [tokens_object_append, toOutline]
    cases members with
    | nil =>
      have hempty : closedMembers [] rest = .closeObject :: rest := rfl
      rw [hempty, outline, membersOutline]
    | cons member members =>
      rw [outline_openObject (closedMembers_cons_ne member.1 member.2 members rest),
        outlineMembers_closedMembers (member :: members) (by simp)]

theorem outlineItems_closedItems (items : List Value) (h : items ≠ []) (rest : List Token) :
    (outlineItems (closedItems items rest)).val = (itemsOutline items, rest) := by
  cases items with
  | nil => exact absurd rfl h
  | cons item items =>
    by_cases hlast : items = []
    · rw [hlast, closedItems_singleton, itemsOutline, itemsOutline]
      exact outlineItems_of_close (outline_tokens_append item _)
    · rw [closedItems_cons _ _ _ hlast, itemsOutline,
        outlineItems_of_comma (outline_tokens_append item _),
        outlineItems_closedItems items hlast]

theorem outlineMembers_closedMembers (members : List (String × Value)) (h : members ≠ [])
    (rest : List Token) :
    (outlineMembers (closedMembers members rest)).val = (membersOutline members, rest) := by
  cases members with
  | nil => exact absurd rfl h
  | cons member members =>
    obtain ⟨key, value⟩ := member
    by_cases hlast : members = []
    · rw [hlast, closedMembers_singleton, membersOutline, membersOutline]
      exact outlineMembers_of_close (outline_tokens_append value _)
    · rw [closedMembers_cons _ _ _ _ hlast, membersOutline,
        outlineMembers_of_comma (outline_tokens_append value _),
        outlineMembers_closedMembers members hlast]

end

mutual

/-- How many arrays and objects are open at most at a place of a value. -/
def nesting : Value → Nat
  | .array items => itemsNesting items + 1
  | .object members => membersNesting members + 1
  | _ => 0

def itemsNesting : List Value → Nat
  | [] => 0
  | item :: rest => max item.nesting (itemsNesting rest)

def membersNesting : List (String × Value) → Nat
  | [] => 0
  | (_, value) :: rest => max value.nesting (membersNesting rest)

end

theorem nesting_lt_of_mem_array {item : Value} {items : List Value} (h : item ∈ items) :
    item.nesting < (array items).nesting := by
  refine Nat.lt_succ_of_le ?_
  induction items with
  | nil => cases h
  | cons first rest ih =>
    rw [itemsNesting]
    obtain rfl | h := List.mem_cons.mp h
    · exact Nat.le_max_left _ _
    · exact Nat.le_trans (ih h) (Nat.le_max_right _ _)

theorem nesting_lt_of_mem_object (key : String) {value : Value} {members : List (String × Value)}
    (h : (key, value) ∈ members) : value.nesting < (object members).nesting := by
  refine Nat.lt_succ_of_le ?_
  induction members with
  | nil => cases h
  | cons first rest ih =>
    rw [membersNesting]
    obtain rfl | h := List.mem_cons.mp h
    · exact Nat.le_max_left _ _
    · exact Nat.le_trans (ih h) (Nat.le_max_right _ _)

end Value

theorem enter_eq {room depth : Nat} (h : depth + 1 < room) : enter room = .ok (room - 1) := by
  obtain ⟨more, rfl⟩ := Nat.exists_eq_add_of_lt h
  rw [show depth + 1 + more + 1 = depth + more + 2 by omega, enter]
  rfl

namespace Value

mutual

/-- With room enough, the outline of a value is read to the value. -/
theorem read_toOutline (value : Value) {room : Nat} (h : value.nesting < room) :
    value.toOutline.read room = .ok value := by
  cases value with
  | null | bool b | number numeral | text s => rfl
  | array items =>
    have hitems : itemsNesting items < room - 1 := Nat.lt_sub_of_add_lt h
    rw [toOutline, Outline.read, enter_eq h]
    simp [bind, Except.bind, read_itemsOutline items hitems, pure, Except.pure]
  | object members =>
    have hmembers : membersNesting members < room - 1 := Nat.lt_sub_of_add_lt h
    rw [toOutline, Outline.read, enter_eq h]
    simp [bind, Except.bind, read_membersOutline members hmembers, pure, Except.pure]

theorem read_itemsOutline (items : List Value) {room : Nat} (h : itemsNesting items < room) :
    (itemsOutline items).read room = .ok items := by
  cases items with
  | nil => rfl
  | cons item rest =>
    obtain ⟨hitem, hrest⟩ := Nat.max_lt.mp h
    simp [itemsOutline, Items.read, read_toOutline item hitem, read_itemsOutline rest hrest, bind,
      Except.bind, pure, Except.pure]

theorem read_membersOutline (members : List (String × Value)) {room : Nat}
    (h : membersNesting members < room) :
    (membersOutline members).read room = .ok members := by
  cases members with
  | nil => rfl
  | cons member rest =>
    obtain ⟨hvalue, hrest⟩ := Nat.max_lt.mp h
    simp [membersOutline, Members.read, read_toOutline member.2 hvalue,
      read_membersOutline rest hrest, bind, Except.bind, pure, Except.pure]

end

end Value

/-- What is printed for a value, in either form, has the outline of the value. -/
theorem document_of_lexes {text : String} {value : Value} (h : Lexes text value.tokens) :
    Document.ofMarks (text.toList.map some) = ⟨value.toOutline, true⟩ := by
  have houtline := value.outline_tokens_append []
  rw [List.append_nil] at houtline
  rw [Document.ofMarks, h.tokens_eq, houtline]
  rfl

/-- It is read as this outline. -/
theorem readText_of_lexes {α : Type} {read : Spot → Except Refusal α} {text : String}
    {value : Value} (h : Lexes text value.tokens) :
    readText read text = read ⟨nestingLimit, value.toOutline⟩ := by
  rw [readText, readMarks, document_of_lexes h]
  cases read ⟨nestingLimit, value.toOutline⟩ <;> rfl

end InfoFlow.Json
