import InfoFlow.Json.Token
import InfoFlow.Json.Value

namespace InfoFlow.Json

/-- A string token: what reading it gives, and whether it can be skipped. -/
structure Key where
  read : Except Stop String
  skipped : Except Stop Unit

mutual

/-- What stands where a value is due. A fault stands in the tree at the place where it was found, so
    whoever reads the tree from left to right meets first what comes first in the text, be it such a
    fault or a value that is not of the type asked for. -/
inductive Outline where
  /-- The text ends. -/
  | absent
  /-- Something that begins no value. -/
  | stray
  | scalar (s : Scalar)
  | array (items : Items)
  | object (members : Members)

/-- The items of an array from some place on. -/
inductive Items where
  | close
  | item (value : Outline) (rest : Items)
  /-- Neither a comma nor the closing bracket stands after an item. -/
  | unseparated (stop : Stop)

/-- The members of an object from some place on. A missing colon is a fault of the value. -/
inductive Members where
  | close
  | member (key : Key) (value : Outline) (rest : Members)
  /-- Something else stands where a key is due. -/
  | keyless (found : Outline)
  /-- Neither a comma nor the closing bracket stands after a member. -/
  | unseparated (stop : Stop)

end

/-- Why a text stops before a list of tokens: because there are none, or because of the first. -/
def stopAt : List Token → Stop
  | [] => .truncated
  | _ :: _ => .malformed

/-- The outline of a value at whose place no value begins. -/
def Outline.none : List Token → Outline
  | [] => .absent
  | _ :: _ => .stray

mutual

/-- The outline of the value at the front of a list of tokens, and the tokens after it. -/
def outline (ts : List Token) : { r : Outline × List Token // r.2.length ≤ ts.length } :=
  match ts with
  | .scalar s :: rest => ⟨(.scalar s, rest), Nat.le_succ _⟩
  | .openArray :: .closeArray :: rest => ⟨(.array .close, rest), Nat.le_add_right _ 2⟩
  | .openArray :: rest =>
    let r := outlineItems rest
    ⟨(.array r.val.1, r.val.2), Nat.le_succ_of_le r.property⟩
  | .openObject :: .closeObject :: rest => ⟨(.object .close, rest), Nat.le_add_right _ 2⟩
  | .openObject :: rest =>
    let r := outlineMembers rest
    ⟨(.object r.val.1, r.val.2), Nat.le_succ_of_le r.property⟩
  | ts => ⟨(.none ts, []), Nat.zero_le _⟩
termination_by (ts.length, 0)

/-- The outline of items, where one is due. -/
def outlineItems (ts : List Token) : { r : Items × List Token // r.2.length ≤ ts.length } :=
  let value := outline ts
  match h : value.val.2 with
  | .closeArray :: rest =>
    have : rest.length ≤ ts.length := by
      have := value.property
      rw [h, List.length_cons] at this
      omega
    ⟨(.item value.val.1 .close, rest), this⟩
  | .comma :: rest =>
    have : rest.length < ts.length := by
      have := value.property
      rw [h, List.length_cons] at this
      omega
    let r := outlineItems rest
    ⟨(.item value.val.1 r.val.1, r.val.2), Nat.le_trans r.property (Nat.le_of_lt this)⟩
  | rest => ⟨(.item value.val.1 (.unseparated (stopAt rest)), []), Nat.zero_le _⟩
termination_by (ts.length, 1)

/-- The outline of members, where a key is due. -/
def outlineMembers (ts : List Token) : { r : Members × List Token // r.2.length ≤ ts.length } :=
  match ts with
  | .scalar (.text read skipped) :: .colon :: rest =>
    let value := outline rest
    match h : value.val.2 with
    | .closeObject :: rest' =>
      have : rest'.length ≤ rest.length + 1 + 1 := by
        have := value.property
        rw [h, List.length_cons] at this
        omega
      ⟨(.member ⟨read, skipped⟩ value.val.1 .close, rest'), this⟩
    | .comma :: rest' =>
      have : rest'.length < rest.length := by
        have := value.property
        rw [h, List.length_cons] at this
        omega
      let r := outlineMembers rest'
      ⟨(.member ⟨read, skipped⟩ value.val.1 r.val.1, r.val.2),
        Nat.le_trans r.property (Nat.le_trans (Nat.le_of_lt this) (Nat.le_add_right _ 2))⟩
    | rest' =>
      ⟨(.member ⟨read, skipped⟩ value.val.1 (.unseparated (stopAt rest')), []), Nat.zero_le _⟩
  | .scalar (.text read skipped) :: rest =>
    ⟨(.member ⟨read, skipped⟩ (.none rest) (.unseparated .malformed), []), Nat.zero_le _⟩
  | .scalar s :: _ => ⟨(.keyless (.scalar s), []), Nat.zero_le _⟩
  | .openArray :: _ => ⟨(.keyless (.array .close), []), Nat.zero_le _⟩
  | .openObject :: _ => ⟨(.keyless (.object .close), []), Nat.zero_le _⟩
  | ts => ⟨(.keyless (.none ts), []), Nat.zero_le _⟩
termination_by (ts.length, 1)

end

/-- A text as a whole: the outline of its value, and whether anything comes after it. -/
structure Document where
  value : Outline
  ended : Bool

/-- The outline of a text. -/
def Document.ofMarks (text : List Mark) : Document :=
  let r := (outline (tokens text)).val
  ⟨r.1, r.2.isEmpty⟩

/-- Whether a scalar can be skipped. -/
def Scalar.skip : Scalar → Except Stop Unit
  | .null | .bool _ | .number .. => .ok ()
  | .text _ skipped => skipped
  | .cutWord => .error .truncated
  | .cutNumber => .error .malformed

mutual

/-- Whether a value can be skipped. Its nesting is not limited. -/
def Outline.skip : Outline → Except Stop Unit
  | .absent => .error .truncated
  | .stray => .error .malformed
  | .scalar s => s.skip
  | .array items => items.skip
  | .object members => members.skip

def Items.skip : Items → Except Stop Unit
  | .close => .ok ()
  | .item value rest => do
    value.skip
    rest.skip
  | .unseparated stop => .error stop

def Members.skip : Members → Except Stop Unit
  | .close => .ok ()
  | .member key value rest => do
    key.skipped
    value.skip
    rest.skip
  | .keyless .absent => .error .truncated
  | .keyless _ => .error .malformed
  | .unseparated stop => .error stop

end

/-- The value of a scalar. -/
def Scalar.read : Scalar → Except Stop Value
  | .null => .ok .null
  | .bool b => .ok (.bool b)
  | .number numeral inRange => if inRange then .ok (.number numeral) else .error .malformed
  | .text read _ => read.map .text
  | .cutWord | .cutNumber => .error .truncated

/-- One container less may be opened. The innermost place can hold none. -/
def enter (room : Nat) : Except Stop Nat :=
  match room with
  | room + 2 => .ok (room + 1)
  | _ => .error .malformed

mutual

/-- The value of an outline in which every part is read, with room for so many nested
    containers. -/
def Outline.read (room : Nat) : Outline → Except Stop Value
  | .absent => .error .truncated
  | .stray => .error .malformed
  | .scalar s => s.read
  | .array items => do return .array (← items.read (← enter room))
  | .object members => do return .object (← members.read (← enter room))

def Items.read (room : Nat) : Items → Except Stop (List Value)
  | .close => .ok []
  | .item value rest => do return (← value.read room) :: (← rest.read room)
  | .unseparated stop => .error stop

def Members.read (room : Nat) : Members → Except Stop (List (String × Value))
  | .close => .ok []
  | .member key value rest => do
    return (← key.read, ← value.read room) :: (← rest.read room)
  | .keyless .absent => .error .truncated
  | .keyless _ => .error .malformed
  | .unseparated stop => .error stop

end

end InfoFlow.Json
