import InfoFlow.Json.Form

namespace InfoFlow.Json.Value

/-- The number that a numeral of digits alone stands for, if it fits 64 bits. -/
def natural? (numeral : String) : Option Nat :=
  if numeral.toList.all Char.isDigit then
    let n := ofDecimal (numeral.toList.map fun c => c.toNat - '0'.toNat)
    if n < Nat.pow 2 64 then some n else none
  else none

def readString : Value → Except Refusal String
  | .text s => .ok s
  | _ => .error .wrongType

def readOptional {α : Type} (read : Value → Except Refusal α) : Value → Except Refusal (Option α)
  | .null => .ok none
  | value => some <$> read value

def readList {α : Type} (read : Value → Except Refusal α) : Value → Except Refusal (List α)
  | .array items => items.mapM read
  | _ => .error .wrongType

/-- Reads the members of a record, of which some fields have been seen. -/
def readMembers {β : Type} (form : Form Value β) :
    List (String × Value) → List String → β → Except Refusal β
  | [], seen, record => form.finish seen record
  | (name, value) :: rest, seen, record => do
    match ← form.fieldFor seen name with
    | none => readMembers form rest seen record
    | some field => readMembers form rest (name :: seen) (← field.read value record)

/-- Reads the values of the fields of a record one after the other. -/
def readItems {β : Type} : List (Field Value β) → List Value → β → Except Refusal β
  | [], [], record => .ok record
  | [], _ :: _, _ => .error .wrongLength
  | fields, [], record => Form.finishShort fields record
  | field :: fields, value :: rest, record => do
    readItems fields rest (← field.read value record)

def readRecord {β : Type} (form : Form Value β) : Value → Except Refusal β
  | .object members => readMembers form members [] form.blank
  | .array items => readItems form.fields items form.blank
  | _ => .error .wrongType

/-- A tag is a string, or the place of the tag among those allowed. -/
def readTag (tagging : Tagging) : Value → Except Refusal String
  | .text tag => tagging.check tag
  | .number numeral =>
    match natural? numeral with
    | none => .error .wrongType
    | some place =>
      match tagging.tags[place]? with
      | some tag => .ok tag
      | none => .error .wrongValue
  | _ => .error .wrongType

/-- Takes the tag out of the members of an object. -/
def readTagged (tagging : Tagging) :
    List (String × Value) → Option String → List (String × Value) →
      Except Refusal (String × Value)
  | [], none, _ => .error (.missingField tagging.member)
  | [], some tag, others => .ok (tag, .object others.reverse)
  | (name, value) :: rest, tag, others =>
    if name = tagging.member then
      if tag.isSome then .error (.duplicateField name)
      else do readTagged tagging rest (some (← readTag tagging value)) others
    else readTagged tagging rest tag ((name, value) :: others)

instance : Source Value where
  string := readString
  optional := readOptional
  list := readList
  record := readRecord
  tagged tagging
    | .object members => readTagged tagging members none []
    | .array [] => .error (.missingField tagging.member)
    | .array (tag :: rest) => do return (← readTag tagging tag, .array rest)
    | _ => .error .wrongType

end InfoFlow.Json.Value
