import InfoFlow.Json.Form

namespace InfoFlow.Json

/-- A value of a text: its outline, and how many containers more may be opened around what is
    read. -/
structure Spot where
  room : Nat
  outline : Outline

/-- A choice among names: what a name alone stands for, and what it stands for with a value. With a
    value it is written as an object that has the name for its only key. -/
structure Choice (α : Type) where
  names : List String
  alone : String → Except Refusal α
  withValue : String → Spot → Except Refusal α

/-- A name that is one of those allowed. -/
def Choice.check {α : Type} (choice : Choice α) (name : String) : Except Refusal String :=
  if choice.names.contains name then .ok name else .error (.unknownVariant name)

namespace Spot

/-- The refusal of a value that is not of the type asked for. A scalar is read first; a container
    is refused where it opens. -/
def mismatch (spot : Spot) : Refusal :=
  match spot.outline with
  | .absent => .stop .truncated
  | .stray => .stop .malformed
  | .scalar s =>
    match s.read with
    | .ok _ => .wrongType
    | .error stop => .stop stop
  | .array _ | .object _ => .wrongType

def readString (spot : Spot) : Except Refusal String :=
  match spot.outline with
  | .scalar (.text read _) => read
  | _ => .error spot.mismatch

def readOptional {α : Type} (read : Spot → Except Refusal α) (spot : Spot) :
    Except Refusal (Option α) :=
  match spot.outline with
  | .scalar .null => .ok none
  | _ => some <$> read spot

/-- Reads the items of an array. -/
def readList {α : Type} (read : Spot → Except Refusal α) (spot : Spot) :
    Except Refusal (List α) :=
  match spot.outline with
  | .array items => do go (← enter spot.room) items
  | _ => .error spot.mismatch
where
  go (room : Nat) : Items → Except Refusal (List α)
    | .close => .ok []
    | .item value rest => do return (← read ⟨room, value⟩) :: (← go room rest)
    | .unseparated stop => .error (.stop stop)

/-- Reads an object as a table of its members. -/
def readTable {α : Type} (read : Spot → Except Refusal α) (spot : Spot) :
    Except Refusal (List (String × α)) :=
  match spot.outline with
  | .object members => do go (← enter spot.room) members
  | _ => .error spot.mismatch
where
  go (room : Nat) : Members → Except Refusal (List (String × α))
    | .close => .ok []
    | .member key value rest => do
      return (← key.read, ← read ⟨room, value⟩) :: (← go room rest)
    | .keyless .absent => .error (.stop .truncated)
    | .keyless _ => .error (.stop .malformed)
    | .unseparated stop => .error (.stop stop)

/-- Reads the members of a record, of which some fields have been seen. -/
def readMembers {β : Type} (form : Form Spot β) (room : Nat) :
    Members → List String → β → Except Refusal β
  | .close, seen, record => form.finish seen record
  | .member key value rest, seen, record => do
    let name ← key.read
    match ← form.fieldFor seen name with
    | none =>
      value.skip
      readMembers form room rest seen record
    | some field =>
      readMembers form room rest (name :: seen) (← field.read ⟨room, value⟩ record)
  | .keyless .absent, _, _ => .error (.stop .truncated)
  | .keyless _, _, _ => .error (.stop .malformed)
  | .unseparated stop, _, _ => .error (.stop stop)

/-- Reads the values of the fields of a record one after the other. -/
def readItems {β : Type} (room : Nat) : List (Field Spot β) → Items → β → Except Refusal β
  | [], .close, record => .ok record
  | [], .item .., _ => .error (.stop .malformed)
  | _, .unseparated stop, _ => .error (.stop stop)
  | fields, .close, record => Form.finishShort fields record
  | field :: fields, .item value rest, record => do
    readItems room fields rest (← field.read ⟨room, value⟩ record)

def readRecord {β : Type} (form : Form Spot β) (spot : Spot) : Except Refusal β :=
  match spot.outline with
  | .object members => do readMembers form (← enter spot.room) members [] form.blank
  | .array items => do readItems (← enter spot.room) form.fields items form.blank
  | _ => .error spot.mismatch

/-- A tag is a string. -/
def readTag (tagging : Tagging) (spot : Spot) : Except Refusal String := do
  tagging.check (← spot.readString)

/-- Reads all members of an object and takes out the tag, which is checked where it is met. -/
def readTagged (tagging : Tagging) (room : Nat) :
    Members → Option String → List (String × Value) → Except Refusal (String × Value)
  | .close, none, _ => .error (.missingField tagging.member)
  | .close, some tag, others => .ok (tag, .object others.reverse)
  | .member key value rest, tag, others => do
    let name ← key.read
    if name = tagging.member then
      if tag.isSome then throw (.duplicateField name)
      let tag ← readTag tagging ⟨room, value⟩
      readTagged tagging room rest (some tag) others
    else
      let value ← value.read room
      readTagged tagging room rest tag ((name, value) :: others)
  | .keyless .absent, _, _ => .error (.stop .truncated)
  | .keyless _, _, _ => .error (.stop .malformed)
  | .unseparated stop, _, _ => .error (.stop stop)

instance : Source Spot where
  string := readString
  optional := readOptional
  list := readList
  record := readRecord
  tagged tagging spot :=
    match spot.outline with
    | .object members => do readTagged tagging (← enter spot.room) members none []
    | .array items => do
      let room ← enter spot.room
      match items with
      | .close => throw (.missingField tagging.member)
      | .unseparated stop => throw (.stop stop)
      | .item tag rest =>
        let tag ← readTag tagging ⟨room, tag⟩
        return (tag, .array (← rest.read room))
    | _ => .error spot.mismatch

/-- Reads null. -/
def readNull (spot : Spot) : Except Refusal Unit :=
  match spot.outline with
  | .scalar .null => .ok ()
  | _ => .error spot.mismatch

/-- Reads a choice. Anything but a string or an object is a fault of the text, and so is a second
    member. -/
def readChoice {α : Type} (choice : Choice α) (spot : Spot) : Except Refusal α :=
  match spot.outline with
  | .absent => .error (.stop .truncated)
  | .scalar (.text read _) => do choice.alone (← choice.check (← read))
  | .object members => do
    let room ← enter spot.room
    match members with
    | .close => throw (.stop .malformed)
    | .unseparated stop => throw (.stop stop)
    | .keyless .absent => throw (.stop .truncated)
    | .keyless _ => throw (.stop .malformed)
    | .member key value rest =>
      let name ← choice.check (← key.read)
      let result ← choice.withValue name ⟨room, value⟩
      match rest with
      | .close => return result
      | .unseparated stop => throw (.stop stop)
      | _ => throw (.stop .malformed)
  | _ => .error (.stop .malformed)

end Spot

/-- How many containers may be nested, one more than can be. -/
def nestingLimit : Nat := 128

/-- Reads a document, after which nothing but blanks may come. -/
def readMarks {α : Type} (read : Spot → Except Refusal α) (text : List Mark) :
    Except Refusal α := do
  let document := Document.ofMarks text
  let result ← read ⟨nestingLimit, document.value⟩
  if document.ended then return result else throw (.stop .malformed)

/-- Reads a text. -/
def readText {α : Type} (read : Spot → Except Refusal α) (text : String) : Except Refusal α :=
  readMarks read (text.toList.map some)

end InfoFlow.Json
