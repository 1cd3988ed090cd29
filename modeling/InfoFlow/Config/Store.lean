import InfoFlow.Config.Toolchain
import InfoFlow.Entries
import InfoFlow.Host.Basic
import InfoFlow.Text.Utf8

namespace InfoFlow

open Json (Refusal Spot Value)

/-- Why settings cannot be read or written. -/
inductive ConfigFault where
  /-- There is no place to keep settings. -/
  | noDirectory
  | io (path : String) (fault : IoFault)
  | json (key : String) (refusal : Refusal)
deriving DecidableEq, Repr

/-- The sentences that report a fault, from the outermost to its cause. What is wrong with a JSON
    text is told apart by its refusal and has no sentence. -/
def ConfigFault.messages : ConfigFault → List String
  | .noDirectory => ["no config directory for this platform"]
  | .io path fault => ["config I/O on " ++ path ++ ": " ++ fault.message, fault.message]
  | .json key _ => ["config `" ++ key ++ "` is not valid JSON for its type"]

/-- A place that keeps documents under keys. It only moves documents in and out: values are read
    from them and written to them in the same way for every store. -/
structure Store (m : Type → Type) where
  read : String → m (Except ConfigFault (Option ByteArray))
  write : String → ByteArray → m (Except ConfigFault Unit)

/-- A type of settings: how they are read and written. Not every value can be written. -/
structure Setting (α : Type) where
  read : Spot → Except Refusal α
  toJson : α → Except Refusal Value

namespace Setting

def toolchain : Setting Toolchain where
  read := Toolchain.read
  toJson toolchain := .ok toolchain.toJson

def hostToolchain : Setting HostToolchain where
  read spot := Toolchain.onHost <$> Toolchain.read spot
  toJson toolchain := do return (← toolchain.texts).toJson

/-- A list of strings. -/
def strings : Setting (List String) where
  read := Spot.readList Spot.readString
  toJson list := .ok (.texts list)

/-- A table of strings. Of several strings under one name the last one counts. -/
def table : Setting (Entries String) where
  read spot := do
    return (← Spot.readTable Spot.readString spot).foldl
      (fun table (name, value) => table.put name value) []
  toJson table := .ok (.object (table.map fun (name, value) => (name, .text value)))

/-- The document of a value: its pretty form and a line end. -/
def document {α : Type} (setting : Setting α) (value : α) : Except Refusal ByteArray := do
  return ((← setting.toJson value).pretty ++ "\n").toUTF8

/-- Whether a byte is one of the blanks that a document may be made of. -/
def isBlankByte (b : UInt8) : Bool :=
  b == 0x20 || b == 0x09 || b == 0x0a || b == 0x0c || b == 0x0d

/-- The value in a document. A blank document holds none. -/
def ofDocument {α : Type} (setting : Setting α) (document : ByteArray) :
    Except Refusal (Option α) :=
  if document.toList.all isBlankByte then .ok none
  else some <$> Json.readMarks setting.read (Text.Utf8.marks document)

end Setting

namespace Store

variable {m : Type → Type} [Monad m] {α : Type}

/-- The value under a key, if there is a document and it is not blank. -/
def get (store : Store m) (setting : Setting α) (key : String) :
    m (Except ConfigFault (Option α)) := do
  match ← store.read key with
  | .error fault => return .error fault
  | .ok none => return .ok none
  | .ok (some document) => return (setting.ofDocument document).mapError (.json key)

/-- Puts a value under a key. The store is not asked when the value cannot be written. -/
def put (store : Store m) (setting : Setting α) (key : String) (value : α) :
    m (Except ConfigFault Unit) :=
  match setting.document value with
  | .error refusal => return .error (.json key refusal)
  | .ok document => store.write key document

/-- The toolchain settings, by default where there are none. -/
def toolchain (store : Store m) : m (Except ConfigFault Toolchain) := do
  return (← store.get .toolchain Toolchain.key).map (·.getD {})

def setToolchain (store : Store m) (toolchain : HostToolchain) : m (Except ConfigFault Unit) :=
  store.put .hostToolchain Toolchain.key toolchain

end Store

/-- Documents in memory. While it does not answer, every call fails. -/
structure Shelf where
  documents : Entries ByteArray := []
  answering : Bool := true

/-- The store on a shelf. -/
def Shelf.store : Store (StateM Shelf) where
  read key := do
    let shelf ← get
    if shelf.answering then return .ok (shelf.documents.get? key) else return .error .noDirectory
  write key document := do
    let shelf ← get
    if shelf.answering then
      set { shelf with documents := shelf.documents.put key document }
      return .ok ()
    else return .error .noDirectory

namespace Store

variable {m : Type → Type} [Monad m]

/-- The file that holds the document of a key. -/
def file (directory key : String) : String :=
  Path.join directory (key ++ ".json")

/-- The store in a directory of a host: one file for each key. The directory is made when a
    document is written. -/
def inDirectory (host : Host m) (directory : String) : Store m where
  read key := do
    match ← host.readFile (file directory key) with
    | .ok document => return .ok (some document)
    | .error .notFound => return .ok none
    | .error fault => return .error (.io (file directory key) fault)
  write key document := do
    match ← host.makeDirs directory with
    | .error fault => return .error (.io directory fault)
    | .ok () =>
      let written ← host.writeFile (file directory key) document
      return written.mapError (.io (file directory key))

end Store

end InfoFlow
