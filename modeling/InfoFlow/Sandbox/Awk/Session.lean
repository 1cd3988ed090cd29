import InfoFlow.Sandbox.Awk.Program
import InfoFlow.Sandbox.Awk.Table
import InfoFlow.Sandbox.Machine

namespace InfoFlow.Awk

open Sandbox

/-- What a name stands for. A name that was not used yet may become either, so it has an array kept
    for it. -/
inductive Cell where
  | unused (table : Nat)
  | value (value : Value)
  | table (table : Nat)

/-- What is written to under a name. -/
inductive Sink where
  | stream (number : Nat)
  /-- What a command will be given. -/
  | command (held : String)

/-- What is left to be read. -/
structure Source where
  left : List Char := []

structure Session where
  functions : List (String × Function) := []
  globals : Entries Cell := []
  locals : Entries Cell := []
  tables : Array Table := #[]
  record : String := ""
  fields : Array Value := #[]
  /-- The ranges that have begun, by the numbers of their rules. -/
  active : List Nat := []
  /-- What was written and is still held back. -/
  held : List String := []
  sinks : Entries Sink := []
  sources : Entries Source := []
  /-- The document that is read, and the arguments after it. -/
  main : Option Source := none
  arguments : List String := []
  readsInput : Bool := true
  status : Nat := 0
  seed : Nat := 1

/-- Why what is run is left. -/
inductive Leave where
  | next
  | nextFile
  | break
  | continue
  | exit
  | return (value : Value)
  | failure (message : String)

abbrev Action := ExceptT Leave (StateT Session Run)

/-- Does something on the machine. -/
def onMachine {α : Type} (body : Run α) : Action α :=
  ExceptT.lift (StateT.lift body)

def fail {α : Type} (message : String) : Action α :=
  throw (.failure message)

/-- Fails at a record. -/
def failRunning {α : Type} (message : String) : Action α := do
  let globals := (← get).globals
  let text (name : String) : String :=
    match globals.get? name with
    | some (.value value) => value.toText "%.6g"
    | _ => ""
  fail ("run time error: " ++ message ++ "\n\tFILENAME=\"" ++ text "FILENAME" ++ "\" FNR=" ++
    text "FNR" ++ " NR=" ++ text "NR")

/-- The variables that are there from the start. -/
def firstVariables : List (String × Value) := [
  ("NR", .number 0), ("FNR", .number 0), ("NF", .number 0), ("FS", .text " "), ("OFS", .text " "),
  ("ORS", .text "\n"), ("RS", .text "\n"), ("FILENAME", .none), ("SUBSEP", .text "\x1c"),
  ("CONVFMT", .text "%.6g"), ("OFMT", .text "%.6g"), ("RSTART", .number 0),
  ("RLENGTH", .number (-1))]

/-- What a name stands for. -/
def cell (name : String) : Action Cell := do
  let session ← get
  match session.locals.get? name <|> session.globals.get? name with
  | some cell => return cell
  | none =>
    let cell := Cell.unused session.tables.size
    set { session with
      tables := session.tables.push {}
      globals := session.globals.put name cell }
    return cell

def setCell (name : String) (cell : Cell) : Action Unit :=
  modify fun session =>
    if (session.locals.get? name).isSome then
      { session with locals := session.locals.put name cell }
    else { session with globals := session.globals.put name cell }

/-- The value of a variable of the program itself. -/
def Session.global (session : Session) (name : String) : Value :=
  match session.globals.get? name with
  | some (.value value) => value
  | _ => .none

def valueOf (name : String) : Action Value := do
  match ← cell name with
  | .value value => return value
  | .unused _ => return .none
  | .table _ => fail ("illegal reference to array " ++ name)

/-- The number of the array that a name stands for. -/
def tableOf (name : String) : Action Nat := do
  match ← cell name with
  | .table n => return n
  | .unused n =>
    setCell name (.table n)
    return n
  | .value _ => fail ("illegal reference to variable " ++ name)

def tableAt (n : Nat) : Action Table :=
  return ((← get).tables[n]?).getD {}

def setTable (n : Nat) (table : Table) : Action Unit :=
  modify fun session => { session with tables := session.tables.setIfInBounds n table }

/-- Changes an array that is only held once while it is changed. -/
def changeTable (n : Nat) (change : Table → Table) : Action Unit :=
  modify fun session => { session with tables := session.tables.modify n change }

/-- The text of a variable of the program itself. -/
def Session.text (session : Session) (name : String) : String :=
  (session.global name).toText "%.6g"

def Session.setGlobal (session : Session) (name : String) (value : Value) : Session :=
  { session with globals := session.globals.put name (.value value) }

/-- A value as a text. -/
def asText (value : Value) : Action String :=
  return value.toText ((← get).text "CONVFMT")

/-- A value as it is written. -/
def asOutput (value : Value) : Action String :=
  return value.toText ((← get).text "OFMT")

/-- The expression that a text asks for. -/
def regexOf (text : String) : Action Regex :=
  match readRegex text with
  | .ok regex => return regex
  | .error message => fail message

/-- What lies between the matches of an expression that are not empty. -/
def splitBy (regex : Regex) (subject : Regex.Subject) (text : List Char) :
    Nat → Nat → Nat → List String
  | 0, first, _ => [String.ofList (text.drop first)]
  | fuel + 1, first, position =>
    match Regex.search subject regex position with
    | none => [String.ofList (text.drop first)]
    | some groups =>
      match groups.lookup 0 with
      | none => [String.ofList (text.drop first)]
      | some (a, b) =>
        if a == b then
          if a ≥ text.length then [String.ofList (text.drop first)]
          else splitBy regex subject text fuel first (a + 1)
        else
          String.ofList ((text.drop first).take (a - first)) ::
            splitBy regex subject text fuel b b

/-- How a text is cut into fields. -/
inductive Separator where
  | blanks
  | characters
  | one (c : Char)
  | regex (regex : Regex)

def separatorOf (text : String) : Action Separator := do
  match text.toList with
  | [' '] => return .blanks
  | [] => return .characters
  | [c] => return .one c
  | _ => return .regex (← regexOf text)

def Separator.split (separator : Separator) (linesToo : Bool) (text : String) : List String :=
  if text.isEmpty then []
  else
    match separator with
    | .blanks =>
      (Raw.parts (fun c => c == ' ' || c == '\t' || c == '\n') text).filter (!·.isEmpty)
    | .characters => text.toList.map String.singleton
    | .one c => Raw.parts (fun d => d == c || (linesToo && d == '\n')) text
    | .regex between =>
      let between := if linesToo then .choice between (.one (.single '\n')) else between
      let chars := text.toList
      splitBy between (.ofText chars) chars (chars.length + 1) 0 0

/-- Takes a text as the record, and cuts it into fields. -/
def setRecord (text : String) : Action Unit := do
  let session ← get
  let separator ← separatorOf (session.text "FS")
  let fields := separator.split (session.text "RS").isEmpty text
  modify fun session =>
    { session.setGlobal "NF" (.ofNat fields.length) with
      record := text, fields := (fields.map Value.seen).toArray }

/-- Puts the record together from its fields again. -/
def joinRecord : Action Unit := do
  let session ← get
  let texts ← session.fields.toList.mapM asText
  modify fun session => { session with record := (session.text "OFS").intercalate texts }

def fieldAt (n : Int) : Action Value := do
  let session ← get
  if n < 0 then failRunning ("negative field index $" ++ toString n)
  else if n == 0 then return .seen session.record
  else return (session.fields[n.toNat - 1]?).getD .none

/-- Makes a record have a number of fields. -/
def setFieldCount (n : Nat) : Action Unit := do
  modify fun session =>
    let fields := session.fields.extract 0 n ++
      Array.replicate (n - session.fields.size) (Value.seen "")
    { session.setGlobal "NF" (.ofNat n) with fields }
  joinRecord

def setField (n : Int) (value : Value) : Action Unit := do
  if n < 0 then failRunning ("negative field index $" ++ toString n)
  else if n == 0 then setRecord (← asText value)
  else
    let index := n.toNat - 1
    modify fun session =>
      let fields := session.fields ++
        Array.replicate (n.toNat - session.fields.size) (Value.seen "")
      { session.setGlobal "NF" (.ofNat fields.size) with
        fields := fields.setIfInBounds index value }
    joinRecord

/-- Gives a variable a value. The number of fields can be set so. -/
def setVariable (name : String) (value : Value) : Action Unit := do
  match ← cell name with
  | .table _ => fail ("illegal reference to array " ++ name)
  | _ =>
    setCell name (.value value)
    if name == "NF" then
      setFieldCount (((Value.wholePart? value.toNumber).getD 0).toNat)

/-- The characters up to a match of an expression, and what follows the match. -/
def cutAt (regex : Regex) (text : List Char) : Option (List Char × List Char) :=
  let subject := Regex.Subject.ofText text
  ((List.range (text.length + 1)).findSome? fun n =>
    match (Regex.matchAt? subject regex n).bind (·.lookup 0) with
    | some (first, last) => if first < last then some (first, last) else none
    | none => none).map fun (first, last) => (text.take first, text.drop last)

/-- Takes a record off a source, as the separator of records says. -/
def takeRecord (source : Source) : Action (Option (String × Source)) := do
  let separator := (← get).text "RS"
  match separator.toList with
  | [] =>
    let text := source.left.dropWhile (· == '\n')
    if text.isEmpty then return none
    else
      let (record, rest) := paragraph [] text
      return some (String.ofList record, ⟨rest⟩)
  | [c] =>
    if source.left.isEmpty then return none
    else
      let record := source.left.takeWhile (· != c)
      return some (String.ofList record, ⟨source.left.drop (record.length + 1)⟩)
  | _ =>
    if source.left.isEmpty then return none
    else
      match cutAt (← regexOf separator) source.left with
      | some (record, rest) => return some (String.ofList record, ⟨rest⟩)
      | none => return some (String.ofList source.left, ⟨[]⟩)
where
  /-- The characters up to a blank line. -/
  paragraph (held : List Char) : List Char → List Char × List Char
    | [] => (held.reverse, [])
    | '\n' :: '\n' :: rest => (held.reverse, rest.dropWhile (· == '\n'))
    | ['\n'] => (held.reverse, [])
    | c :: rest => paragraph (c :: held) rest

/-- A number more than a variable was. -/
def countUp (name : String) : Action Unit :=
  modify fun session =>
    session.setGlobal name (.number ((session.global name).toNumber + 1))

/-- The name and the value of an assignment among the arguments. -/
def assignmentOf? (arg : String) : Option (String × String) :=
  let name := arg.toList.takeWhile fun c => c.isAlphanum || c == '_'
  match name, arg.toList.drop name.length with
  | c :: _, '=' :: value =>
    if c.isDigit then none else some (String.ofList name, String.ofList value)
  | _, _ => none

/-- A text that is given on the command line, with its escapes replaced. -/
def givenText (s : String) : String :=
  String.ofList (unescaped s.length s.toList)
where
  unescaped : Nat → List Char → List Char
    | 0, _ | _, [] => []
    | fuel + 1, '\\' :: c :: rest =>
      match [('n', '\n'), ('t', '\t'), ('\\', '\\'), ('"', '"'), ('r', '\r')].lookup c with
      | some d => d :: unescaped fuel rest
      | none => '\\' :: c :: unescaped fuel rest
    | fuel + 1, c :: rest => c :: unescaped fuel rest

/-- Opens the next document of the arguments. If none is named the input is read. Whether there is
    one is told. -/
def openNext : Nat → Action Bool
  | 0 => return false
  | fuel + 1 => do
    let session ← get
    match session.arguments with
    | [] =>
      if session.readsInput then
        let document ← onMachine (readStream 0)
        modify fun session => { session with
          main := some ⟨(Raw.ofBytes document).toList⟩, readsInput := false }
        return true
      else return false
    | arg :: rest =>
      set { session with arguments := rest }
      if arg.isEmpty then openNext fuel
      else
        match assignmentOf? arg with
        | some (name, value) =>
          setVariable name (.seen (givenText value))
          openNext fuel
        | none =>
          let read ←
            if arg == "-" then pure (.ok (← onMachine (readStream 0))) else onMachine (contents arg)
          match read with
          | .error fault =>
            fail ("cannot open \"" ++ arg ++ "\" (" ++ fault.description.1 ++ ")")
          | .ok document =>
            modify fun session =>
              { (session.setGlobal "FILENAME" (.text arg)).setGlobal "FNR" (.number 0) with
                main := some ⟨(Raw.ofBytes document).toList⟩, readsInput := false }
            return true

/-- The next record of the main input. -/
def nextRecord : Nat → Action (Option String)
  | 0 => return none
  | fuel + 1 => do
    match (← get).main with
    | none => if ← openNext ((← get).arguments.length + 1) then nextRecord fuel else return none
    | some source =>
      match ← takeRecord source with
      | some (record, source) =>
        modify fun session => { session with main := some source }
        countUp "NR"
        countUp "FNR"
        return some record
      | none =>
        modify fun session => { session with main := none }
        nextRecord fuel

/-- How many documents may follow each other. -/
def Session.documentFuel (session : Session) : Nat :=
  2 * session.arguments.length + 4

/-- Hands on what is held back. -/
def flush : Action Unit := do
  let held := (← get).held
  modify fun session => { session with held := [] }
  if !held.isEmpty then onMachine (Sandbox.say (String.join held.reverse))

def write (text : String) : Action Unit :=
  modify fun session => { session with held := text :: session.held }

/-- Runs a command of the shell, and gives its status. -/
def runCommand (launch : Launch) (words : String) : Run Nat := do
  match ← launch ["sh", "-c", words] with
  | .ok status => return statusNumber status
  | .error _ => return 127

/-- Ends what is written to under a name. -/
def finishSink (launch : Launch) (name : String) : Sink → Action Nat
  | .stream number => do
    onMachine (modify (·.detach number))
    return 0
  | .command held =>
    onMachine do
      let before ← get
      set (before.attach 0 (.source (Raw.toBytes held) 0 false))
      let status ← runCommand launch name
      modify fun after => { after with streams := before.streams }
      return status

/-- Closes what is read from or written to under a name. -/
def close (launch : Launch) (name : String) : Action Int := do
  let session ← get
  match session.sinks.get? name, session.sources.get? name with
  | some sink, _ =>
    set { session with sinks := session.sinks.filter (·.1 != name) }
    return (← finishSink launch name sink : Nat)
  | none, some _ =>
    set { session with sources := session.sources.filter (·.1 != name) }
    return 0
  | none, none => return -1

/-- Writes a text under the name of a file. -/
def writeFile (name text : String) (atEnd : Bool) : Action Unit := do
  if name == "/dev/stdout" || name == "-" then write text
  else if name == "/dev/stderr" then
    onMachine (emit 2 (Raw.toBytes text))
  else
    match (← get).sinks.get? name with
    | some (.stream number) => onMachine (emit number (Raw.toBytes text))
    | _ =>
      let session ← get
      let number := 20 + session.sinks.length
      let opening : Opening := if atEnd then .atEnd else .emptied
      let machine ← onMachine (get : Run Machine)
      match machine.openForOutput number opening name with
      | .error fault =>
        fail ("cannot open \"" ++ name ++ "\" for output (" ++ fault.description.1 ++ ")")
      | .ok machine =>
        onMachine (set machine)
        set { session with sinks := session.sinks.put name (.stream number) }
        onMachine (emit number (Raw.toBytes text))

/-- Writes a text to a command. -/
def writeCommand (name text : String) : Action Unit := do
  match (← get).sinks.get? name with
  | some (.command held) =>
    modify fun session =>
      { session with sinks := session.sinks.put name (.command (held ++ text)) }
  | _ =>
    flush
    modify fun session => { session with sinks := session.sinks.put name (.command text) }

/-- Ends everything that is written to, and hands on what is held back. -/
def finishAll (launch : Launch) : Action Unit := do
  let sinks := (← get).sinks
  modify fun session => { session with sinks := [] }
  -- What the program wrote itself comes behind what its commands write.
  let held := (← get).held
  modify fun session => { session with held := [] }
  for (name, sink) in sinks do
    let _ ← finishSink launch name sink
  modify fun session => { session with held := session.held ++ held }
  flush

/-- The source of what is read under a name, opened if it is not yet. -/
def sourceOf (name : String) (read : Run (Option ByteArray)) : Action (Option Source) := do
  match (← get).sources.get? name with
  | some source => return some source
  | none =>
    match ← onMachine read with
    | none => return none
    | some document => return some ⟨(Raw.ofBytes document).toList⟩

end InfoFlow.Awk
