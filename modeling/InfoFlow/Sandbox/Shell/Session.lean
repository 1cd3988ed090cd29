import InfoFlow.Sandbox.Condition
import InfoFlow.Sandbox.Shell.Grammar

namespace InfoFlow.Shell

open Sandbox

/-- A variable. It may be known without having a value. -/
structure Variable where
  value : Option String := none
  isExported : Bool := false
  isReadonly : Bool := false

/-- How a command leaves the commands around it. -/
inductive Departure where
  | exit
  /-- A mistake, which was reported. -/
  | mistake
  | killed (signal : Nat)
  /-- Out of some loops around it, the last of which may go on. -/
  | loop (levels : Nat) (goesOn : Bool)
  /-- Out of a function, or a script that was read in. -/
  | function

structure Session where
  machine : Machine
  /-- How the script is called. -/
  name : String := "sh"
  args : List String := []
  bindings : Entries Variable := []
  functions : Entries Command := []
  /-- How the last command ended; 0 is success. -/
  status : Nat := 0
  /-- The options that are on, by their letters. -/
  letters : List Char := []
  /-- The line of the command that runs. -/
  line : Nat := 0
  /-- The command in whose name mistakes are reported. -/
  caller : Option String := none
  /-- The documents that stand in scripts, by their numbers. -/
  documents : List (Nat × Word) := []
  nextDocument : Nat := 0
  /-- What is run when something happens, by its name. -/
  traps : Entries String := []
  /-- The variables that each function around has of its own, with what they were before. -/
  locals : List (List (String × Option Variable)) := []
  /-- The options as they were before each function around, where it keeps its own. -/
  ownLetters : List (Option (List Char)) := []
  /-- Words that stand for other texts where a command begins. -/
  aliases : List (String × String) := []
  /-- The paths of the commands that have been found. -/
  found : List (String × String) := []
  /-- The working directory as it is shown, if that is not the path to its place. -/
  shownDirectory : Option String := none
  /-- The number of loops around. -/
  depth : Nat := 0
  ownNumber : Nat := 4242
  /-- The commands in the background, which have ended, with how they did. -/
  jobs : List (Nat × Nat) := []
  /-- How the last script in a word ended. -/
  outputStatus : Option Nat := none
  /-- How many letters of the argument that is looked at have been taken as options. -/
  optionLetters : Nat := 0

/-- What a script does; it may leave early. -/
abbrev Action := ExceptT Departure (StateM Session)

/-- What the machine does for a script. -/
def onMachine {α : Type} (body : Run α) : Action α := do
  let session ← get
  let (outcome, machine) := body.run session.machine
  set { session with machine }
  match outcome with
  | .ok a => return a
  | .error signal => throw (.killed signal)

def Session.has (session : Session) (letter : Char) : Bool :=
  session.letters.contains letter

def setStatus (status : Nat) : Action Unit :=
  modify ({ · with status })

/-- Reports a mistake of the script, with its place. -/
def complain (message : String) : Action Unit := do
  let session ← get
  let caller := (session.caller.map (· ++ ": ")).getD ""
  onMachine (report (session.name ++ ": " ++ toString session.line) (caller ++ message))

/-- Reports a mistake, and leaves what cannot go on after it. -/
def refuse {α : Type} (message : String) (status : Nat := 2) : Action α := do
  complain message
  setStatus status
  throw .mistake

/-- Ends the script. -/
def exitWith {α : Type} (status : Nat) : Action α := do
  setStatus status
  throw .exit

/-- Runs something, and puts back a part of the session however it is left. -/
def keeping {α : Type} (restore : Session → Session → Session) (body : Action α) : Action α := do
  let before ← get
  let outcome ← ExceptT.lift body.run
  modify (restore before)
  MonadExcept.ofExcept outcome

/-- Puts back the streams. -/
def restoreStreams (before after : Session) : Session :=
  { after with machine := { after.machine with streams := before.machine.streams } }

/-- Runs something that cannot change the variables or leave more than itself. Its files and its
    signals are those of the script. -/
def subshell (body : Action Unit) : Action Unit := do
  let before ← get
  let outcome ← ExceptT.lift body.run
  modify fun after =>
    { before with
      machine := before.machine.sharing after.machine
      status := after.status % 256
      documents := after.documents
      nextDocument := after.nextDocument }
  match outcome with
  | .error (.killed signal) => throw (.killed signal)
  | _ => return ()

/-- What something writes to its output. -/
def captured (body : Action Unit) : Action ByteArray := do
  let n := (← get).machine.channels.size
  subshell do
    modify fun session =>
      { session with machine := session.machine.attach 1 (.buffer .empty) }
    body
  let written := (← get).machine.bufferAt n
  modify fun session =>
    { session with machine := { session.machine with
      channels := session.machine.channels.setIfInBounds n .nothing } }
  return written

/-- Runs something with a given input. -/
def withInput (document : ByteArray) (body : Action Unit) : Action Unit :=
  keeping restoreStreams do
    modify fun session =>
      { session with machine := session.machine.attach 0 (.source document 0 false) }
    body

/-- A number that is written with digits only. -/
def digits? (s : String) : Option Nat :=
  if !s.isEmpty && s.toList.all Char.isDigit then s.toNat? else none

/-- The count that a text is: below two to the thirty-first, possibly between blanks. -/
def count? (s : String) : Option Nat :=
  match Condition.number s with
  | .ok n => if 0 ≤ n && n < (Nat.pow 2 31 : Nat) then some n.toNat else none
  | .error _ => none

/-- The count that an argument is to be. -/
def count (arg : String) : Action Nat :=
  match count? arg with
  | some n => return n
  | none => refuse ("Illegal number: " ++ arg)

/-- The count that a command may be given. -/
def countOr (default : Nat) (args : List String) : Action Nat :=
  match args with
  | [] => return default
  | arg :: _ => count arg

/-- The value of a variable. -/
def Session.value? (session : Session) (name : String) : Option String :=
  (session.bindings.get? name).bind (·.value)

/-- Gives a variable its value. -/
def assign (name value : String) : Action Unit := do
  let session ← get
  let known := (session.bindings.get? name).getD {}
  if !isName name then
    refuse (name ++ ": bad variable name")
  else if known.isReadonly then
    refuse (name ++ ": is read only")
  else if name == "OPTIND" && (count? value).isNone then
    refuse ("Illegal number: " ++ value)
  else
    let isExported := known.isExported || session.has 'a'
    set { session with
      bindings := session.bindings.put name { known with value := some value, isExported }
      optionLetters := if name == "OPTIND" then 0 else session.optionLetters
      found := if name == "PATH" then [] else session.found }

/-- Takes away a variable. -/
def forget (name : String) : Action Unit := do
  let session ← get
  if ((session.bindings.get? name).getD {}).isReadonly then
    refuse (name ++ ": is read only")
  else set { session with bindings := session.bindings.filter (·.1 != name) }

/-- Puts a variable back as it was. -/
def Session.restoreVariable (session : Session) (name : String) (before : Option Variable) :
    Session :=
  match before with
  | none => { session with bindings := session.bindings.filter (·.1 != name) }
  | some known => { session with bindings := session.bindings.put name known }

/-- The order in which tables show names: by the remainder of a sum of their characters. -/
def tableOrder (size : Nat) (name : String) : Nat :=
  let codes := name.toList.map Char.toNat
  (16 * codes.headD 0 + codes.foldl (· + ·) 0) % size

/-- Entries in the order of a table. -/
def inTableOrder (size : Nat) (entries : List (String × String)) : List (String × String) :=
  entries.mergeSort fun a b => tableOrder size a.1 ≤ tableOrder size b.1

/-- The variables that other programs see. The path of programs is older than those beside it in the
    table. -/
def Session.environment (session : Session) : Environment :=
  let (first, rest) := session.bindings.partition (·.1 == "PATH")
  inTableOrder 39 ((first ++ rest).filterMap fun (name, known) =>
    if known.isExported then known.value.map (name, ·) else none)

/-- The session in which a variable is seen by other programs. -/
def Session.exported (session : Session) (name : String) : Session :=
  match session.bindings.get? name with
  | some known =>
    { session with bindings := session.bindings.put name { known with isExported := true } }
  | none => session

/-- The directories in which programs are looked for. -/
def Session.searchPath (session : Session) : List String :=
  match session.value? "PATH" with
  | some text => Raw.parts (· == ':') text
  | none => []

/-- What is run by a name. -/
def Session.runnable (session : Session) (name : String) : Except IoFault (String × Runnable) :=
  session.machine.runnableIn session.searchPath name

/-- The number of the job that is named by its place among the jobs, the first of which is one. -/
def Session.jobNumber? (session : Session) (name : String) : Option Nat :=
  if name.isEmpty || name == "%" || name == "+" then (session.jobs.head?).map Prod.fst
  else
    match name.toNat? with
    | some (n + 1) => (session.jobs.reverse[n]?).map Prod.fst
    | _ => none

/-- The options, each with its name and its letter if it has one. -/
def optionNames : List (String × Option Char) :=
  [("errexit", some 'e'), ("noglob", some 'f'), ("ignoreeof", some 'I'),
    ("interactive", some 'i'), ("monitor", some 'm'), ("noexec", some 'n'), ("stdin", some 's'),
    ("xtrace", some 'x'), ("verbose", some 'v'), ("vi", some 'V'), ("emacs", some 'E'),
    ("noclobber", some 'C'), ("allexport", some 'a'), ("notify", some 'b'),
    ("nounset", some 'u'), ("privileged", some 'p'), ("nolog", none), ("debug", none)]

/-- The letters of the options that are on, in a fixed order. -/
def Session.shownLetters (session : Session) : String :=
  String.ofList ((optionNames.reverse.filterMap Prod.snd).filter session.has)

/-- The value of a parameter, if it is set. -/
def Session.parameter? (session : Session) (name : String) : Option String :=
  if name == "#" then some (toString session.args.length)
  else if name == "?" then some (toString session.status)
  else if name == "$" then some (toString session.ownNumber)
  else if name == "!" then session.jobs.head?.map fun (n, _) => toString n
  else if name == "-" then some session.shownLetters
  else if name == "0" then some session.name
  else
    match name.toNat? with
    | some n => if n == 0 then some session.name else session.args[n - 1]?
    | none => session.value? name

/-- The characters that cut the values of parameters into fields. -/
def Session.separators (session : Session) : List Char :=
  match session.bindings.get? "IFS" with
  | some known => (known.value.getD "").toList
  | none => [' ', '\t', '\n']

/-- Shows the lines of a script that were read, if that is asked for. -/
def showRead (reader : Reader) (isWhole : Bool) (lines : Nat) : Action Unit := do
  let session ← get
  if reader.isShown && session.has 'v' then
    let text := if isWhole then reader.rest else firstLines lines reader.rest
    onMachine (emit 2 (Raw.toBytes (String.ofList text)))
where
  firstLines : Nat → List Char → List Char
    | 0, _ | _, [] => []
    | n + 1, '\n' :: rest => '\n' :: firstLines n rest
    | n + 1, c :: rest => c :: firstLines (n + 1) rest

/-- Reads the next line of commands of a script. -/
def readCommand (reader : Reader) : Action (Option Command × Reader) := do
  let session ← get
  let outcome := nextCommand { reader with
    documents := session.documents, nextDocument := session.nextDocument
    aliases := session.aliases, replaced := [] }
  match outcome with
  | .ok (command, after) =>
    showRead reader after.rest.isEmpty (after.line - reader.line)
    modify fun session =>
      { session with documents := after.documents, nextDocument := after.nextDocument }
    return (command, after)
  | .error (line, fault) =>
    showRead reader false (line + 1 - reader.line)
    modify ({ · with line })
    refuse ("Syntax error: " ++ fault.message)

end InfoFlow.Shell
