import InfoFlow.Entries
import InfoFlow.Host.Tree
import InfoFlow.Sandbox.Raw

namespace InfoFlow.Sandbox

/-- What a stream leads to. -/
inductive Channel where
  /-- Holds nothing, and takes everything. -/
  | nothing
  /-- What can be read, and how much of it has been. What comes from a file can be read again. -/
  | source (document : ByteArray) (position : Nat) (isFile : Bool)
  /-- What has been written. -/
  | buffer (written : ByteArray)
  /-- A file that is written to at a position, or always at its end. -/
  | file (place : Location) (position : Nat) (atEnd : Bool)

/-- The environment of a program: texts under names, in the order in which they were put there. -/
abbrev Environment := List (String × String)

/-- Puts a text under a name, in place of the one that was there. -/
def Environment.put (name value : String) : Environment → Environment
  | [] => [(name, value)]
  | (other, known) :: rest =>
    if other == name then (name, value) :: rest else (other, known) :: put name value rest

/-- The machine that a program runs on: the files, and for that program its working directory, its
    environment and its streams. Programs share the channels that their streams lead to, so what one
    of them reads is gone for the others. -/
structure Machine where
  tree : Tree
  workDir : Location
  environment : Environment := []
  channels : Array Channel := #[]
  /-- The channel that each stream leads to. -/
  streams : List (Nat × Nat) := []
  /-- What the modes of new files lack. -/
  mask : Nat := 0o022

/-- What runs on a machine. A signal may end it early. -/
abbrev Run := ExceptT Nat (StateM Machine)

/-- A program, given the name that it is called by and its arguments. It ends with a number. -/
abbrev Program := String → List String → Run Nat

/-- Starts another program, given its name and arguments, and waits for its end. -/
abbrev Launch := List String → Run (Except IoFault ExitStatus)

/-- The number that a program which started another one ends with. -/
def statusNumber : ExitStatus → Nat
  | .code n => n
  | .signal n => 128 + n

/-- The channel that a stream leads to. -/
def Machine.channel? (machine : Machine) (stream : Nat) : Option Channel :=
  (machine.streams.lookup stream).bind (machine.channels[·]?)

/-- Writes bytes into a document from a position on. What lies between its end and the position
    becomes zero. -/
def overwrite (document bytes : ByteArray) (position : Nat) : ByteArray :=
  if position == document.size then document ++ bytes
  else
    let padding : ByteArray := ⟨Array.replicate (position - document.size) 0⟩
    document.extract 0 position ++ padding ++ bytes ++
      document.extract (position + bytes.size) document.size

/-- Writes to a stream. What is written to a stream that is closed is lost. -/
def Machine.write (machine : Machine) (stream : Nat) (bytes : ByteArray) : Machine :=
  match machine.streams.lookup stream with
  | none => machine
  | some n =>
    match machine.channels[n]? with
    | some (.buffer written) =>
      let channels := machine.channels.setIfInBounds n .nothing
      { machine with channels := channels.setIfInBounds n (.buffer (written ++ bytes)) }
    | some (.file place position atEnd) =>
      match machine.tree.node? place with
      | some (.file document _) =>
        let position := if atEnd then document.size else position
        { machine with
          tree := machine.tree.putDocument place (overwrite document bytes position)
          channels :=
            machine.channels.setIfInBounds n (.file place (position + bytes.size) atEnd) }
      | _ => machine
    | _ => machine

def emit (stream : Nat) (bytes : ByteArray) : Run Unit :=
  modify (·.write stream bytes)

/-- Writes a text of bytes to the output. -/
def say (raw : String) : Run Unit :=
  emit 1 (Raw.toBytes raw)

/-- Reports a mistake on a line of its own. -/
def report (name message : String) : Run Unit :=
  emit 2 (Raw.toBytes (name ++ ": " ++ message ++ "\n"))

/-- Puts a channel behind a stream. -/
def Machine.attach (machine : Machine) (stream : Nat) (channel : Channel) : Machine :=
  { machine with
    channels := machine.channels.push channel
    streams := (stream, machine.channels.size) ::
      machine.streams.filter fun (other, _) => other != stream }

/-- Takes away a stream. -/
def Machine.detach (machine : Machine) (stream : Nat) : Machine :=
  { machine with streams := machine.streams.filter fun (other, _) => other != stream }

/-- Lets a stream lead where another one leads. -/
def Machine.attachAs (machine : Machine) (stream other : Nat) : Option Machine :=
  (machine.streams.lookup other).map fun n =>
    { machine with
      streams := (stream, n) :: machine.streams.filter fun (known, _) => known != stream }

/-- Reads a stream to its end. -/
def readStream (stream : Nat) : Run ByteArray := do
  let machine ← get
  match machine.streams.lookup stream with
  | none => return .empty
  | some n =>
    match machine.channels[n]? with
    | some (.source document position isFile) =>
      set { machine with
        channels := machine.channels.setIfInBounds n (.source document document.size isFile) }
      return document.extract position document.size
    | _ => return .empty

/-- The position after the next line end of a document. -/
def lineEnd (document : ByteArray) : Nat → Nat → Nat
  | 0, position => position
  | fuel + 1, position =>
    match document[position]? with
    | none => position
    | some b => if b == 10 then position + 1 else lineEnd document fuel (position + 1)

/-- Reads a line of a stream, with its end. -/
def readLine (stream : Nat) : Run ByteArray := do
  let machine ← get
  match machine.streams.lookup stream with
  | none => return .empty
  | some n =>
    match machine.channels[n]? with
    | some (.source document position isFile) =>
      let next := lineEnd document (document.size - position) position
      set { machine with
        channels := machine.channels.setIfInBounds n (.source document next isFile) }
      return document.extract position next
    | _ => return .empty

/-- Reads a number of bytes of a stream at most. -/
def readBytes (stream count : Nat) : Run ByteArray := do
  let machine ← get
  match machine.streams.lookup stream with
  | none => return .empty
  | some n =>
    match machine.channels[n]? with
    | some (.source document position isFile) =>
      let next := min document.size (position + count)
      set { machine with
        channels := machine.channels.setIfInBounds n (.source document next isFile) }
      return document.extract position next
    | _ => return .empty

/-- Gives back a number of bytes that were read of a stream. What does not come from a file is
    lost. -/
def giveBack (stream count : Nat) : Run Unit :=
  modify fun machine =>
    match machine.streams.lookup stream with
    | none => machine
    | some n =>
      match machine.channels[n]? with
      | some (.source document position true) =>
        { machine with channels :=
            machine.channels.setIfInBounds n (.source document (position - count) true) }
      | _ => machine

/-- The stream that a path stands for. -/
def streamOf? (path : String) : Option Nat :=
  [("/dev/stdin", 0), ("/dev/stdout", 1), ("/dev/stderr", 2), ("/dev/fd/0", 0), ("/dev/fd/1", 1),
    ("/dev/fd/2", 2), ("/proc/self/fd/0", 0), ("/proc/self/fd/1", 1),
    ("/proc/self/fd/2", 2)].lookup path

/-- What is at a path. -/
def nodeAt (path : String) : Run (Except IoFault (Location × Node)) := do
  let machine ← get
  return machine.tree.find machine.workDir (Raw.toText path)

/-- What is at a path, be it a link. -/
def linkAt (path : String) : Run (Except IoFault (Location × Node)) := do
  let machine ← get
  return machine.tree.look false machine.workDir (Raw.toText path)

/-- The bytes of a file. -/
def contents (path : String) : Run (Except IoFault ByteArray) := do
  match streamOf? path with
  | some stream => return .ok (← readStream stream)
  | none =>
    let machine ← get
    return machine.tree.readFile machine.workDir (Raw.toText path)

/-- The path that leads from the root to a place. -/
def pathOf (place : Location) : String :=
  Raw.ofText ("/" ++ "/".intercalate place)

/-- Whether a path leads to something. -/
def Machine.leadsToNode (machine : Machine) (path : String) : Bool :=
  (machine.tree.find machine.workDir (Raw.toText path)).toOption.isSome

def Machine.leadsToDirectory (machine : Machine) (path : String) : Bool :=
  machine.tree.isDir machine.workDir (Raw.toText path)

/-- Whether a path leads to the file that the output leads to. -/
def Machine.isOutput (machine : Machine) (path : String) : Bool :=
  match machine.channel? 1, machine.tree.find machine.workDir (Raw.toText path) with
  | some (.file target ..), .ok (place, _) => place == target
  | _, _ => false

/-- Changes the files; what prevents it is given back. -/
def changeTree (attempt : Tree → Location → Except IoFault Tree) : Run (Option IoFault) := do
  let machine ← get
  match attempt machine.tree machine.workDir with
  | .error fault => return some fault
  | .ok tree =>
    set { machine with tree }
    return none

/-- Opens a file that is to be read, as a stream. -/
def Machine.openForInput (machine : Machine) (stream : Nat) (path : String) :
    Except IoFault Machine := do
  if let some other := streamOf? path then
    return (machine.attachAs stream other).getD machine
  match ← machine.tree.find machine.workDir (Raw.toText path) with
  | (_, .file document _) => return machine.attach stream (.source document 0 true)
  | _ => return machine.attach stream .nothing

/-- A mode without what new files lack. -/
def Machine.modeFor (machine : Machine) (mode : Nat) : Nat :=
  mode - mode.land machine.mask

/-- How a file that is to be written is opened. -/
inductive Opening where
  | emptied
  | atEnd
  | kept

/-- Opens a file that is to be written, as a stream. -/
def Machine.openForOutput (machine : Machine) (stream : Nat) (opening : Opening)
    (path : String) : Except IoFault Machine := do
  if let some other := streamOf? path then
    return (machine.attachAs stream other).getD machine
  let place ← machine.tree.placeToWrite machine.workDir (Raw.toText path)
  match machine.tree.node? place, opening with
  | some .sink, _ => return machine.attach stream .nothing
  | some (.file ..), .atEnd => return machine.attach stream (.file place 0 true)
  | some (.file ..), .kept => return machine.attach stream (.file place 0 false)
  | known, _ =>
    let tree := machine.tree.putDocument place .empty
    let tree := if known.isNone then tree.put place (.file .empty (machine.modeFor 0o666)) else tree
    let machine := { machine with tree }
    return machine.attach stream
      (.file place 0 (match opening with | .atEnd => true | _ => false))

/-- What is of a machine itself, whatever program runs on it. -/
def Machine.sharing (before after : Machine) : Machine :=
  { before with tree := after.tree, channels := after.channels }

/-- Runs something as a program of its own. -/
def isolated (body : Run Nat) : Run ExitStatus := do
  let before ← get
  let outcome ← ExceptT.lift body.run
  modify (Machine.sharing before)
  match outcome with
  | .ok n => return .code (n % 256)
  | .error signal => return .signal signal

/-- What is in a buffer. -/
def Machine.bufferAt (machine : Machine) (n : Nat) : ByteArray :=
  match machine.channels[n]? with
  | some (.buffer written) => written
  | _ => .empty

/-- Runs something with a given input, and gives what it writes to its output. -/
def piped (input : Option ByteArray) (body : Run Nat) : Run (ExitStatus × ByteArray) := do
  let n := (← get).channels.size
  let status ← isolated do
    modify (·.attach 1 (.buffer .empty))
    if let some document := input then modify (·.attach 0 (.source document 0 false))
    body
  let written := (← get).bufferAt n
  modify fun machine => { machine with channels := machine.channels.setIfInBounds n .nothing }
  return (status, written)

/-- What can be run: a program of the machine, or a file that names the program that reads it. -/
inductive Runnable where
  | program (name : String)
  | script (interpreter : List String) (path : String)

/-- The words of the first line of a script that names its interpreter: the program, and the rest of
    the line if there is one. -/
def interpreterOf? (document : ByteArray) : Option (List String) :=
  match (Raw.ofBytes (document.extract 0 256)).toList with
  | '#' :: '!' :: rest =>
    let isBlank (c : Char) := c == ' ' || c == '\t'
    let line := (rest.takeWhile (· != '\n')).dropWhile isBlank
    let name := line.takeWhile (!isBlank ·)
    let more := ((line.drop name.length).dropWhile isBlank).reverse.dropWhile isBlank
    if name.isEmpty then none
    else some (String.ofList name :: if more.isEmpty then [] else [String.ofList more.reverse])
  | _ => none

/-- What is run by a path. -/
def Machine.runnableAt (machine : Machine) (path : String) : Except IoFault Runnable := do
  match ← machine.tree.find machine.workDir (Raw.toText path) with
  | (_, .program name) => return .program name
  | (_, .file document mode) =>
    if !Node.runs mode then throw .permissionDenied
    match interpreterOf? document with
    | some interpreter => return .script interpreter path
    | none => throw .badFormat
  | _ => throw .permissionDenied

/-- The directories in which programs are looked for. -/
def Machine.searchPath (machine : Machine) : List String :=
  Raw.parts (· == ':') ((machine.environment.lookup "PATH").getD "/usr/bin:/bin")

/-- Looks for a program in directories. A file that may not be run is passed over, but if nothing
    else is found it is the fault. -/
def Machine.search (machine : Machine) (name : String) :
    IoFault → List String → Except IoFault (String × Runnable)
  | fault, [] => .error fault
  | fault, directory :: rest =>
    let path := if directory.isEmpty then name else directory ++ "/" ++ name
    match machine.runnableAt path with
    | .ok runnable => .ok (path, runnable)
    | .error .notFound | .error .notADirectory => search machine name fault rest
    | .error .permissionDenied => search machine name .permissionDenied rest
    | .error fault => .error fault

/-- What is run by a name: what is at the path, or what is found in some directories. -/
def Machine.runnableIn (machine : Machine) (directories : List String) (name : String) :
    Except IoFault (String × Runnable) :=
  if name.isEmpty then .error .notFound
  else if name.toList.contains '/' then (machine.runnableAt name).map (name, ·)
  else if name.length > Path.maxStep then .error .nameTooLong
  else machine.search name .notFound directories

/-- What is run by a name, if it is looked for in the directories of programs. -/
def Machine.runnable (machine : Machine) (name : String) : Except IoFault (String × Runnable) :=
  machine.runnableIn machine.searchPath name

/-- Launches programs of a table, or those that scripts name, as programs of their own. Fuel bounds
    how deep programs may start each other. -/
def launch (known : String → Option (Launch → Program)) : Nat → Launch
  | 0, _ => return .error (.system 11)
  | _, [] => return .error .notFound
  | fuel + 1, name :: args => do
    match (← get).runnable name with
    | .error fault => return .error fault
    | .ok (_, .program found) =>
      match known found with
      | none => return .error .notFound
      | some program => return .ok (← isolated (program (launch known fuel) name args))
    | .ok (path, .script interpreter _) =>
      launch known fuel (interpreter ++ path :: args)

end InfoFlow.Sandbox
