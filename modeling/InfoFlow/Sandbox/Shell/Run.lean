import InfoFlow.Sandbox.Shell.Builtin
import InfoFlow.Sandbox.Shell.Expansion

namespace InfoFlow.Shell

open Sandbox

/-- How often a loop may be repeated. -/
def loopFuel : Nat := 1000000

/-- How deep functions may call each other. -/
def callDepth : Nat := 1000

/-- Goes on with something until it stops by itself. -/
def repeatWhile {σ : Type} (step : σ → Action (σ × Bool)) : Nat → σ → Action σ
  | 0, _ => throw (.killed 9)
  | fuel + 1, a => do
    let (a, goesOn) ← step a
    if goesOn then repeatWhile step fuel a else return a

/-- Runs the body of a loop; whether the loop goes on. -/
def insideLoop (body : Action Unit) : Action Bool := do
  let outcome ← ExceptT.lift (keeping (fun before after => { after with depth := before.depth }) do
    modify fun session => { session with depth := session.depth + 1 }
    body).run
  match outcome with
  | .ok () => return true
  | .error (.loop (levels + 2) goesOn) => throw (.loop (levels + 1) goesOn)
  | .error (.loop _ goesOn) => return goesOn
  | .error departure => throw departure

/-- Why a file cannot be opened. -/
def openFault (missing : String) (fault : IoFault) : String :=
  if fault == .notFound || fault == .notADirectory then missing else fault.description.1

/-- How commands are carried out. -/
structure Runner where
  /-- Carries out a command of the script. -/
  run : Command → Action Unit
  /-- Carries out the script in a word. -/
  output : Command → Action Unit
  launch : Launch

/-- Opens a file for a stream; whether that is possible. -/
def openFile (stream : Nat) (use : FileUse) (path : String) : Action Bool := do
  let session ← get
  let opened :=
    match use with
    | .read => session.machine.openForInput stream path
    | .append => session.machine.openForOutput stream .atEnd path
    | .readWrite =>
      if session.machine.leadsToNode path then session.machine.openForInput stream path
      else session.machine.openForOutput stream .kept path
    | .overwrite => session.machine.openForOutput stream .emptied path
    | .write =>
      match session.has 'C', nodeIn session.machine path with
      | true, some (.file ..) => .error .alreadyExists
      | _, _ => session.machine.openForOutput stream .emptied path
  match opened with
  | .ok machine =>
    set { session with machine }
    return true
  | .error fault =>
    let message :=
      match use with
      | .read => "cannot open " ++ path ++ ": " ++ openFault "No such file" fault
      | _ => "cannot create " ++ path ++ ": " ++ openFault "Directory nonexistent" fault
    complain message
    return false
where
  nodeIn (machine : Machine) (path : String) : Option Node :=
    ((machine.tree.find machine.workDir (Raw.toText path)).toOption).map (·.2)

namespace Runner

variable (runner : Runner)

/-- Points a stream elsewhere; whether that is possible. -/
def redirect (redirection : Redirection) : Action Bool := do
  match redirection with
  | .file stream use word => openFile stream use (← expandText runner.output word)
  | .document stream number =>
    let word := ((← get).documents.lookup number).getD []
    let text ← expandText runner.output word
    modify fun session => { session with
      machine := session.machine.attach stream (.source (Raw.toBytes text) 0 false) }
    return true
  | .duplicate stream word =>
    let s ← expandText runner.output word
    let session ← get
    if s == "-" then
      set { session with machine := session.machine.detach stream }
      return true
    else
      match digits? s with
      | none => refuse "Bad fd number"
      | some source =>
        match session.machine.attachAs stream source with
        | some machine =>
          set { session with machine }
          return true
        | none =>
          complain (s ++ ": Bad file descriptor")
          return false

/-- Points streams elsewhere as long as that is possible; whether all of them were. -/
def redirectAll : List Redirection → Action Bool
  | [] => return true
  | redirection :: rest => do
    if ← runner.redirect redirection then redirectAll rest else return false

/-- Runs a script from a reader on. Each step reads at least a line end or stops. -/
def runFrom : Nat → Reader → Action Unit
  | 0, _ => return ()
  | fuel + 1, reader => do
    match ← readCommand reader with
    | (none, _) => return ()
    | (some command, reader) =>
      runner.run command
      runFrom fuel reader

/-- Runs a script that is given by its text, which may be shown while it is read. -/
def runText (text : List Char) (isShown : Bool := false) : Action Unit :=
  runner.runFrom (text.length + 1) { rest := text, isShown }

/-- Runs what is to be run at the end of a session, which keeps the status that it has unless it is
    given another one. -/
def runEndTrap : Action Unit := do
  let session ← get
  match session.traps.get? "EXIT" with
  | none => return ()
  | some action =>
    set { session with traps := session.traps.filter (·.1 != "EXIT") }
    let outcome ← ExceptT.lift (runner.runText action.toList).run
    match outcome with
    | .error (.killed signal) => throw (.killed signal)
    | .error .exit | .error .mistake => return ()
    | _ => setStatus session.status

/-- Runs what is to be run when a signal comes. -/
def runTrap (action : String) : Action Unit := do
  let status := (← get).status
  runner.runText action.toList
  setStatus status

/-- Runs something as a session of its own, which does not inherit what is run at the end. -/
def forked (body : Action Unit) : Action Unit := do
  modify fun session => { session with traps := session.traps.filter (·.2.isEmpty) }
  let outcome ← ExceptT.lift body.run
  match outcome with
  | .error (.killed signal) => throw (.killed signal)
  | _ => runner.runEndTrap

/-- Runs commands of which each one reads what the one before writes. -/
def runPipe : Option ByteArray → List (Action Unit) → Action Unit
  | _, [] => return ()
  | input, [last] => subshell (runner.forked (feed input last))
  | input, body :: rest => do
    let written ← captured (runner.forked (feed input body))
    runPipe (some written) rest
where
  feed (input : Option ByteArray) (body : Action Unit) : Action Unit :=
    match input with
    | none => body
    | some document => withInput document body

/-- The report of a signal that ended a program. -/
def signalReport (n : Nat) : String :=
  ([(1, "Hangup"), (3, "Quit"), (4, "Illegal instruction"), (5, "Trace/breakpoint trap"),
    (6, "Aborted"), (7, "Bus error"), (8, "Floating point exception"), (9, "Killed"),
    (10, "User defined signal 1"), (11, "Segmentation fault"), (12, "User defined signal 2"),
    (14, "Alarm clock"), (15, "Terminated")].lookup n).getD ("Signal " ++ toString n)

/-- Calls another program. -/
def callProgram (name : String) (args : List String) : Action Nat := do
  let session ← get
  set { session with
    machine := { session.machine with environment := session.environment } }
  match session.runnable name with
  | .error .badFormat => start ("/bin/sh" :: name :: args)
  | .error fault =>
    if fault == .notFound || fault == .notADirectory then
      complain (name ++ ": not found")
      return 127
    else
      complain (name ++ ": " ++ fault.description.1)
      return 126
  | .ok (path, _) =>
    rememberPath name path
    start (name :: args)
where
  start (words : List String) : Action Nat := do
    match ← onMachine (runner.launch words) with
    | .error _ =>
      complain (name ++ ": not found")
      return 127
    | .ok (.code n) => return n
    | .ok (.signal n) =>
      if n != 2 && n != 13 then
        onMachine (emit 2 (Raw.toBytes (signalReport n ++ "\n")))
      return 128 + n

/-- Calls a function. -/
def callFunction (body : Command) (args : List String) : Action Nat := do
  let before ← get
  if before.locals.length ≥ callDepth then
    refuse ("Maximum function recursion depth (" ++ toString callDepth ++ ") reached")
  set { before with
    args, locals := [] :: before.locals, ownLetters := none :: before.ownLetters, depth := 0 }
  let outcome ← ExceptT.lift (runner.run body).run
  let own := (← get).locals.headD []
  modify fun after =>
    let after := own.foldl
      (fun session (name, known) => session.restoreVariable name known) after
    { after with
      args := before.args, locals := before.locals, depth := before.depth
      ownLetters := before.ownLetters
      letters := (after.ownLetters.headD none).getD after.letters }
  if let some (name, _) := own.find? fun (name, _) => !isName name then
    refuse (name ++ ": bad variable name")
  match outcome with
  | .ok () | .error .function => return (← get).status
  | .error departure => throw departure

/-- Reads a script in, as if it stood here. -/
def readIn : Builtin
  | [] => return 0
  | path :: _ => do
    let session ← get
    let found : Option String :=
      if path.toList.contains '/' then some path
      else (session.searchPath.map fun directory => directory ++ "/" ++ path).find?
        session.machine.leadsToNode
    match found with
    | none => refuse (path ++ ": not found")
    | some path =>
      let read ← onMachine (contents path)
      -- Nothing can be read from a directory.
      match if read.toOption.isNone && session.machine.leadsToDirectory path then .ok .empty
        else read with
      | .error fault => refuse ("cannot open " ++ path ++ ": " ++ openFault "No such file" fault)
      | .ok document =>
        modify ({ · with caller := some path, status := 0 })
        let outcome ← ExceptT.lift (runner.runText (Raw.ofBytes document).toList true).run
        match outcome with
        | .ok () | .error .function => return (← get).status
        | .error departure => throw departure

/-- Runs its arguments as a script. -/
def evaluate : Builtin := fun args => do
  setStatus 0
  runner.runText (" ".intercalate args).toList
  return (← get).status

/-- The names of the commands of the shell itself that run others. -/
def running : List String :=
  [".", "eval", "exec", "command", "type", "kill"]

/-- What a name calls: as a script would write it, and in words. -/
def describe (session : Session) (name : String) : Option (String × String) :=
  let machine := session.machine
  let isSpecial := (specials.lookup name).isSome || [".", "eval", "exec"].contains name
  if reservedWords.contains name then some (name, " is a shell keyword")
  else if let some value := session.aliases.lookup name then
    some ("alias " ++ name ++ "=" ++ quoted value, " is an alias for " ++ value)
  else if isSpecial then some (name, " is a special shell builtin")
  else if session.functions.has name then some (name, " is a shell function")
  else if (ordinary.lookup name).isSome || running.contains name then
    some (name, " is a shell builtin")
  else if let some path := session.found.lookup name then
    some (path, " is a tracked alias for " ++ path)
  else if name.toList.contains '/' then
    if machine.leadsToNode name then some (name, " is " ++ name) else none
  else
    match session.runnable name with
    | .ok (path, _) => some (path, " is " ++ path)
    | .error _ => none

/-- Tells what names call. -/
def showTypes : Builtin := fun args => do
  args.foldlM (fun status name => do
    match describe (← get) name with
    | some (_, text) =>
      say (name ++ text ++ "\n")
      return status
    | none =>
      say (name ++ ": not found\n")
      return 127) 0

/-- Tells what a name calls, for a command that is given letters. -/
def showCalled : Builtin := fun args => do
  let (letters, names) ← takePlain "pvV" args
  let isFull := letters.contains 'V'
  match names with
  | [] => return 0
  | name :: _ =>
    if isFull then showTypes [name]
    else if !letters.contains 'v' then return 0
    else
      match describe (← get) name with
      | some (text, _) =>
        say (text ++ "\n")
        return 0
      | none => return 127

/-- The command behind letters that only ask for the usual directories; none if anything else is
    asked for. -/
def commandBehind : List String → Option (List String)
  | [] => none
  | arg :: rest =>
    match arg.toList with
    | ['-', '-'] => if rest.isEmpty then none else some rest
    | '-' :: c :: letters =>
      if (c :: letters).all (· == 'p') then commandBehind rest else none
    | _ => some (arg :: rest)

/-- Does a command of the shell in its own name. Its mistakes leave only itself, unless it is
    special. -/
def inName (name : String) (isSpecial : Bool) (body : Action Nat) : Action Nat := do
  let outcome ← ExceptT.lift (keeping
    (fun before after => { after with caller := before.caller }) do
      modify ({ · with caller := some name })
      body).run
  match outcome with
  | .ok status => return status
  | .error .mistake => if isSpecial then throw .mistake else return (← get).status
  | .error departure => throw departure

/-- Calls a command by its name, a function among the commands unless they are passed over. -/
def call (withFunctions : Bool) : Nat → String → List String → Action Nat
  | 0, _, _ => throw (.killed 11)
  | fuel + 1, name, args => do
    let session ← get
    match specials.lookup name with
    | some builtin => inName name withFunctions (builtin args)
    | none =>
      match name, if withFunctions then session.functions.get? name else none with
      | ".", _ => inName name withFunctions (runner.readIn args)
      | "eval", _ => inName name withFunctions (runner.evaluate args)
      | "exec", _ =>
        if args.isEmpty then return 0
        else
          let status ← inName name true (runner.callProgram (args.headD "") (args.drop 1))
          modify fun session => { session with traps := [] }
          exitWith status
      | _, some body => runner.callFunction body args
      | "command", none =>
        match commandBehind args with
        | some (target :: rest) => call false fuel target rest
        | _ => inName name false (showCalled args)
      | "type", none => showTypes args
      | "kill", none => inName name false (kill runner.runTrap args)
      | _, none =>
        match ordinary.lookup name with
        | some builtin => inName name false (builtin args)
        | none => runner.callProgram name args

/-- Whether a command is one whose mistakes end a script. -/
def isSpecial (name : String) : Bool :=
  (specials.lookup name).isSome || name == "." || name == "eval" || name == "exec"

/-- What is put in front of a command that is shown. -/
def traceFront : Action String := do
  let session ← get
  match textWord ((session.value? "PS4").getD "").toList with
  | .error _ => return ""
  | .ok word =>
    set { session with letters := session.letters.filter (· != 'x') }
    let text ← expandText runner.output word
    modify ({ · with letters := session.letters })
    return text

/-- Shows a command before it runs, if that is asked for. -/
def trace (assignments : List (String × String)) (words : List String) : Action Unit := do
  if (← get).has 'x' then
    let front ← runner.traceFront
    let shown := assignments.map (fun (name, value) => name ++ "=" ++ value) ++ words
    onMachine (emit 2 (Raw.toBytes (front ++ " ".intercalate shown ++ "\n")))

/-- The words of a command after expansion. The arguments of commands that take assignments are not
    cut where they are written as assignments. -/
def commandWords (words : List Word) : Action (List String) := do
  match words with
  | [] => return []
  | first :: rest =>
    if (plain? first).any fun name => ["export", "readonly", "local"].contains name then
      let front ← expandAll runner.output [first]
      rest.foldlM (fun texts word => do
        match assignment? word with
        | some (name, value) => return texts ++ [name ++ "=" ++ (← expandValue runner.output value)]
        | none => return texts ++ (← expandAll runner.output [word])) front
    else expandAll runner.output words

/-- Carries out a command that is called by its name. -/
def runSimple (assignments : List (String × Word)) (words : List Word)
    (redirections : List Redirection) : Action Unit := do
  modify ({ · with outputStatus := none })
  let called ← runner.commandWords words
  let isKept := called == ["exec"]
  let body : Action Unit := do
    if ← runner.redirectAll redirections then
      let values ← assignments.foldlM
        (fun values (name, word) => return values ++ [(name, ← expandValue runner.output word)]) []
      runner.trace values called
      match called with
      | [] =>
        values.forM fun (name, value) => assign name value
        setStatus ((← get).outputStatus.getD 0)
      | name :: args =>
        if isSpecial name then
          values.forM fun (name, value) => assign name value
          setStatus (← runner.call true 100 name args)
        else
          let before ← get
          values.forM fun (name, value) => do
            assign name value
            modify fun session => { session with
              bindings := (session.bindings.get? name).elim session.bindings fun known =>
                session.bindings.put name { known with isExported := true } }
          let outcome ← ExceptT.lift (runner.call true 100 name args).run
          modify fun after => values.foldl
            (fun session (name, _) => session.restoreVariable name (before.bindings.get? name))
            after
          setStatus (← MonadExcept.ofExcept outcome)
    else
      setStatus 2
      if (called.head?.map isSpecial).getD false then throw .mistake
  if isKept || redirections.isEmpty then body else keeping restoreStreams body

end Runner

section

variable (launch : Launch)

/-- Carries out a command. The failure of one that is tested does not end the script. -/
def execute : Nat → Bool → Command → Action Unit
  | 0, _, _ => throw (.killed 11)
  | fuel + 1, isTested, command => do
    if (← get).has 'n' then return
    let inner (command : Command) : Action Unit := execute fuel isTested command
    let tested (command : Command) : Action Unit := execute fuel true command
    let output (command : Command) : Action Unit :=
      Runner.forked ⟨execute fuel false, fun _ => return (), launch⟩ (execute fuel false command)
    let runner : Runner := ⟨inner, output, launch⟩
    let check : Action Unit := do
      let session ← get
      if session.has 'e' && !isTested && session.status != 0 then throw .exit
    match command with
    | .simple line assignments words redirections =>
      modify ({ · with line })
      runner.runSimple assignments words redirections
      check
    | .sequence commands => commands.forM inner
    | .both first second =>
      tested first
      if (← get).status == 0 then inner second
    | .either first second =>
      tested first
      if (← get).status != 0 then inner second
    | .negated command =>
      tested command
      setStatus (if (← get).status == 0 then 1 else 0)
    | .pipe commands =>
      runner.runPipe none (commands.map inner)
      check
    | .background command =>
      let session ← get
      subshell (runner.forked (withInput .empty (inner command)))
      let n := session.ownNumber + 1 + session.jobs.length
      modify fun after => { after with jobs := (n, after.status) :: after.jobs, status := 0 }
    | .subshell line command =>
      modify ({ · with line })
      subshell (runner.forked (inner command))
      check
    | .redirected line command redirections =>
      keeping restoreStreams do
        modify ({ · with line })
        if ← runner.redirectAll redirections then inner command else setStatus 2
    | .choice condition yes no =>
      tested condition
      if (← get).status == 0 then inner yes
      else
        setStatus 0
        inner no
    | .loop goesOn condition body =>
      let status ← repeatWhile (fun status => do
        let isAgain ← insideLoop do
          tested condition
          if ((← get).status == 0) == goesOn then inner body
          else
            setStatus status
            throw (.loop 1 false)
        return ((← get).status, isAgain)) loopFuel 0
      setStatus status
    | .each line name words body =>
      modify ({ · with line })
      let values ← match words with
        | none => do pure (← get).args
        | some words => expandAll output words
      setStatus 0
      let _ ← values.foldlM (fun goesOn value => do
        if !goesOn then return false
        assign name value
        insideLoop (inner body)) true
    | .cases line word branches =>
      modify ({ · with line })
      let text := (← expandText output word).toList
      let chosen ← branches.foldlM (fun (chosen : Option Command) (patterns, body) => do
        if chosen.isSome then return chosen
        let isMatch ← patterns.foldlM (fun isMatch pattern => do
          if isMatch then return true
          return Pattern.isMatch (← expandPattern output pattern) text) false
        return if isMatch then some body else none) none
      setStatus 0
      inner (chosen.getD .nothing)
    | .define name body =>
      modify fun session => { session with functions := session.functions.put name body }
      setStatus 0

/-- How deep the commands of a script may be nested, those of the functions that it calls
    included. -/
def nestingFuel : Nat := 12000

/-- Carries out commands as a session. -/
def Runner.ofLaunch : Runner where
  run := execute launch nestingFuel false
  output := fun command =>
    Runner.forked ⟨execute launch nestingFuel false, fun _ => return (), launch⟩
      (execute launch nestingFuel false command)
  launch

/-- Takes the options of a shell off the front of its arguments: whether it is given a script as an
    argument, and what is left. -/
def shellOptions : Nat → Bool → List String → Action (Bool × List String)
  | 0, isCommand, args => return (isCommand, args)
  | _, isCommand, [] => return (isCommand, [])
  | fuel + 1, isCommand, arg :: rest => do
    let takeAll (isOn : Bool) (letters : List Char) : Action (Bool × List String) := do
      let plain := letters.filter fun letter => letter != 'l' && !(letter == 'c' && isOn)
      return (isCommand || (isOn && letters.contains 'c'), ← setLetters isOn plain rest)
    match arg.toList with
    | ['-', '-'] | ['-'] => return (isCommand, rest)
    | '-' :: letters =>
      let (isCommand, rest) ← takeAll true letters
      shellOptions fuel isCommand rest
    | '+' :: letters =>
      let (isCommand, rest) ← takeAll false letters
      shellOptions fuel isCommand rest
    | _ => return (isCommand, arg :: rest)

/-- Runs a shell with its arguments: the script of an argument, of a file, or of its input. -/
def runShell (args : List String) : Action Unit := do
  let (isCommand, operands) ← shellOptions (args.length + 1) false args
  let start (text : List Char) (isShown : Bool := true) : Action Unit := do
    modify ({ · with line := 1 })
    (Runner.ofLaunch launch).runText text isShown
  match operands with
  | [] =>
    if isCommand then refuse "-c requires an argument"
    else start (Raw.ofBytes (← onMachine (readStream 0))).toList
  | first :: rest =>
    if isCommand then
      modify fun session => { session with
        name := rest.headD session.name, args := rest.drop 1 }
      start first.toList false
    else if (← get).has 's' then
      modify ({ · with args := operands })
      start (Raw.ofBytes (← onMachine (readStream 0))).toList
    else
      match ← onMachine (contents first) with
      | .ok document =>
        modify fun session => { session with name := first, args := rest }
        start (Raw.ofBytes document).toList
      | .error .isADirectory => return ()
      | .error fault =>
        refuse ("cannot open " ++ first ++ ": " ++ openFault "No such file" fault)

/-- Where programs are looked for if nothing else is told. -/
def defaultPath : String :=
  "/usr/local/sbin:/usr/local/bin:/usr/sbin:/usr/bin:/sbin:/bin"

/-- The variables of a session that begins. -/
def firstVariables (machine : Machine) : Entries Variable :=
  let given : Entries Variable :=
    (machine.environment.filter fun (name, _) => isName name).foldl
      (fun bindings (name, value) =>
        bindings.put name { value := some value, isExported := true }) []
  let given := if given.has "PATH" then given else given.put "PATH" { value := some defaultPath }
  [("IFS", " 	
"), ("OPTIND", "1"), ("PPID", "4241"), ("PS1", "# "), ("PS2", "> "),
    ("PS4", "+ "), ("PWD", pathOf machine.workDir)].foldl
    (fun bindings (name, value) =>
      let known := (bindings.get? name).getD {}
      let isExported := known.isExported || name == "PWD"
      bindings.put name { known with value := some value, isExported }) given

end

/-- The shell as a program. -/
def program (launch : Launch) : Sandbox.Program := fun name args => do
  let machine ← get
  let session : Session := { machine, name, bindings := firstVariables machine }
  let body : Action Unit := do
    let outcome ← ExceptT.lift (runShell launch args).run
    match outcome with
    | .error (.killed signal) => throw (.killed signal)
    | _ => (Runner.ofLaunch launch).runEndTrap
  let (outcome, session) := body.run session
  set session.machine
  match outcome with
  | .error (.killed signal) => throw signal
  | _ => return session.status

end InfoFlow.Shell
