import InfoFlow.Sandbox.Escape
import InfoFlow.Sandbox.Mode
import InfoFlow.Sandbox.Pattern
import InfoFlow.Sandbox.Shell.Signal

namespace InfoFlow.Shell

open Sandbox

/-- Writes the arguments on a line. -/
def echo : Builtin := fun args => do
  let (isBare, args) :=
    match args with
    | "-n" :: rest => (true, rest)
    | args => (false, args)
  let text := (" ".intercalate args).toList
  let (found, isStopped) := Escape.message text.length text
  say (String.ofList (if isBare || isStopped then found else found ++ ['\n']))
  return 0

def printFormatted : Builtin := fun args => do
  match ← takePlain "" args with
  | (_, []) => refuse "usage: printf format [arg ...]"
  | (_, format :: values) =>
    let written := Written.ofFormat .plain format values
    say (String.ofList written.text)
    written.complaints.forM fun complaint =>
      complain (complaint.value ++ ": " ++
        match complaint.fault with
        | .notNumber => "expected numeric value"
        | .partly => "not completely converted"
        | .tooLarge => "Numerical result out of range")
    match written.flaw with
    | some (directive, .unknown) => refuse (directive ++ ": invalid directive")
    | some (_, .unfinished) => refuse "missing format character"
    | none => return if written.complaints.isEmpty then 0 else 1

/-- Whether a condition holds, as a status. -/
def test : Builtin := fun args => do
  match Condition.evaluate (← get).machine args with
  | .ok true => return 0
  | .ok false => return 1
  | .error message => refuse message

def bracket : Builtin := fun args => do
  if args.getLast? == some "]" then test args.dropLast
  else refuse "missing ]"

/-- The steps of a path after those of another one, as texts alone: a step up takes one away. -/
def stepsAfter (front : List String) (path : String) : List String :=
  (Path.steps path).foldl (fun steps step =>
    if step == "." then steps else if step == ".." then steps.dropLast else steps ++ [step]) front

/-- The working directory as it was reached: over links, and with two slashes in front if it was
    given so. -/
def Session.directory (session : Session) : String :=
  session.shownDirectory.getD (pathOf session.machine.workDir)

/-- The path that a directory is shown with after it was changed to by a path. -/
def shownAfter (before path : String) : String :=
  let steps := stepsAfter (if Path.isAbsolute path then [] else Path.steps before) path
  let front :=
    match path.toList, before.toList with
    | '/' :: '/' :: c :: _, _ => if c == '/' then "/" else "//"
    | ['/', '/'], _ => "//"
    | '/' :: _, _ => "/"
    | _, '/' :: '/' :: _ => "//"
    | _, _ => "/"
  front ++ "/".intercalate steps

/-- Changes the working directory to where a path leads; whether it does. A path is followed as it
    is written unless it is to be followed link by link. -/
def enter (isPhysical : Bool) (path : String) : Action Bool := do
  let session ← get
  let machine := session.machine
  let shown := shownAfter session.directory path
  match machine.tree.find machine.workDir (Raw.toText (if isPhysical then path else shown)) with
  | .ok (place, .directory _) =>
    let shown := if isPhysical then pathOf place else shown
    set { session with
      machine := { machine with workDir := place }
      shownDirectory := some shown }
    assign "OLDPWD" session.directory
    assign "PWD" shown
    modify fun session => (session.exported "OLDPWD").exported "PWD"
    return true
  | _ => return false

/-- The directories in which a path is looked for, as the variable for it says. One that begins with
    a dot or at the root is looked for nowhere else. -/
def bases (session : Session) (target : String) : List String :=
  let steps := Raw.parts (· == '/') target
  if Path.isAbsolute target || steps.head? == some "." || steps.head? == some ".." then [""]
  else
    match session.value? "CDPATH" with
    | none => [""]
    | some text => Raw.parts (· == ':') text

/-- Changes the working directory. -/
def changeDirectory : Builtin := fun args => do
  let (letters, operands) ← takePlain "LP" args
  let session ← get
  let (target, tells) :=
    match operands with
    | [] => ((session.value? "HOME").getD "", false)
    | "-" :: _ => ((session.value? "OLDPWD").getD "", true)
    | s :: _ => (s, false)
  let path := if target.isEmpty then "." else target
  let isThere (base : String) : Bool :=
    session.machine.leadsToDirectory (if base.isEmpty then path else base ++ "/" ++ path)
  let base := ((bases session path).find? isThere).getD ""
  let path := if base.isEmpty then path else base ++ "/" ++ path
  if ← enter (letters.getLast? == some 'P') path then
    if tells || !base.isEmpty then say ((← get).directory ++ "\n")
    return 0
  else refuse ("can't cd to " ++ target)

def printDirectory : Builtin := fun args => do
  let (letters, _) ← takePlain "LP" args
  let session ← get
  let isPhysical := letters.getLast? == some 'P'
  say ((if isPhysical then pathOf session.machine.workDir else session.directory) ++ "\n")
  return 0

/-- The mode after changes, of which some may be empty. -/
def changedMode (mode : Nat) (text : String) : Option Nat :=
  (Raw.parts (· == ',') text).foldlM (fun known part => do
    let change ← Mode.Change.ofText part.toList
    return (change.apply false 0 known).land 0o777) mode

/-- Shows or sets what the modes of new files lack. -/
def setMask : Builtin := fun args => do
  let (letters, operands) ← takePlain "S" args
  let mask := (← get).machine.mask
  let put (mask : Nat) : Action Nat := do
    modify fun session => { session with machine := { session.machine with mask } }
    return 0
  match operands with
  | [] =>
    let digits := Nat.toDigits 8 mask
    let padded := List.replicate (4 - digits.length) '0' ++ digits
    say ((if letters.isEmpty then String.ofList padded else Mode.words (0o777 - mask)) ++ "\n")
    return 0
  | arg :: _ =>
    let chars := arg.toList
    if chars.head?.any Char.isDigit then
      if chars.all Escape.isOctalDigit then put (Decimal.digitsValue 8 chars % 512)
      else refuse ("Illegal number: " ++ arg)
    else
      match if arg.toList.head? == some ',' then none else changedMode (0o777 - mask) arg with
      | some mode => put (0o777 - mode)
      | none => refuse ("Illegal mode: " ++ arg)

def exitShell : Builtin := fun args => do
  exitWith (← countOr (← get).status args)

def leaveFunction : Builtin := fun args => do
  setStatus (← countOr (← get).status args)
  throw .function

/-- Leaves loops, the last of which may go on. -/
def leaveLoops (goesOn : Bool) : Builtin := fun args => do
  let n ← countOr 1 args
  if n == 0 then refuse ("Illegal number: " ++ args.headD "")
  let depth := (← get).depth
  setStatus 0
  if depth == 0 then return 0 else throw (.loop (min n depth) goesOn)

def shift : Builtin := fun args => do
  let n ← countOr 1 args
  let session ← get
  if n ≤ session.args.length then
    set { session with args := session.args.drop n }
    return 0
  else refuse "can't shift that many"

/-- Turns an option on or off. -/
def setLetter (isOn : Bool) (letter : Char) : Action Unit := do
  if !(optionNames.any fun (_, known) => known == some letter) then
    refuse ("Illegal option -" ++ String.singleton letter)
  else if isOn && letter == 'm' then complain "can't access tty; job control turned off"
  else
    modify fun session =>
      let others := session.letters.filter (· != letter)
      { session with letters := if isOn then letter :: others else others }

def setNamed (isOn : Bool) (name : String) : Action Unit := do
  match optionNames.lookup name with
  | some (some letter) => setLetter isOn letter
  | some none => return
  | none => refuse ("Illegal option -o " ++ name)

/-- Shows the options, as a list or as commands that set them so. -/
def showOptions (asList : Bool) : Action Unit := do
  let session ← get
  let isOn (letter : Option Char) : Bool := letter.any session.has
  if asList then
    say "Current option settings\n"
    optionNames.forM fun (name, letter) => do
      let blanks := String.ofList (List.replicate (16 - name.length) ' ')
      say (name ++ blanks ++ (if isOn letter then "on" else "off") ++ "\n")
  else
    optionNames.forM fun (name, letter) =>
      say ("set " ++ (if isOn letter then "-" else "+") ++ "o " ++ name ++ "\n")

/-- Shows the variables. -/
def showVariables : Action Unit := do
  (← get).bindings.forM fun (name, known) => do
    if let some value := known.value then say (name ++ "=" ++ quoted value ++ "\n")

/-- Sets the options that letters stand for, and gives the arguments that are left; one letter takes
    the name of an option from them. -/
def setLetters (isOn : Bool) : List Char → List String → Action (List String)
  | [], rest => return rest
  | 'o' :: letters, [] => do
    showOptions isOn
    setLetters isOn letters []
  | 'o' :: letters, name :: rest => do
    setNamed isOn name
    setLetters isOn letters rest
  | letter :: letters, rest => do
    setLetter isOn letter
    setLetters isOn letters rest

/-- Takes options off the front of arguments, and gives what is left if anything was given that is
    no option. -/
def takeOptions : Nat → List String → Action (Option (List String))
  | 0, _ | _, [] => return none
  | fuel + 1, arg :: rest => do
    match arg.toList with
    | ['-', '-'] => return some rest
    | ['-'] =>
      modify fun session => { session with
        letters := session.letters.filter fun letter => letter != 'x' && letter != 'v' }
      return if rest.isEmpty then none else some rest
    | '-' :: letters => takeOptions fuel (← setLetters true letters rest)
    | '+' :: letters => takeOptions fuel (← setLetters false letters rest)
    | _ => return some (arg :: rest)

/-- Sets options, and the arguments if any are given. -/
def setOptions : Builtin := fun args => do
  if args.isEmpty then showVariables
  else if let some rest := ← takeOptions (args.length + 1) args then
    modify ({ · with args := rest })
  return 0

/-- The name and the value of an argument that may be an assignment. -/
def splitAssignment (arg : String) : String × Option String :=
  let chars := arg.toList
  let name := chars.takeWhile (· != '=')
  match chars.drop name.length with
  | [] => (arg, none)
  | _ :: value => (String.ofList name, some (String.ofList value))

/-- Marks variables and gives them values. -/
def markVariables (command : String) (isMarked : Variable → Bool) (mark : Variable → Variable) :
    Builtin := fun args => do
  let (letters, args) ← takePlain "p" args
  if args.isEmpty || letters.contains 'p' then
    (← get).bindings.forM fun (name, known) => do
      if isMarked known then
        say (command ++ " " ++ name ++ ((known.value.map fun s => "=" ++ quoted s).getD "") ++ "\n")
  else
    args.forM fun arg => do
      let (name, value) := splitAssignment arg
      if !isName name then refuse (name ++ ": bad variable name")
      if let some value := value then assign name value
      modify fun session => { session with
        bindings := session.bindings.put name (mark ((session.bindings.get? name).getD {})) }
  return 0

/-- Makes variables be seen by other programs. -/
def exportVariables : Builtin :=
  markVariables "export" (·.isExported) fun known => { known with isExported := true }

def protectVariables : Builtin :=
  markVariables "readonly" (·.isReadonly) fun known => { known with isReadonly := true }

/-- Keeps what a variable is for when the function around ends. -/
def keepVariable (name : String) : Action Unit :=
  modify fun session =>
    match session.locals with
    | frame :: frames =>
      if frame.any (·.1 == name) then session
      else { session with
        locals := ((name, session.bindings.get? name) :: frame) :: frames }
    | [] => session

/-- Gives a function variables of its own, or options. -/
def makeLocal : Builtin := fun args => do
  if (← get).locals.isEmpty then refuse "not in a function"
  args.forM fun arg => do
    if arg == "-" then
      modify fun session => { session with
        ownLetters :=
          match session.ownLetters with
          | none :: others => some session.letters :: others
          | known => known }
    else
      let (name, value) := splitAssignment arg
      if value.isNone && !isName name then refuse (name ++ ": bad variable name")
      keepVariable name
      if let some value := value then
        if isName name then assign name value
        else
          -- The name is found fault with at the end of the function.
          modify fun session => { session with bindings := session.bindings.put name { value } }
  return 0

/-- Takes away variables, or functions. -/
def unsetNames : Builtin := fun args => do
  let (letters, names) ← takePlain "vf" args
  names.forM fun arg => do
    if letters.getLast? == some 'f' then
      modify fun session => { session with functions := session.functions.filter (·.1 != arg) }
    else
      let (name, _) := splitAssignment arg
      if !isName name then refuse (name ++ ": bad variable name")
      forget name
  return 0

def showAlias (entry : String × String) : Action Unit :=
  say (entry.1 ++ "=" ++ quoted entry.2 ++ "\n")

/-- Lets words stand for other texts, or shows what they stand for. -/
def setAliases : Builtin := fun args => do
  if args.isEmpty then
    (inTableOrder 39 (← get).aliases).forM showAlias
    return 0
  else
    args.foldlM (fun status arg => do
      let chars := arg.toList
      let name := chars.take 1 ++ (chars.drop 1).takeWhile (· != '=')
      let known := (← get).aliases
      match chars.drop name.length with
      | _ :: value =>
        let entry := (String.ofList name, String.ofList value)
        let isKnown := known.any (·.1 == entry.1)
        modify ({ · with aliases :=
          if isKnown then known.map fun other => if other.1 == entry.1 then entry else other
          else known ++ [entry] })
        return status
      | [] =>
        match known.lookup arg with
        | some value =>
          showAlias (arg, value)
          return status
        | none =>
          onMachine (emit 2 (Raw.toBytes ("alias: " ++ arg ++ " not found\n")))
          return 1) 0

def forgetAliases : Builtin := fun args => do
  let (letters, names) ← takePlain "a" args
  if letters.contains 'a' then
    modify ({ · with aliases := [] })
    return 0
  else
    names.foldlM (fun status name => do
      let known := (← get).aliases
      if known.any (·.1 == name) then
        modify ({ · with aliases := known.filter (·.1 != name) })
        return status
      else
        onMachine (emit 2 (Raw.toBytes ("unalias: " ++ name ++ " not found\n")))
        return 1) 0

/-- Remembers the path of a command that is looked for by its name. -/
def rememberPath (name path : String) : Action Unit :=
  modify fun session =>
    if name.toList.contains '/' || session.found.any (·.1 == name) then session
    else { session with found := session.found ++ [(name, path)] }

/-- Shows, finds or forgets the paths of commands. -/
def trackCommands : Builtin := fun args => do
  let (letters, names) ← takePlain "r" args
  if letters.contains 'r' then
    modify ({ · with found := [] })
    return 0
  else if names.isEmpty then
    (inTableOrder 31 (← get).found).forM fun (_, path) => say (path ++ "\n")
    return 0
  else
    names.foldlM (fun status name => do
      match (← get).runnable name with
      | .ok (path, _) =>
        rememberPath name path
        return status
      | .error _ =>
        complain (name ++ ": not found")
        return 1) 0

/-- Waits for commands in the background, which have ended already. -/
def waitFor : Builtin := fun args => do
  let (_, targets) ← takePlain "" args
  targets.foldlM (fun _ target => do
    let session ← get
    match target.toList with
    | '%' :: rest =>
      match session.jobNumber? (String.ofList rest) with
      | some n => return (session.jobs.lookup n).getD 127
      | none =>
        if rest.isEmpty || rest == ['%'] || rest == ['+'] then refuse "No current job"
        else refuse ("No such job: " ++ target)
    | _ => return (session.jobs.lookup (← count target)).getD 127) 0

/-- Brings a job to the front or to the back. There is none that could be. -/
def moveJob : Builtin := fun args => do
  let (_, targets) ← takePlain "" args
  match targets with
  | [] => refuse "No current job"
  | target :: _ => refuse ("No such job: " ++ target)

/-- Reads a line whose characters know whether they were escaped; an escaped line end joins lines.
    Whether the line was ended is told too. -/
def readMarked (isRaw : Bool) : Nat → Action (Field × Bool)
  | 0 => return ([], false)
  | fuel + 1 => do
    let line := (Raw.ofBytes (← onMachine (readLine 0))).toList
    let isEnded := line.getLast? == some '\n'
    let text := if isEnded then line.dropLast else line
    if isRaw then return (text.map (·, false), isEnded)
    else
      let (field, isOpen) := marks text
      if isOpen && isEnded then
        let (more, isEnded) ← readMarked isRaw fuel
        return (field ++ more, isEnded)
      else return (field, isEnded)
where
  marks : List Char → Field × Bool
    | [] => ([], false)
    | ['\\'] => ([], true)
    | '\\' :: c :: rest =>
      let (field, isOpen) := marks rest
      ((c, true) :: field, isOpen)
    | c :: rest =>
      let (field, isOpen) := marks rest
      ((c, false) :: field, isOpen)

/-- Gives each variable a part of a line, and the last one all that is left. -/
def assignParts (separators : List Char) : List String → Field → Action Unit
  | [], _ => return ()
  | name :: names, field => do
    let isSeparator (mark : Char × Bool) : Bool := !mark.2 && separators.contains mark.1
    let isBlank (mark : Char × Bool) : Bool :=
      isSeparator mark && (mark.1 == ' ' || mark.1 == '\t' || mark.1 == '\n')
    let field := field.dropWhile isBlank
    if names.isEmpty then
      let trimmed := (field.reverse.dropWhile isBlank).reverse
      let inner := trimmed.takeWhile (!isSeparator ·)
      let ending := trimmed.drop inner.length
      let isOnlyEnd := (ending.filter (!isBlank ·)).length == 1 && !ending.isEmpty &&
        ending.all isSeparator
      assign name (Field.text (if isOnlyEnd then inner else trimmed))
    else
      let taken := field.takeWhile (!isSeparator ·)
      let rest := (field.drop taken.length).dropWhile isBlank
      let rest :=
        match rest with
        | mark :: more =>
          if isSeparator mark && (field.drop taken.length).head?.isSome then more else rest
        | [] => []
      assign name (Field.text taken)
      assignParts separators names rest

/-- Reads a line into variables. -/
def readVariables : Builtin := fun args => do
  let (letters, names) ← takeLetters [('p', true), ('r', false)] args
  if names.isEmpty then refuse "arg count"
  let (field, isEnded) ← readMarked (letters.any (·.1 == 'r')) 10000
  assignParts (← get).separators names field
  return if isEnded then 0 else 1

/-- Takes the next option of the arguments. -/
def nextOption : Builtin := fun args => do
  match args with
  | [] | [_] => refuse "Usage: getopts optstring var [arg...]"
  | letters :: name :: given =>
    let session ← get
    let args := if given.isEmpty then session.args else given
    let index := ((session.value? "OPTIND").bind String.toNat?).getD 1
    let taken := session.optionLetters
    let arg := (args[index - 1]?).getD ""
    let isSilent := letters.toList.head? == some ':'
    let finish (index : Nat) (value : String) (status : Nat) : Action Nat := do
      assign "OPTIND" (toString index)
      assign name value
      return status
    match arg.toList with
    | '-' :: c :: more =>
      let chars := c :: more
      if arg == "--" then finish (index + 1) "?" 1
      else
        let letter := (chars[taken]?).getD '?'
        let rest := chars.drop (taken + 1)
        let known := letters.toList.dropWhile (· != letter)
        let goOn (value : String) : Action Nat := do
          if rest.isEmpty then finish (index + 1) value 0
          else
            assign name value
            modify ({ · with optionLetters := taken + 1 })
            return 0
        if known.isEmpty || letter == ':' then
          if isSilent then assign "OPTARG" (String.singleton letter)
          else
            onMachine (emit 2 (Raw.toBytes
              ("Illegal option -" ++ String.singleton letter ++ "\n")))
            forget "OPTARG"
          goOn "?"
        else if known[1]? == some ':' then
          if !rest.isEmpty then
            assign "OPTARG" (String.ofList rest)
            finish (index + 1) (String.singleton letter) 0
          else
            match args[index]? with
            | some value =>
              assign "OPTARG" value
              finish (index + 2) (String.singleton letter) 0
            | none =>
              if isSilent then
                assign "OPTARG" (String.singleton letter)
                finish (index + 1) ":" 0
              else
                onMachine (emit 2 (Raw.toBytes
                  ("No arg for -" ++ String.singleton letter ++ " option\n")))
                forget "OPTARG"
                finish (index + 1) "?" 0
        else
          assign "OPTARG" ""
          goOn (String.singleton letter)
    | _ => finish index "?" 1

/-- The commands whose mistakes end a script, and that run no others. -/
def specials : List (String × Builtin) := [
  (":", fun _ => return 0),
  ("exit", exitShell),
  ("return", leaveFunction),
  ("break", leaveLoops false),
  ("continue", leaveLoops true),
  ("shift", shift),
  ("set", setOptions),
  ("export", exportVariables),
  ("readonly", protectVariables),
  ("unset", unsetNames),
  ("local", makeLocal),
  ("trap", setTrap),
  ("times", fun _ => do
    say "0m0.00s 0m0.00s\n0m0.00s 0m0.00s\n"
    return 0)]

/-- The other commands that run no others. -/
def ordinary : List (String × Builtin) := [
  ("echo", echo),
  ("printf", printFormatted),
  ("test", test),
  ("[", bracket),
  ("true", fun _ => return 0),
  ("false", fun _ => return 1),
  ("cd", changeDirectory),
  ("chdir", changeDirectory),
  ("pwd", printDirectory),
  ("read", readVariables),
  ("getopts", nextOption),
  ("umask", setMask),
  ("wait", waitFor),
  ("hash", trackCommands),
  ("jobs", fun args => do
    let _ ← takePlain "lp" args
    return 0),
  ("fg", moveJob),
  ("bg", moveJob),
  ("ulimit", fun _ => do
    say "unlimited\n"
    return 0),
  ("alias", setAliases),
  ("unalias", forgetAliases)]

end InfoFlow.Shell
