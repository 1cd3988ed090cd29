import InfoFlow.Sandbox.Utility.EachWord
import InfoFlow.Sandbox.Utility.Words

namespace InfoFlow.Sandbox

/-- Ends as another program does, or tells why it cannot be started. -/
def becoming (launch : Launch) (words : List String) : Run (Except IoFault Nat) := do
  match ← launch words with
  | .error fault => return .error fault
  | .ok (.code n) => return .ok n
  | .ok (.signal n) => throw n

/-- The status that tells that a program could not be started. -/
def startStatus (fault : IoFault) : Nat :=
  if fault == .notFound || fault == .notADirectory then 127 else 126

/-- Ends as another program does. If it cannot be started, that is reported. -/
def becomeOr (launch : Launch) (words : List String) (message : String → String)
    (name : String) : Run Nat := do
  match ← becoming launch words with
  | .ok status => return status
  | .error fault =>
    report name (message (words.headD "") ++ ": " ++ faultText fault)
    return startStatus fault

/-- The name and the value of an assignment. -/
def assignmentOf? (arg : String) : Option (String × String) :=
  let chars := arg.toList
  if chars.contains '=' then
    some (String.ofList (chars.takeWhile (· != '=')),
      String.ofList ((chars.dropWhile (· != '=')).drop 1))
  else none

/-- Words that stand in quotes or between blanks. A backslash escapes a character. -/
def quotedWords : Nat → Option Char → Option (List Char) → List Char → Option (List String)
  | 0, _, _, _ => some []
  | _, none, held, [] => some (held.toList.map fun chars => String.ofList chars.reverse)
  | _, some _, _, [] => none
  | fuel + 1, quote, held, c :: rest =>
    let add (c : Char) (rest : List Char) : Option (List String) :=
      quotedWords fuel quote (some (c :: held.getD [])) rest
    if quote == some c then quotedWords fuel none (some (held.getD [])) rest
    else if quote.isSome then
      match c, rest with
      | '\\', d :: rest =>
        if quote == some '"' && (d == '"' || d == '\\' || d == '$') then add d rest
        else quotedWords fuel quote (some (d :: '\\' :: held.getD [])) rest
      | c, rest => add c rest
    else if c == '\'' || c == '"' then quotedWords fuel (some c) (some (held.getD [])) rest
    else if c == '\\' then
      match rest with
      | d :: rest => add d rest
      | [] => some (held.toList.map fun chars => String.ofList chars.reverse)
    else if Decimal.isSpace c then
      (quotedWords fuel none none rest).map fun words =>
        held.toList.map (fun chars => String.ofList chars.reverse) ++ words
    else add c rest

def changeEnvironment (launch : Launch) : Program :=
  Usage.program {
    switches := [⟨'i', ["ignore-environment"], .never⟩, ⟨'u', ["unset"], .always⟩,
      ⟨'0', ["null"], .never⟩, ⟨'C', ["chdir"], .always⟩, ⟨'S', ["split-string"], .always⟩,
      ⟨'v', ["debug"], .never⟩]
    failure := 125, mixed := false } fun name options => do
    let split := (options.value? 'S').bind fun s => quotedWords (s.length + 1) none none s.toList
    let operands := split.getD [] ++ options.operands
    let isBare := options.has 'i' || operands.head? == some "-"
    let operands := if operands.head? == some "-" then operands.drop 1 else operands
    let badNames := (options.values 'u').filter fun s => s.isEmpty || s.toList.contains '='
    match badNames, options.value? 'C' with
    | s :: _, _ =>
      report name ("cannot unset " ++ quotedName s ++ ": Invalid argument")
      return 125
    | [], directory =>
      let assignments := (operands.map assignmentOf?).takeWhile (·.isSome)
      let words := operands.drop assignments.length
      modify fun machine =>
        let known : Environment := if isBare then [] else
          (options.values 'u').foldl (fun entries name => entries.filter (·.1 != name))
            machine.environment
        let environment := (assignments.filterMap id).foldl
          (fun (known : Environment) (name, value) => known.put name value) known
        { machine with environment }
      let fault : Option (String × IoFault) ←
        match directory with
        | none => pure none
        | some path =>
          match ← nodeAt path with
          | .ok (place, .directory _) =>
            modify fun machine => { machine with workDir := place }
            pure none
          | .ok _ => pure (some (path, IoFault.notADirectory))
          | .error fault => pure (some (path, fault))
      match fault, words with
      | some (path, fault), _ =>
        report name ("cannot change directory to " ++ quotedName path ++ ": " ++ faultText fault)
        return 125
      | none, [] =>
        let ending := if options.has '0' then "\x00" else "\n"
        say (String.join ((← get).environment.map fun (name, value) =>
          name ++ "=" ++ value ++ ending))
        return 0
      | none, words =>
        let status ← becomeOr launch words quotedName name
        if status == 127 && (words.headD "").toList.contains ' ' then
          report name "use -[v]S to pass options in shebang lines"
        return status

/-- The arguments with a number after a hyphen told from switches. -/
def withAdjustment (args : List String) : List String :=
  match args with
  | arg :: rest =>
    match arg.toList with
    | '-' :: c :: more =>
      let digits := if c == '-' || c == '+' then more else c :: more
      if !digits.isEmpty && digits.all Char.isDigit then
        "-n" :: String.ofList (c :: more) :: rest
      else args
    | _ => args
  | [] => []

def startNicely (launch : Launch) : Program := fun name args =>
  let usage : Usage :=
    { switches := [⟨'n', ["adjustment"], .always⟩], failure := 125, mixed := false }
  usage.program (fun name options => do
    match (options.value? 'n').filter (·.toInt?.isNone), options.operands with
    | some s, _ =>
      if s.toList.head? == some '+' && (s.drop 1).isNat then
        becomeOr launch options.operands quotedName name
      else
        report name ("invalid adjustment " ++ quotedName s)
        return 125
    | none, [] =>
      if (options.value? 'n').isSome then
        misused name "a command must be given with an adjustment"
        return 125
      else
        say "0\n"
        return 0
    | none, words => becomeOr launch words quotedName name) name (withAdjustment args)

def startLasting (launch : Launch) : Program :=
  Usage.program { failure := 125, mixed := false } fun name options => do
    if options.operands.isEmpty then
      misused name "missing operand"
      return 125
    else
      becomeOr launch options.operands ("failed to run command " ++ quotedName ·) name

/-- Starts a program that has all the time that it needs. -/
def startLimited (launch : Launch) : Program :=
  Usage.program {
    switches := [⟨'s', ["signal"], .always⟩, ⟨'k', ["kill-after"], .always⟩,
      ⟨'v', ["verbose"], .never⟩, ⟨'f', ["foreground"], .never⟩,
      ⟨'p', ["preserve-status"], .never⟩]
    failure := 125, mixed := false } fun name options => do
    match options.operands with
    | [] | [_] =>
      emit 2 (Raw.toBytes ("Try '" ++ name ++ " --help' for more information.\n"))
      return 125
    | interval :: words =>
      if !isInterval interval then
        misused name ("invalid time interval " ++ quotedName interval)
        return 125
      else becomeOr launch words ("failed to run command " ++ quotedName ·) name

def startApart (launch : Launch) : Program :=
  Usage.program { switches := letters "cfw", mixed := false } fun name options => do
    if options.operands.isEmpty then lacking name "no command specified"
    else becomeOr launch options.operands ("failed to execute " ++ ·) name

def startBuffered (launch : Launch) : Program :=
  Usage.program {
    switches := [⟨'i', ["input"], .always⟩, ⟨'o', ["output"], .always⟩,
      ⟨'e', ["error"], .always⟩], failure := 125, mixed := false } fun name options => do
    if options.operands.isEmpty then
      misused name "missing operand"
      return 125
    else if options.switches.isEmpty then
      misused name "you must specify a buffering mode option"
      return 125
    else becomeOr launch options.operands ("failed to run command " ++ quotedName ·) name

/-- Tells where programs are. -/
def locatePrograms : Program :=
  Usage.program { switches := letters "as", mixed := false } fun _ options => do
    let machine ← get
    let isGood ← forOperands options.operands fun program => do
      match machine.runnable program with
      | .ok (path, _) =>
        if !options.has 's' then say (path ++ "\n")
        return true
      | .error _ => return false
    return statusOf (isGood && !options.operands.isEmpty)

/-- The utilities of this module. -/
def startingUtilities : List (String × (Launch → Program)) := [
  ("env", changeEnvironment),
  ("nice", startNicely),
  ("nohup", startLasting),
  ("timeout", startLimited),
  ("setsid", startApart),
  ("stdbuf", startBuffered),
  ("xargs", startForWords),
  ("which", fun _ => locatePrograms)]

end InfoFlow.Sandbox
