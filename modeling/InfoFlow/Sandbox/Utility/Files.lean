import InfoFlow.Sandbox.Mode
import InfoFlow.Sandbox.Utility.Reading

namespace InfoFlow.Sandbox

/-- A path without the slashes at its end, of which the root keeps one. -/
def withoutEnd (path : String) : String :=
  let chars := (path.toList.reverse.dropWhile (· == '/')).reverse
  if chars.isEmpty && !path.isEmpty then "/" else String.ofList chars

/-- The last step of a path. -/
def lastStep (path : String) : String :=
  let chars := (withoutEnd path).toList
  if chars.all (· == '/') then String.ofList chars
  else String.ofList (chars.reverse.takeWhile (· != '/')).reverse

/-- What stands in front of the last step of a path. -/
def frontSteps (path : String) : String :=
  let front := ((withoutEnd path).toList.reverse.dropWhile (· != '/')).reverse
  if (withoutEnd path).toList.all (· == '/') && !path.isEmpty then "/"
  else if front.isEmpty then "."
  else withoutEnd (String.ofList front)

/-- A step below a path. -/
def stepBelow (path step : String) : String :=
  if path.toList.getLast? == some '/' then path ++ step else path ++ "/" ++ step

/-- Does something for each operand, and tells whether all went well. -/
def forOperands (operands : List String) (body : String → Run Bool) : Run Bool :=
  operands.foldlM (fun isGood operand => return (← body operand) && isGood) true

/-- Reports a fault, and tells that something went wrong. -/
def fails (name message : String) : Run Bool := do
  report name message
  return false

/-- Reports that a utility lacks an operand. -/
def lacking (name message : String) : Run Nat := do
  misused name message
  return 1

/-- Asks a question, and tells whether the next line of the input agrees. -/
def asks (name question : String) : Run Bool := do
  emit 2 (Raw.toBytes (name ++ ": " ++ question ++ "? "))
  let answer ← readLine 0
  return (Raw.ofBytes answer).toList.head?.any fun c => c == 'y' || c == 'Y'

/-- The last of some switches that is given. -/
def lastOf? (options : Options) (letters : List Char) : Option Char :=
  (options.switches.reverse.find? fun (c, _) => letters.contains c).map (·.1)

/-- What is told of a value that is none of those that there are. -/
def invalidChoice (value what : String) (choices : List String) : String :=
  "invalid argument " ++ quotedWord value ++ " for " ++ quotedWord what ++
    "\nValid arguments are:" ++ String.join (choices.map ("\n  - " ++ ·))

/-- The mode that a text gives to a node. -/
def nodeMode? (mask : Nat) (text : String) : Node → Option Nat
  | .file _ mode => Mode.ofText? false mask mode text
  | .directory mode => Mode.ofText? true mask mode text
  | _ => Mode.ofText? false mask Node.directoryMode text

/-- Gives a mode to what is at a place. -/
def setMode (place : Location) (mode : Nat) : Run Unit :=
  modify fun machine =>
    match machine.tree.node? place with
    | some (.file document _) => { machine with tree := machine.tree.put place (.file document mode) }
    | some (.directory _) => { machine with tree := machine.tree.put place (.directory mode) }
    | _ => machine

/-- The mode of a node. -/
def modeOf : Node → Nat
  | .file _ mode | .directory mode => mode
  | .sink => 0o666
  | .program _ => 0o755
  | .link _ => 0o777

/-- A mode as it is shown when it changes. -/
def shownMode (mode : Nat) : String :=
  let digits := Mode.octal mode
  String.ofList (List.replicate (4 - digits.length) '0') ++ digits ++ " (" ++ Mode.letters mode ++ ")"

/-- Changes the mode of what is at a place and says so if that is asked for. -/
def changeMode (options : Options) (text path : String) (place : Location) : Run Unit := do
  let machine ← get
  if let some node := machine.tree.node? place then
    let before := modeOf node
    let after := (nodeMode? machine.mask text node).getD before
    setMode place after
    if before != after && (options.has 'v' || options.has 'c') then
      say ("mode of " ++ quotedName path ++ " changed from " ++ shownMode before ++ " to " ++
        shownMode after ++ "\n")
    else if before == after && options.has 'v' then
      say ("mode of " ++ quotedName path ++ " retained as " ++ shownMode before ++ "\n")

def changeModes : Program := fun name args => do
  let usage : Usage := {
    switches := [⟨'R', ["recursive"], .never⟩, ⟨'v', ["verbose"], .never⟩,
      ⟨'c', ["changes"], .never⟩, ⟨'f', ["silent", "quiet"], .never⟩,
      ⟨'F', ["reference"], .always⟩] ++ explanations }
  -- A mode that takes something away begins like a switch.
  let isMode (arg : String) : Bool :=
    match arg.toList with
    | '-' :: c :: rest => (c :: rest).all "rwxXstugo,=+".toList.contains
    | _ => false
  let (modes, args) := (args.partition isMode)
  match Options.readFrom usage.switches true args with
  | .error message =>
    misused name message
    return 1
  | .ok options =>
    let reference ← (options.value? 'F').mapM nodeAt
    let words :=
      match reference with
      | some (.ok (_, node)) => Mode.octal (modeOf node) :: options.operands
      | _ => modes ++ options.operands
    match words with
    | [] => lacking name "missing operand"
    | [mode] => lacking name ("missing operand after " ++ quotedName mode)
    | mode :: operands =>
      if (Mode.ofText? false 0 0 mode).isNone then
        lacking name ("invalid mode: " ++ quotedName mode)
      else
        let isGood ← forOperands operands fun path => do
          match ← nodeAt path with
          | .error fault =>
            if options.has 'f' then return false
            else fails name ("cannot access " ++ quotedName path ++ ": " ++ faultText fault)
          | .ok (place, _) =>
            let machine ← get
            let inner := if options.has 'R' then machine.tree.below place else []
            changeMode options mode path place
            inner.forM fun (steps, _) =>
              changeMode options mode (stepBelow path (Raw.ofText ("/".intercalate steps)))
                (place ++ steps)
            return true
        return statusOf isGood

/-- Makes a directory, and says so if that is asked for. -/
def makeDirectory (name path : String) (tells : Bool) : Run Bool := do
  match ← changeTree fun tree workDir => tree.makeDir workDir (Raw.toText path) with
  | none =>
    if let .ok (place, _) := ← nodeAt path then setMode place ((← get).modeFor 0o777)
    let doing := if name == "install" then ": creating directory " else ": created directory "
    if tells then say (name ++ doing ++ quotedName path ++ "\n")
    return true
  | some fault =>
    fails name ("cannot create directory " ++ quotedName path ++ ": " ++ faultText fault)

/-- The paths of the directories on the way to a path, and of the path itself. -/
def stepwisePaths (path : String) : List String :=
  let chars := path.toList
  let root := String.ofList (chars.takeWhile (· == '/'))
  let steps := (Raw.parts (· == '/') path).filter (!·.isEmpty)
  (steps.foldl (fun (paths, front) step =>
    let next := front ++ step
    (next :: paths, next ++ "/")) (([] : List String), root)).1.reverse

/-- Makes a directory and all that lead to it and are not there. -/
def makeDirectories (name path : String) (tells : Bool) : Run Bool := do
  let paths := stepwisePaths path
  if path.isEmpty then makeDirectory name path tells
  else
    let count := paths.length
    (paths.mapIdx fun n path => (n + 1 == count, path)).foldlM (fun isGood (isLast, path) => do
      if !isGood then return false
      match ← nodeAt path with
      | .ok (_, .directory _) => return true
      | .ok _ =>
        let fault : IoFault := if isLast then .alreadyExists else .notADirectory
        fails name ("cannot create directory " ++ quotedName path ++ ": " ++ faultText fault)
      | .error _ => makeDirectory name path tells) true

def makeDirectoriesProgram : Program :=
  Usage.program {
    switches := [⟨'p', ["parents"], .never⟩, ⟨'m', ["mode"], .always⟩,
      ⟨'v', ["verbose"], .never⟩, ⟨'Z', [], .never⟩] } fun name options => do
    let badMode := (options.value? 'm').filter fun mode => (Mode.ofText? true 0 0 mode).isNone
    match options.operands, badMode with
    | [], _ => lacking name "missing operand"
    | _, some mode =>
      report name ("invalid mode " ++ quotedName mode)
      return 1
    | operands, none =>
      let make := if options.has 'p' then makeDirectories else makeDirectory
      return statusOf (← forOperands operands fun path => do
        let isNew := (← nodeAt path).toOption.isNone
        let isGood ← make name path (options.has 'v')
        match options.value? 'm', ← nodeAt path with
        | some mode, .ok (place, .directory _) =>
          if isNew then setMode place ((Mode.ofText? true 0 0o777 mode).getD Node.directoryMode)
        | _, _ => pure ()
        return isGood)

/-- Makes files that are not there, empty. -/
def touchFiles : Program :=
  Usage.program {
    switches := [⟨'a', [], .never⟩, ⟨'c', ["no-create"], .never⟩, ⟨'m', [], .never⟩,
      ⟨'h', ["no-dereference"], .never⟩, ⟨'d', ["date"], .always⟩,
      ⟨'r', ["reference"], .always⟩, ⟨'t', [], .always⟩, ⟨'T', ["time"], .always⟩,
      ⟨'f', [], .never⟩] } fun name options => do
    if options.operands.isEmpty then lacking name "missing file operand"
    else
      return statusOf (← forOperands options.operands fun path => do
        match ← nodeAt path with
        | .ok _ => return true
        | .error known =>
          if options.has 'c' || path == "-" then return true
          match (← get).openForOutput 3 .kept path with
          | .ok machine =>
            set (machine.detach 3)
            return true
          | .error .isADirectory =>
            let fault := if known == .notADirectory then known else .notFound
            fails name ("setting times of " ++ quotedName path ++ ": " ++ faultText fault)
          | .error fault =>
            fails name ("cannot touch " ++ quotedName path ++ ": " ++ faultText fault))

/-- Takes away what is at a place. -/
def removePlace (place : Location) : Run Unit :=
  modify fun machine => { machine with tree := machine.tree.remove place }

/-- What is removed with a place, the inner things first, each with its path. -/
def removalOrder (tree : Tree) : Nat → Location → String → List (String × Bool)
  | 0, _, _ => []
  | fuel + 1, place, path =>
    match tree.node? place with
    | some (.directory _) =>
      (tree.names place).flatMap (fun step =>
        removalOrder tree fuel (place ++ [step]) (stepBelow path (Raw.ofText step))) ++
          [(path, true)]
    | _ => [(path, false)]

/-- When something is removed only if the answer to a question agrees. -/
inductive Asking where
  | never
  /-- Once, where much is removed. -/
  | once
  | always
deriving DecidableEq

/-- When questions are asked. Of the switches for this the last one counts. -/
def askingOf (options : Options) : Except String Asking :=
  options.switches.foldlM (fun asking (c, value) =>
    match c, value with
    | 'f', _ => .ok .never
    | 'I', _ => .ok .once
    | 'i', _ => .ok .always
    | '\x03', "never" | '\x03', "no" | '\x03', "none" => .ok .never
    | '\x03', "once" => .ok .once
    | '\x03', "always" | '\x03', "yes" | '\x03', "" => .ok .always
    | '\x03', value => .error (invalidChoice value "--interactive"
        ["'never', 'no', 'none'", "'once'", "'always', 'yes'"])
    | _, _ => .ok asking) .never

/-- Removes what is at a place as far as the answers to questions agree, and tells whether it is
    gone. -/
def removeAsking (name : String) (tells : Bool) : Nat → Location → String → Run Bool
  | 0, _, _ => return false
  | fuel + 1, place, path => do
    let tree := (← get).tree
    let remove (what : String) : Run Bool := do
      if tells then say ("removed " ++ what ++ quotedName path ++ "\n")
      removePlace place
      return true
    match tree.node? place with
    | some (.directory _) =>
      let names := tree.names place
      let isEntered ←
        if names.isEmpty then pure true
        else asks name ("descend into directory " ++ quotedName path)
      if !isEntered then return false
      let isEmptied ← names.foldlM (fun isEmptied step => do
        let isGone ← removeAsking name tells fuel (place ++ [step])
          (stepBelow path (Raw.ofText step))
        return isGone && isEmptied) true
      if !isEmptied then return false
      if ← asks name ("remove directory " ++ quotedName path) then remove "directory "
      else return false
    | some node =>
      let kind :=
        match node with
        | .link _ => "symbolic link "
        | .file document _ => if document.isEmpty then "regular empty file " else "regular file "
        | .sink => "character special file "
        | _ => "regular file "
      if ← asks name ("remove " ++ kind ++ quotedName path) then remove "" else return false
    | none => return false

/-- Removes an operand. -/
def removeOperand (name : String) (options : Options) (asking : Asking) (path : String) :
    Run Bool := do
  let isDeep := options.has 'r' || options.has 'R'
  let tells := options.has 'v'
  let refuse (fault : IoFault) : Run Bool :=
    fails name ("cannot remove " ++ quotedName path ++ ": " ++ faultText fault)
  let last := lastStep path
  match ← linkAt path with
  | .error fault =>
    let isMissing := fault == .notFound || fault == .notADirectory
    if options.has 'f' && isMissing then return true else refuse fault
  | .ok (place, node) =>
    if isDeep && (last == "." || last == "..") then
      fails name ("refusing to remove '.' or '..' directory: skipping " ++ quotedName path)
    else if isDeep && place.isEmpty then
      let _ ← fails name ("it is dangerous to operate recursively on " ++ quotedName path)
      fails name "use --no-preserve-root to override this failsafe"
    else
      let tree := (← get).tree
      let isDirectory := match node with | .directory _ => true | _ => false
      let isBehindLink := path.toList.getLast? == some '/' &&
        (match ← linkAt (withoutEnd path) with | .ok (_, .link _) => true | _ => false)
      if isDirectory && !isDeep && !options.has 'd' then refuse .isADirectory
      else if isDirectory && isBehindLink then refuse .notADirectory
      else if isDirectory && !isDeep && !(tree.names place).isEmpty then refuse .notEmpty
      else if asking == .always then
        let _ ← removeAsking name tells Path.maxLength place (withoutEnd path)
        return true
      else
        let order := if isDirectory then removalOrder tree Path.maxLength place (withoutEnd path)
          else [(path, false)]
        if tells then
          order.forM fun (path, isDirectory) =>
            say ("removed " ++ (if isDirectory then "directory " else "") ++ quotedName path ++
              "\n")
        removePlace place
        return true

def removeFiles : Program :=
  Usage.program {
    switches := [⟨'r', ["recursive"], .never⟩, ⟨'R', [], .never⟩, ⟨'f', ["force"], .never⟩,
      ⟨'i', [], .never⟩, ⟨'I', [], .never⟩, ⟨'\x03', ["interactive"], .maybe⟩,
      ⟨'d', ["dir"], .never⟩,
      ⟨'v', ["verbose"], .never⟩, ⟨'N', ["no-preserve-root"], .never⟩,
      ⟨'P', ["preserve-root"], .maybe⟩, ⟨'O', ["one-file-system"], .never⟩] }
    fun name options => do
    match askingOf options with
    | .error message => lacking name message
    | .ok asking =>
      if options.operands.isEmpty && !options.has 'f' then lacking name "missing operand"
      else
        let isDeep := options.has 'r' || options.has 'R'
        let count := options.operands.length
        let question := "remove " ++ toString count ++
          (if count == 1 then " argument" else " arguments") ++
          (if isDeep then " recursively" else "")
        let asksFirst := asking == .once && (isDeep || 3 < count)
        let agrees ← if asksFirst then asks name question else pure true
        if agrees then
          return statusOf (← forOperands options.operands (removeOperand name options asking))
        else return 0

def unlinkFile : Program :=
  Usage.program {} fun name options => do
    match options.operands with
    | [] => lacking name "missing operand"
    | _ :: extra :: _ => lacking name ("extra operand " ++ quotedName extra)
    | [path] =>
      let refuse (fault : IoFault) : Run Nat := do
        report name ("cannot unlink " ++ quotedName path ++ ": " ++ faultText fault)
        return 1
      match ← linkAt path with
      | .error fault => refuse fault
      | .ok (_, .directory _) => refuse .isADirectory
      | .ok (place, _) =>
        removePlace place
        return 0

/-- Removes an empty directory, and if that is asked for the directories that then are empty. -/
def removeEmpty (name : String) (options : Options) : Nat → String → Run Bool
  | 0, _ => return true
  | fuel + 1, path => do
    if options.has 'v' then say (name ++ ": removing directory, " ++ quotedName path ++ "\n")
    let refuse (fault : IoFault) : Run Bool :=
      fails name ("failed to remove " ++ quotedName path ++ ": " ++ faultText fault)
    match ← linkAt path with
    | .error fault => refuse fault
    | .ok (place, .directory _) =>
      if lastStep path == "." then
        fails name ("failed to remove " ++ quotedName path ++ ": Invalid argument")
      else if !((← get).tree.names place).isEmpty then
        if options.has 'i' then return true else refuse .notEmpty
      else
        removePlace place
        if options.has 'p' && frontSteps path != "." && frontSteps path != "/" then
          removeEmpty name options fuel (frontSteps path)
        else return true
    | .ok _ => refuse .notADirectory

def removeDirectories : Program :=
  Usage.program {
    switches := [⟨'p', ["parents"], .never⟩, ⟨'v', ["verbose"], .never⟩,
      ⟨'i', ["ignore-fail-on-non-empty"], .never⟩] } fun name options => do
    if options.operands.isEmpty then lacking name "missing operand"
    else
      return statusOf (← forOperands options.operands
        (removeEmpty name options Path.maxLength))

/-- Makes a link at a path. -/
def makeLink (name target path : String) : Run Bool := do
  let machine ← get
  match machine.tree.findParent machine.workDir (Raw.toText path) with
  | .ok (place, some step) =>
    match machine.tree.node? (place ++ [step]) with
    | some _ =>
      fails name ("failed to create symbolic link " ++ quotedName path ++ ": File exists")
    | none =>
      set { machine with tree := machine.tree.put (place ++ [step]) (.link (Raw.toText target)) }
      return true
  | .ok (_, none) =>
    fails name ("failed to create symbolic link " ++ quotedName path ++ ": File exists")
  | .error fault =>
    fails name ("failed to create symbolic link " ++ quotedName path ++ ": " ++ faultText fault)

/-- Copies what is at a place to a path. A directory is copied with all that is in it; one that is
    already there keeps what is in it. The place that a directory must not be copied into is the
    one at which copying began. What is done is told if there is a text to tell behind it. -/
def copyPlace (name : String) (tells : Option String) (isExact : Bool) (top : Location) :
    Nat → Location → String → String → Run Bool
  | 0, _, _, _ => return true
  | fuel + 1, place, source, target => do
    let found ← nodeAt target
    let children (names : List String) : Run Bool :=
      names.foldlM (fun isGood step => do
        let inner := place ++ [step]
        if inner == top then return isGood
        let raw := Raw.ofText step
        return (← copyPlace name (tells.map fun _ => "") isExact top fuel inner
          (stepBelow source raw) (stepBelow target raw)) && isGood) true
    let names := (← get).tree.names place
    let announce : Run Unit :=
      match tells with
      | some note => say (quotedName source ++ " -> " ++ quotedName target ++ note ++ "\n")
      | none => pure ()
    match (← get).tree.node? place, found with
    | none, _ => return true
    | some (.link reached), .error _ =>
      announce
      makeLink name reached target
    | some (.directory _), .ok (_, .directory _) => children names
    | some (.directory _), .ok _ =>
      fails name ("cannot overwrite non-directory " ++ quotedName target ++ " with directory " ++
        quotedName source)
    | some (.directory mode), .error _ =>
      match ← changeTree fun tree workDir => tree.makeDir workDir (Raw.toText target) with
      | some fault =>
        fails name ("cannot create directory " ++ quotedName target ++ ": " ++ faultText fault)
      | none =>
        announce
        let machine ← get
        if let .ok (other, _) := ← nodeAt target then
          setMode other (if isExact then mode else machine.modeFor mode)
        children names
    | some _, .ok (_, .directory _) =>
      fails name ("cannot overwrite directory " ++ quotedName target ++ " with non-directory")
    | some node, .ok (other, known) =>
      if other == place then
        fails name (quotedName source ++ " and " ++ quotedName target ++ " are the same file")
      else
        match node, known with
        | .file document mode, .file _ formerMode =>
          announce
          let copy := Node.file document (if isExact then mode else formerMode)
          modify fun machine => { machine with tree := machine.tree.put other copy }
          return true
        | _, .file _ formerMode =>
          announce
          modify fun machine =>
            { machine with tree := machine.tree.put other (.file .empty formerMode) }
          return true
        | _, _ =>
          announce
          return true
    | some node, .error _ =>
      match (← get).tree.placeToWrite (← get).workDir (Raw.toText target) with
      | .error fault =>
        let fault : IoFault := if fault == .isADirectory then .notADirectory else fault
        fails name ("cannot create regular file " ++ quotedName target ++ ": " ++ faultText fault)
      | .ok other =>
        announce
        let machine ← get
        let copy : Node :=
          match node with
          | .sink => .file .empty (machine.modeFor 0o666)
          | .file document mode => .file document (if isExact then mode else machine.modeFor mode)
          | node => node
        modify fun machine => { machine with tree := machine.tree.put other copy }
        return true

/-- Where operands are to go: into a directory, or to a path of their own. -/
inductive Target where
  | into (directory : String)
  | exactly (path : String)

/-- The path that an operand goes to. -/
def Target.pathFor (target : Target) (source : String) : String :=
  match target with
  | .into directory => stepBelow directory (lastStep source)
  | .exactly path => path

/-- The operands that are to go somewhere, and where. -/
def sourcesOf (name : String) (options : Options) :
    Run (Except Nat (List String × Target)) := do
  let refuse (message : String) : Run (Except Nat (List String × Target)) :=
    return .error (← lacking name message)
  let missing (path : String) (fault : IoFault) : Run (Except Nat (List String × Target)) := do
    report name ("target " ++ quotedName path ++ ": " ++ faultText fault)
    return .error 1
  match options.value? 't', options.operands with
  | _, [] => refuse "missing file operand"
  | some directory, sources =>
    match ← nodeAt directory with
    | .ok (_, .directory _) => return .ok (sources, .into directory)
    | .ok _ => missing directory .notADirectory
    | .error fault => missing directory fault
  | none, [source] =>
    refuse ("missing destination file operand after " ++ quotedName source)
  | none, operands =>
    let sources := operands.dropLast
    let last := operands.getLast?.getD ""
    if options.has 'T' then
      match operands with
      | [_, _] => return .ok (sources, .exactly last)
      | _ => refuse ("extra operand " ++ quotedName ((operands[2]?).getD ""))
    else
      match ← nodeAt last, sources with
      | .ok (_, .directory _), _ => return .ok (sources, .into last)
      | _, [_] => return .ok (sources, .exactly last)
      | .ok _, _ => missing last .notADirectory
      | .error fault, _ => missing last fault

/-- Whether what is at a target stays as it is: because nothing is to be replaced, or because the
    answer to a question does not agree. Whether this is well is told too. -/
def isKept (name : String) (options : Options) (target : String) : Run (Option Bool) := do
  if (← nodeAt target).toOption.isNone then return none
  else if lastOf? options ['i', 'n', 'f'] == some 'i' then
    if ← asks name ("overwrite " ++ quotedName target) then return none else return some false
  else if options.value? 'u' == some "all" then return none
  else if options.has 'n' || options.has 'u' then return some true
  else return none

/-- What is wrong with the values of the switches that tell what is replaced. -/
def replacingFlaw? (options : Options) : Option String :=
  match options.value? 'u', options.value? 'b' with
  | some value, backups =>
    if !(["", "all", "none", "older"].contains value) then
      some (invalidChoice value "--update" ["'all'", "'none'", "'older'"])
    else backups.bind badBackup?
  | none, backups => backups.bind badBackup?
where
  badBackup? (value : String) : Option String :=
    if ["", "none", "off", "simple", "never", "existing", "nil", "numbered", "t"].contains value then
      none
    else some (invalidChoice value "backup type"
      ["'none', 'off'", "'simple', 'never'", "'existing', 'nil'", "'numbered', 't'"])

/-- The number that a name has as the backup of another one. -/
def backupNumber? (step name : String) : Option Nat :=
  let start := (step ++ ".~").toList
  let chars := name.toList
  if start.isPrefixOf chars && chars.getLast? == some '~' then
    let digits := (chars.drop start.length).dropLast
    if digits.all Char.isDigit then (String.ofList digits).toNat? else none
  else none

/-- What the backup of a step of a directory is called, if one is asked for. -/
def backupName? (options : Options) (names : List String) (step : String) : Option String :=
  let numbers := names.filterMap (backupNumber? step)
  let numbered := step ++ ".~" ++ toString (numbers.max?.getD 0 + 1) ++ "~"
  let simple := step ++ (options.value? 'S').getD "~"
  if !options.has 'b' && !options.has 'S' then none
  else
    match options.value? 'b' with
    | some "none" | some "off" => none
    | some "simple" | some "never" => some simple
    | some "numbered" | some "t" => some numbered
    | _ => some (if numbers.isEmpty then simple else numbered)

/-- Moves what is at a place to another one. -/
def movePlace (place other : Location) : Run Unit :=
  modify fun machine =>
    let inner := machine.tree.below place
    match machine.tree.node? place with
    | none => machine
    | some node =>
      let tree := (machine.tree.remove place).put other node
      { machine with tree :=
          inner.foldl (fun tree (steps, node) => tree.put (other ++ steps) node) tree }

/-- Gives what is at a path the name of a backup if one is asked for. What is told of it is given
    back. -/
def backUp (options : Options) (path : String) : Run String := do
  match ← linkAt path with
  | .error _ => return ""
  | .ok (place, _) =>
    let parent := place.dropLast
    let step := place.getLast?.getD ""
    match backupName? options ((← get).tree.names parent) step with
    | none => return ""
    | some name =>
      movePlace place (parent ++ [name])
      let front := path.toList.take (path.length - (lastStep path).length)
      return " (backup: " ++ quotedName (String.ofList front ++ Raw.ofText name) ++ ")"

/-- Gives a file another name. The file has the same document under both names from then on. -/
def makeName (name : String) (options : Options) (source path : String) : Run Bool := do
  match ← linkAt source with
  | .error fault =>
    fails name ("failed to access " ++ quotedName source ++ ": " ++ faultText fault)
  | .ok (_, .directory _) =>
    fails name (shownName source ++ ": hard link not allowed for directory")
  | .ok (place, node) =>
    let refuse (fault : IoFault) : Run Bool :=
      fails name ("failed to create hard link " ++ quotedName path ++
        (if fault == .alreadyExists then "" else " => " ++ quotedName source) ++ ": " ++
        faultText fault)
    let machine ← get
    match ← linkAt path with
    | .ok (other, _) =>
      if other == place && options.has 'f' then
        fails name (quotedName source ++ " and " ++ quotedName path ++ " are the same file")
      else if !options.has 'f' then refuse .alreadyExists
      else
        set { machine with tree := machine.tree.put other node }
        return true
    | .error _ =>
      match machine.tree.placeToWrite machine.workDir (Raw.toText path) with
      | .error fault => refuse fault
      | .ok other =>
        set { machine with tree := machine.tree.put other node }
        return true

/-- Makes a link instead of a copy. -/
def linkCopy (name : String) (options : Options) (source path : String) : Run Bool := do
  if options.has 's' then
    if source.toList.head? != some '/' && path.toList.contains '/' then
      fails name (shownName path ++ ": can make relative symbolic links only in current directory")
    else makeLink name source path
  else makeName name options source path

/-- Copies an operand to a path. -/
def copyTo (name : String) (options : Options) (source path : String) : Run Bool := do
  let isDeep := options.has 'r' || options.has 'R' || options.has 'a'
  let isExact := options.has 'p' || options.has 'a' || options.has 'k'
  let keepsLinks := (isDeep || options.has 'd' || options.has 'P') &&
    !(options.has 'L' || options.has 'H')
  match ← if keepsLinks then linkAt source else nodeAt source with
  | .error fault =>
    fails name ("cannot stat " ++ quotedName source ++ ": " ++ faultText fault)
  | .ok (place, node) =>
    let isDirectory := match node with | .directory _ => true | _ => false
    if isDirectory && !isDeep then
      fails name ("-r not specified; omitting directory " ++ quotedName source)
    else if let .error .notADirectory := ← linkAt path then
      fails name ("cannot stat " ++ quotedName path ++ ": " ++ faultText .notADirectory)
    else if let some isWell := ← isKept name options path then return isWell
    else
      let machine ← get
      let top :=
        match machine.tree.findParent machine.workDir (Raw.toText path) with
        | .ok (parent, some step) => parent ++ [step]
        | _ => []
      if isDirectory && !top.isEmpty && place.isPrefixOf top then do
        let tells := if options.has 'v' then some "" else none
        let _ ← copyPlace name tells isExact top Path.maxLength place source path
        fails name ("cannot copy a directory, " ++ quotedName (withoutEnd source) ++
          ", into itself, " ++ quotedName path)
      else
        let other := (← linkAt path).toOption.map (·.1)
        let isFresh := isDirectory || other == some place ||
          (match other.bind machine.tree.node? with | some (.directory _) => true | _ => false)
        let note ← if isFresh then pure "" else backUp options path
        if options.has 's' || (options.has 'l' && !isDirectory) then
          linkCopy name options source path
        else
          let tells := if options.has 'v' then some note else none
          copyPlace name tells isExact [] Path.maxLength place source path

/-- Makes the directories that lead to an operand anew below another directory. -/
def copyParents (name : String) (options : Options) (source directory : String) : Run Bool := do
  let steps := (stepwisePaths (frontSteps source)).filter (· != ".")
  steps.foldlM (fun isGood step => do
    let path := stepBelow directory step
    if (← nodeAt path).toOption.isSome then return isGood
    let isMade ← makeDirectory name path false
    if options.has 'v' && isMade then
      say (step ++ " -> " ++ path ++ "\n")
    return isMade && isGood) true

def copyFiles : Program :=
  Usage.program {
    switches := [⟨'a', ["archive"], .never⟩, ⟨'r', ["recursive"], .never⟩, ⟨'R', [], .never⟩,
      ⟨'p', [], .never⟩, ⟨'P', ["no-dereference"], .never⟩, ⟨'L', ["dereference"], .never⟩,
      ⟨'H', [], .never⟩, ⟨'d', [], .never⟩, ⟨'f', ["force"], .never⟩,
      ⟨'i', ["interactive"], .never⟩, ⟨'n', ["no-clobber"], .never⟩,
      ⟨'u', ["update"], .maybe⟩, ⟨'v', ["verbose"], .never⟩, ⟨'l', ["link"], .never⟩,
      ⟨'s', ["symbolic-link"], .never⟩, ⟨'x', ["one-file-system"], .never⟩,
      ⟨'b', [], .never⟩, ⟨'b', ["backup"], .maybe⟩, ⟨'S', ["suffix"], .always⟩,
      ⟨'t', ["target-directory"], .always⟩,
      ⟨'T', ["no-target-directory"], .never⟩, ⟨'k', ["preserve"], .maybe⟩,
      ⟨'\x04', ["parents"], .never⟩, ⟨'\x05', ["attributes-only"], .never⟩,
      ⟨'K', ["no-preserve"], .always⟩, ⟨'D', ["remove-destination"], .never⟩,
      ⟨'e', ["strip-trailing-slashes"], .never⟩, ⟨'y', ["reflink"], .maybe⟩,
      ⟨'z', ["sparse"], .always⟩] } fun name options => do
    if let some message := replacingFlaw? options then return ← lacking name message
    if options.has 'n' then
      report name ("warning: behavior of -n is non-portable and may change in future; " ++
        "use --update=none instead")
    match ← sourcesOf name options with
    | .error status => return status
    | .ok (sources, .exactly path) =>
      if options.has '\x04' then
        lacking name "with --parents, the destination must be a directory"
      else return statusOf (← forOperands sources fun source => copyTo name options source path)
    | .ok (sources, .into directory) =>
      return statusOf (← forOperands sources fun source => do
        if options.has '\x04' then
          let isGood ← copyParents name options source directory
          return (← copyTo name options source (stepBelow directory source)) && isGood
        else
          let path :=
            match lastStep source with
            | "." | ".." => directory
            | _ => Target.pathFor (.into directory) source
          copyTo name options source path)

/-- Moves an operand to a path. -/
def moveTo (name : String) (options : Options) (source path : String) : Run Bool := do
  let machine ← get
  match ← linkAt source with
  | .error fault => fails name ("cannot stat " ++ quotedName source ++ ": " ++ faultText fault)
  | .ok (place, node) =>
    let isDirectory := match node with | .directory _ => true | _ => false
    let finish (other : Location) : Run Bool := do
      let note ← backUp options path
      if options.has 'v' then
        say ("renamed " ++ quotedName source ++ " -> " ++ quotedName path ++ note ++ "\n")
      movePlace place other
      return true
    let refuse (fault : IoFault) : Run Bool :=
      fails name ("cannot move " ++ quotedName source ++ " to " ++ quotedName path ++ ": " ++
        faultText fault)
    let inItself : Run Bool :=
      fails name ("cannot move " ++ quotedName source ++ " to a subdirectory of itself, " ++
        quotedName path)
    match ← linkAt path with
    | .ok (other, known) =>
      if other == place then
        fails name (quotedName source ++ " and " ++ quotedName path ++ " are the same file")
      else if lastOf? options ['i', 'n', 'f'] == some 'n' then
        fails name ("not replacing " ++ quotedName path)
      else if let some isWell := ← isKept name options path then return isWell
      else
        match isDirectory, known with
        | true, .directory _ =>
          if place.isPrefixOf other then inItself
          else if !(machine.tree.names other).isEmpty then
            fails name ("cannot overwrite " ++ quotedName path ++ ": Directory not empty")
          else finish other
        | true, _ =>
          fails name ("cannot overwrite non-directory " ++ quotedName path ++
            " with directory " ++ quotedName source)
        | false, .directory _ =>
          fails name ("cannot overwrite directory " ++ quotedName path ++ " with non-directory")
        | false, _ => finish other
    | .error known =>
      match machine.tree.findParent machine.workDir (Raw.toText path) with
      | .error .notADirectory =>
        fails name ("cannot stat " ++ quotedName path ++ ": " ++ faultText known)
      | .error fault => refuse fault
      | .ok (_, none) => refuse .notFound
      | .ok (parent, some step) =>
        if Tree.endsInSlash (Raw.toText path) && !isDirectory then refuse .notADirectory
        else if isDirectory && place.isPrefixOf (parent ++ [step]) then inItself
        else finish (parent ++ [step])

def moveFiles : Program :=
  Usage.program {
    switches := [⟨'f', ["force"], .never⟩, ⟨'i', ["interactive"], .never⟩,
      ⟨'n', ["no-clobber"], .never⟩, ⟨'u', ["update"], .maybe⟩, ⟨'v', ["verbose"], .never⟩,
      ⟨'t', ["target-directory"], .always⟩, ⟨'T', ["no-target-directory"], .never⟩,
      ⟨'b', [], .never⟩, ⟨'b', ["backup"], .maybe⟩, ⟨'S', ["suffix"], .always⟩,
      ⟨'e', ["strip-trailing-slashes"], .never⟩] }
    fun name options => do
    if let some message := replacingFlaw? options then return ← lacking name message
    match ← sourcesOf name options with
    | .error status => return status
    | .ok (sources, target) =>
      return statusOf (← forOperands sources fun source =>
        moveTo name options source (target.pathFor source))

/-- Gives files other names, or makes links to them. -/
def linkFiles : Program :=
  Usage.program {
    switches := [⟨'s', ["symbolic"], .never⟩, ⟨'f', ["force"], .never⟩,
      ⟨'n', ["no-dereference"], .never⟩, ⟨'v', ["verbose"], .never⟩,
      ⟨'t', ["target-directory"], .always⟩, ⟨'T', ["no-target-directory"], .never⟩,
      ⟨'r', ["relative"], .never⟩, ⟨'i', ["interactive"], .never⟩,
      ⟨'b', [], .never⟩, ⟨'b', ["backup"], .maybe⟩, ⟨'S', ["suffix"], .always⟩,
      ⟨'L', ["logical"], .never⟩, ⟨'P', ["physical"], .never⟩] } fun name options => do
    let isLink (path : String) : Run Bool := do
      return match ← linkAt path with | .ok (_, .link _) => true | _ => false
    let found ←
      match options.operands with
      | [source] =>
        if (options.value? 't').isNone then pure (.ok ([source], Target.into "."))
        else sourcesOf name options
      | [source, last] =>
        if options.has 'n' && (options.value? 't').isNone && (← isLink last) then
          pure (.ok ([source], Target.exactly last))
        else sourcesOf name options
      | _ => sourcesOf name options
    match found with
    | .error status => return status
    | .ok (sources, target) =>
      let isSymbolic := options.has 's'
      return statusOf (← forOperands sources fun source => do
        let path := target.pathFor source
        let isThere := (← linkAt path).toOption.isSome
        let asksFirst := isThere && lastOf? options ['i', 'f'] == some 'i'
        let agrees ← if asksFirst then asks name ("replace " ++ quotedName path) else pure true
        if !agrees then return false
        let options := if asksFirst then options.addSwitch 'f' "" else options
        let _ ← backUp options path
        let isGood ←
          if isSymbolic then do
            if options.has 'f' then
              match ← linkAt path with
              | .ok (_, .directory _) | .error _ => pure ()
              | .ok (place, _) => removePlace place
            makeLink name source path
          else makeName name options source path
        if isGood && options.has 'v' then
          say (quotedName path ++ (if isSymbolic then " -> " else " => ") ++ quotedName source ++
            "\n")
        return isGood)

/-- Gives a file a second name. -/
def nameTwice : Program :=
  Usage.program {} fun name options => do
    match options.operands with
    | [] => lacking name "missing operand"
    | [source] => lacking name ("missing operand after " ++ quotedName source)
    | _ :: _ :: extra :: _ => lacking name ("extra operand " ++ quotedName extra)
    | [source, path] =>
      let refuse (fault : IoFault) : Run Nat := do
        report name ("cannot create link " ++ quotedName path ++ " to " ++ quotedName source ++
          ": " ++ faultText fault)
        return 1
      match ← linkAt source, ← linkAt path with
      | .error fault, _ => refuse fault
      | .ok _, .ok _ => refuse .alreadyExists
      | .ok (_, .directory _), .error _ => refuse (.system 1)
      | .ok _, .error _ => return statusOf (← makeName name {} source path)

/-- Copies files, which then may be run, or makes directories. -/
def installFiles : Program :=
  Usage.program {
    switches := [⟨'d', ["directory"], .never⟩, ⟨'D', [], .never⟩, ⟨'m', ["mode"], .always⟩,
      ⟨'v', ["verbose"], .never⟩, ⟨'c', [], .never⟩, ⟨'p', ["preserve-timestamps"], .never⟩,
      ⟨'t', ["target-directory"], .always⟩, ⟨'T', ["no-target-directory"], .never⟩,
      ⟨'o', ["owner"], .always⟩, ⟨'g', ["group"], .always⟩, ⟨'s', ["strip"], .never⟩,
      ⟨'C', ["compare"], .never⟩, ⟨'b', [], .never⟩, ⟨'b', ["backup"], .maybe⟩,
      ⟨'S', ["suffix"], .always⟩] } fun name options => do
    let mode := (options.value? 'm').getD "755"
    match Mode.ofText? false 0 0 mode with
    | none =>
      report name ("invalid mode " ++ quotedName mode)
      return 1
    | some mode =>
      if options.has 'd' then
        if options.operands.isEmpty then lacking name "missing file operand"
        else return statusOf (← forOperands options.operands fun path => do
          let isGood ← makeDirectories name path (options.has 'v')
          if let .ok (place, _) := ← nodeAt path then setMode place mode
          return isGood)
      else
        if options.has 'D' then
          if let some last := options.operands.getLast? then
            let directory := (options.value? 't').getD (frontSteps last)
            let _ ← makeDirectories name directory false
        match ← sourcesOf name options with
        | .error status => return status
        | .ok (sources, target) =>
          return statusOf (← forOperands sources fun source => do
            let path := target.pathFor source
            match ← nodeAt source with
            | .error fault =>
              fails name ("cannot stat " ++ quotedName source ++ ": " ++ faultText fault)
            | .ok (_, .directory _) => fails name ("omitting directory " ++ quotedName source)
            | .ok (place, _) =>
              let note ← backUp options path
              let tells := if options.has 'v' then some note else none
              let isGood ← copyPlace name tells false [] 1 place source path
              if let .ok (other, _) := ← nodeAt path then setMode other mode
              return isGood)

/-- The letters that stand for a number in a name that is made up. -/
def madeUpLetters : Nat → Nat → List Char
  | 0, _ => []
  | count + 1, n =>
    let letters := "abcdefghijklmnopqrstuvwxyzABCDEFGHIJKLMNOPQRSTUVWXYZ0123456789".toList
    letters.getD (n % letters.length) 'x' :: madeUpLetters count (n / letters.length + 7 * n)

/-- The first name, of those that a template allows, at which nothing is. -/
def unusedName (machine : Machine) (front back : String) (count : Nat) : Nat → Nat → String
  | 0, n => front ++ String.ofList (madeUpLetters count n) ++ back
  | fuel + 1, n =>
    let path := front ++ String.ofList (madeUpLetters count n) ++ back
    if machine.leadsToNode path then unusedName machine front back count fuel (n + 1) else path

def makeTemporary : Program :=
  Usage.program {
    switches := [⟨'d', ["directory"], .never⟩, ⟨'u', ["dry-run"], .never⟩,
      ⟨'q', ["quiet"], .never⟩, ⟨'p', ["tmpdir"], .always⟩, ⟨'t', [], .never⟩,
      ⟨'s', ["suffix"], .always⟩] } fun name options => do
    let machine ← get
    let base := (options.value? 'p').getD ((machine.environment.lookup "TMPDIR").getD "/tmp")
    let isInBase := options.operands.isEmpty || options.has 't' || (options.value? 'p').isSome
    let given := options.operands.headD "tmp.XXXXXXXXXX"
    let chars := (if isInBase then stepBelow base given else given).toList.reverse
    let back := if (options.value? 's').isSome then [] else chars.takeWhile (· != 'X')
    let marks := (chars.drop back.length).takeWhile (· == 'X')
    if marks.length < 3 then
      report name ("too few X's in template " ++ quotedName given)
      return 1
    else
      let front := String.ofList (chars.drop (back.length + marks.length)).reverse
      let suffix := (options.value? 's').getD (String.ofList back.reverse)
      let path := unusedName machine front suffix marks.length 1000 0
      let fault ←
        if options.has 'u' then pure none
        else changeTree fun tree workDir =>
          if options.has 'd' then tree.makeDir workDir (Raw.toText path)
          else tree.writeFile workDir (Raw.toText path) .empty
      match fault with
      | none =>
        say (path ++ "\n")
        return 0
      | some fault =>
        if !options.has 'q' then
          report name ("failed to create " ++ (if options.has 'd' then "directory" else "file") ++
            " via template " ++ quotedName given ++ ": " ++ faultText fault)
        return 1

/-- Makes files as long as is asked for: what is missing becomes zeros. -/
def resizeFiles : Program :=
  Usage.program {
    switches := [⟨'s', ["size"], .always⟩, ⟨'c', ["no-create"], .never⟩,
      ⟨'r', ["reference"], .always⟩, ⟨'o', ["io-blocks"], .never⟩] } fun name options => do
    let reference ← (options.value? 'r').mapM contents
    let given := (options.value? 's') <|>
      ((reference.bind Except.toOption).map fun document => toString document.size)
    match given, options.operands with
    | none, _ => lacking name "you must specify either '--size' or '--reference'"
    | some _, [] => lacking name "missing file operand"
    | some size, operands =>
      let sign := size.toList.head?.filter ['+', '-', '<', '>', '/', '%'].contains
      let digits := if sign.isSome then (size.drop 1).toString else size
      match sizeOf? digits with
      | none =>
        report name ("Invalid number: " ++ quotedName size)
        return 1
      | some n =>
        return statusOf (← forOperands operands fun path => do
          let isThere := (← get).leadsToNode path
          if options.has 'c' && !isThere then return true
          let known := ((← contents path).toOption).getD .empty
          let length :=
            match sign with
            | some '+' => known.size + n
            | some '-' => known.size - n
            | some '<' => min known.size n
            | some '>' => max known.size n
            | some '/' => if n == 0 then known.size else known.size / n * n
            | some '%' => if n == 0 then known.size else (known.size + n - 1) / n * n
            | _ => n
          let padding : ByteArray := ⟨Array.replicate (length - known.size) 0⟩
          match ← changeTree fun tree workDir =>
            tree.writeFile workDir (Raw.toText path) (known.extract 0 length ++ padding) with
          | none => return true
          | some fault =>
            fails name ("cannot open " ++ quotedName path ++ " for writing: " ++
              faultText fault))

/-- Lets files reach the disk, where they always are. -/
def settleFiles : Program :=
  Usage.program { switches := letters "df" } fun name options => do
    return statusOf (← forOperands options.operands fun path => do
      match ← nodeAt path with
      | .ok _ => return true
      | .error fault =>
        fails name ("error opening " ++ quotedName path ++ ": " ++ faultText fault))

/-- The utilities of this module. -/
def fileUtilities : List (String × Program) := [
  ("mkdir", makeDirectoriesProgram),
  ("rmdir", removeDirectories),
  ("rm", removeFiles),
  ("unlink", unlinkFile),
  ("cp", copyFiles),
  ("mv", moveFiles),
  ("ln", linkFiles),
  ("link", nameTwice),
  ("install", installFiles),
  ("touch", touchFiles),
  ("chmod", changeModes),
  ("mktemp", makeTemporary),
  ("truncate", resizeFiles),
  ("sync", settleFiles)]

end InfoFlow.Sandbox
