import InfoFlow.Sandbox.Finding
import InfoFlow.Sandbox.Utility.Contents

namespace InfoFlow.Sandbox

namespace Finding

/-- Which links stand for what they lead to. -/
inductive Following where
  | never
  /-- Those that are given as paths. -/
  | given
  | always
deriving DecidableEq

/-- A file that is found. -/
structure Found where
  path : String
  place : Location
  /-- What is there, over links if they are followed. -/
  node : Node
  /-- How far below the path that was given. -/
  depth : Nat
  top : String

/-- How a search goes on. -/
structure Search where
  launch : Launch
  name : String
  finding : Finding
  following : Following
  low : Nat
  high : Option Nat
  innerFirst : Bool
  /-- The streams to the files that are written to. -/
  streams : List (String × Nat)

/-- What has been decided on the way. -/
structure Course where
  isPruned : Bool := false
  isOver : Bool := false
  isGood : Bool := true
  /-- The files for each of the commands that are run at the end, with their directories. -/
  files : List ((List String × ExecUse) × Location × String) := []

/-- The last step of a path, with the slash that it ends in. -/
def lastOf (path : String) : String :=
  let step := lastStep path
  if path.endsWith "/" && step != "/" then step ++ "/" else step

/-- What stands in front of the last step of a path. -/
def frontOf (path : String) : String :=
  if !path.toList.contains '/' then "."
  else
    let chars := path.toList.reverse.dropWhile (· == '/')
    if chars.contains '/' then String.ofList ((chars.dropWhile (· != '/')).drop 1).reverse
    else String.ofList chars.reverse

/-- The letter of a kind. -/
def kindOf (node : Node) : Char :=
  if node.kindLetter == '-' then 'f' else node.kindLetter

/-- The letter of what is behind a link. -/
def targetKind (tree : Tree) (found : Found) : Char :=
  match tree.find found.place.dropLast (found.place.getLastD "/") with
  | .ok (_, node) => kindOf node
  | .error .tooManyLinks => 'L'
  | .error _ => 'N'

/-- What a directive shows of a file. -/
def Found.text (found : Found) (tree : Tree) (d : Directive) : List Char :=
  let text (s : String) : List Char := d.writeText s.toList
  let size := found.node.shownSize
  match d.conversion with
  | 'f' => text (lastOf found.path)
  | 'p' => text found.path
  | 'P' => text (String.ofList
      ((found.path.toList.drop found.top.length).dropWhile (· == '/')))
  | 'h' => text (frontOf found.path)
  | 'H' => text found.top
  | 's' => text (toString size)
  | 'k' => text (toString ((size + 4095) / 4096 * 4))
  | 'b' => text (toString ((size + 4095) / 4096 * 8))
  | 'y' => text (String.singleton (kindOf found.node))
  | 'Y' => text (String.singleton (targetKind tree found))
  | 'd' => d.writeInteger found.depth
  | 'm' => { d with conversion := 'o' }.writeInteger (modeOf found.node)
  | 'M' => text found.node.modeText
  | 'u' | 'g' => text "root"
  | 'U' | 'G' => text "0"
  | 'n' => text (toString (Listing.linksAt tree found.place))
  | 'l' =>
    match found.node with
    | .link target => text (Raw.ofText target)
    | _ => text ""
  | _ => text ""

/-- What is shown of a file. -/
def Found.all (found : Found) (tree : Tree) : List Shown → List Char
  | [] => []
  | .stop :: _ => []
  | .text s :: rest => s ++ found.all tree rest
  | .directive d :: rest => found.text tree d ++ found.all tree rest

/-- A command with a path for each of its braces. -/
def withPath (words : List String) (path : String) : List String :=
  words.map fun word => word.replace FindReading.braces path

/-- Runs a program in a directory; whether it went well. -/
def runFor (launch : Launch) (name : String) (place : Option Location) (words : List String) :
    Run Bool := do
  let before := (← get).workDir
  if let some place := place then modify fun machine => { machine with workDir := place }
  let ended ← launch words
  modify fun machine => { machine with workDir := before }
  match ended with
  | .ok status => return statusNumber status == 0
  | .error fault =>
    report name (quotedName (words.headD "") ++ ": " ++ faultText fault)
    return false

/-- The directory that a file is in. -/
def Found.directory (found : Found) : Run Location := do
  let machine ← get
  if found.depth > 0 then return found.place.dropLast
  match machine.tree.find machine.workDir (Raw.toText (frontSteps found.path)) with
  | .ok (place, _) => return place
  | .error _ => return machine.workDir

/-- The path of a file from its directory. -/
def Found.innerPath (found : Found) : String :=
  let step := lastOf found.path
  if step.startsWith "/" then step else "./" ++ step

/-- Asks whether a command is to be run for a path. -/
def agrees (words : List String) (path : String) : Run Bool := do
  emit 2 (Raw.toBytes ("< " ++ words.headD "" ++ " ... " ++ path ++ " > ? "))
  let answer ← readLine 0
  return (Raw.ofBytes answer).toList.head?.any fun c => c == 'y' || c == 'Y'

/-- Whether a pattern matches a text. -/
def isNamed (pattern : Pattern) (isCaseless : Bool) (text : String) : Bool :=
  if isCaseless then
    let lower : Pattern := pattern.map fun
      | .any => .any
      | .one set => .one set.caseless
    lower.isMatch text.toList
  else pattern.isMatch text.toList

/-- Whether a mode is as it is asked for. -/
def hasMode (use : ModeUse) (asked mode : Nat) : Bool :=
  match use with
  | .exact => mode == asked
  | .all => mode.land asked == asked
  | .some => mode.land asked != 0

/-- Writes to the output, or to one of the files that are written to. -/
def Search.tell (search : Search) (target : Option String) (text : String) : Run Unit :=
  emit ((target.bind (search.streams.lookup ·)).getD 1) (Raw.toBytes text)

/-- Notes that something went wrong. -/
def goWrong : StateT Course Run Bool := do
  modifyThe Course fun course => { course with isGood := false }
  return false

/-- Whether what is asked holds of a file. What is done is done on the way. -/
def Search.holds (search : Search) (found : Found) : Finding → StateT Course Run Bool
  | .always => return true
  | .never => return false
  | .named pattern isCaseless ofWhole =>
    return isNamed pattern isCaseless (if ofWhole then found.path else lastStep found.path)
  | .leading pattern isCaseless =>
    match found.node with
    | .link target => return isNamed pattern isCaseless (Raw.ofText target)
    | _ => return false
  | .matching regex isCaseless =>
    let subject := Regex.Subject.ofText found.path.toList isCaseless
    return Regex.longest? subject regex 0 == some found.path.length
  | .kind letters ofTarget => do
    let tree := (← getThe Machine).tree
    let own := (tree.node? found.place).getD found.node
    let kind :=
      if !ofTarget then kindOf found.node
      else if search.following == .always then kindOf own
      else
        let kind := targetKind tree found
        if kind == 'N' || kind == 'L' then 'l' else kind
    return letters.contains kind
  | .empty => do
    match found.node with
    | .file document _ => return document.isEmpty
    | .directory _ => return ((← getThe Machine).tree.names found.place).isEmpty
    | _ => return false
  | .sized measure unit => return measure.holds ((found.node.shownSize + unit - 1) / unit)
  | .fixed n measure => return measure.holds n
  | .linked measure => do
    return measure.holds (Listing.linksAt (← getThe Machine).tree found.place)
  | .moded use mode => return hasMode use mode (modeOf found.node)
  | .same path => do
    match ← if search.following == .always then nodeAt path else linkAt path with
    | .ok (place, _) => return place == found.place
    | .error _ => return false
  | .newer _ => return false
  | .mayRun => return found.node.mayRun
  | .print ending target => do
    search.tell target (found.path ++ ending)
    return true
  | .format parts target => do
    let tree := (← getThe Machine).tree
    search.tell target (String.ofList (found.all tree parts))
    return true
  | .delete => do
    let machine ← getThe Machine
    if found.path == "." then return true
    else if found.node.isDirectory && !(machine.tree.names found.place).isEmpty then
      report search.name ("cannot delete " ++ quotedName found.path ++ ": Directory not empty")
      goWrong
    else
      removePlace found.place
      return true
  | .prune => do
    modifyThe Course fun course => { course with isPruned := true }
    return true
  | .quit => do
    modifyThe Course fun course => { course with isOver := true }
    return true
  | .exec words use => do
    let path := if use.isInside then found.innerPath else found.path
    let place ← found.directory
    if use.isTogether then
      modifyThe Course fun course =>
        { course with files := ((words, use), place, path) :: course.files }
      return true
    if use.asks then
      let isAgreed ← agrees words found.path
      if !isAgreed then return false
    runFor search.launch search.name (if use.isInside then some place else none)
      (withPath words path)
  | .both a b => do
    let isFirst ← search.holds found a
    if !isFirst then return false
    if (← getThe Course).isOver then return true
    search.holds found b
  | .either a b => do
    let isFirst ← search.holds found a
    if isFirst || (← getThe Course).isOver then return true
    search.holds found b
  | .after a b => do
    let _ ← search.holds found a
    if (← getThe Course).isOver then return true
    search.holds found b
  | .negated a => return !(← search.holds found a)

/-- Goes through what is at a place and below it, inside of the directories above it. -/
def Search.walk (search : Search) :
    Nat → List (Location × String) → Found → StateT Course Run Unit
  | 0, _, _ => return
  | fuel + 1, above, found => do
    if (← getThe Course).isOver then return
    let look : StateT Course Run Unit :=
      if found.depth < search.low then pure () else do
        modifyThe Course fun course => { course with isPruned := false }
        let _ ← search.holds found search.finding
    let enter : StateT Course Run Unit := do
      let names := (← getThe Machine).tree.names found.place
      if found.node.isDirectory && search.high.all (found.depth < ·) then
        names.forM fun step => do
          let tree := (← getThe Machine).tree
          let path := stepBelow found.path (Raw.ofText step)
          let place := found.place ++ [step]
          let reached? : Option (Location × Node) :=
            match search.following, tree.find found.place step with
            | .always, .ok reached => some reached
            | _, _ => (tree.node? place).map (place, ·)
          if let some (place, node) := reached? then
            let known := (found.place, found.path) :: above
            match if node.isDirectory then known.find? (·.1 == place) else none with
            | some (_, outer) =>
              report search.name ("File system loop detected; " ++ quotedName path ++
                " is part of the same file system loop as " ++ quotedName outer ++ ".")
              let _ ← goWrong
            | none =>
              search.walk fuel known
                { path, place, node, depth := found.depth + 1, top := found.top }
    if search.innerFirst then
      enter
      if !(← getThe Course).isOver then look
    else
      look
      if !((← getThe Course).isPruned && found.depth ≥ search.low) then enter

/-- Goes through what is at a path and below it. -/
def Search.start (search : Search) (path : String) : StateT Course Run Unit := do
  let own ← linkAt path
  let reached ←
    if search.following == .never then pure own
    else
      match ← nodeAt path with
      | .error .notFound => pure own
      | reached => pure reached
  match reached with
  | .error fault =>
    report search.name (quotedName path ++ ": " ++ faultText fault)
    let _ ← goWrong
  | .ok (place, node) =>
    search.walk Path.maxLength [] { path, place, node, depth := 0, top := path }

/-- Runs a command for the files that were found, in one go or once for each directory. -/
def Search.runGathered (search : Search) (course : Course) (isGood : Bool)
    (command : List String × ExecUse) : Run Bool := do
  let files := course.files.reverse.filterMap fun (words, file) =>
    if words == command then some file else none
  let (words, use) := command
  if files.isEmpty then return isGood
  else if use.isInside then
    (files.map (·.1)).eraseDups.foldlM (fun isGood place => do
      let paths := (files.filter (·.1 == place)).map (·.2)
      let isRight ← runFor search.launch search.name (some place) (words ++ paths)
      return isGood && isRight) isGood
  else
    let isRight ← runFor search.launch search.name none (words ++ files.map (·.2))
    return isGood && isRight

end Finding

/-- The switches in front of the paths: which links are followed, or a mistake. -/
def followingOf (following : Finding.Following) :
    List String → Except String (Finding.Following × List String)
  | "-P" :: rest => followingOf .never rest
  | "-H" :: rest => followingOf .given rest
  | "-L" :: rest => followingOf .always rest
  | "--" :: rest => .ok (following, rest)
  | ["-D"] => .error "Missing argument after the -D option."
  | "-D" :: _ :: rest => followingOf following rest
  | word :: rest =>
    if !word.startsWith "-O" then .ok (following, word :: rest)
    else if word == "-O" then
      .error "The -O option must be immediately followed by a decimal integer"
    else if (word.drop 2).isNat then followingOf following rest
    else .error "Please specify a decimal number immediately after -O"
  | [] => .ok (following, [])

/-- Opens the files that are written to; what prevents it is reported. -/
def openTargets (name : String) (targets : List String) : Run (Option (List (String × Nat))) := do
  let opened := targets.mapIdx fun n target => (target, 100 + n)
  for (target, stream) in opened do
    match (← get).openForOutput stream .emptied target with
    | .ok machine => set machine
    | .error fault =>
      report name (quotedName target ++ ": " ++ faultText fault)
      return none
  return some opened

/-- Reports why the words of a search ask nothing. -/
def tellFlaw (name : String) : FindFlaw → Run Unit
  | .message text => report name text
  | .stray word before => do
    report name ("paths must precede expression: \x60" ++ word ++ "'")
    let isThere := (← linkAt word).toOption.isSome
    if let some before := before then
      if isThere then
        report name ("possible unquoted pattern after predicate \x60" ++ before ++ "'?")

/-- Searches directories for files. -/
def findFiles (launch : Launch) : Program := fun name args => do
  if args.any ["-help", "--help", "-version", "--version"].contains then return 0
  match followingOf .never args with
  | .error message =>
    report name message
    if message.startsWith "Missing" then
      emit 2 (Raw.toBytes ("Try '" ++ name ++ " --help' for more information.\n"))
    return 1
  | .ok (following, args) =>
    let paths := args.takeWhile (!FindReading.beginsAsking ·)
    let (read, notes) := findingOf (args.drop paths.length)
    notes.warnings.forM (report name)
    match read with
    | .error flaw =>
      tellFlaw name flaw
      return 1
    | .ok finding =>
      for path in finding.required do
        if let .error fault ← nodeAt path then
          report name (quotedName path ++ ": " ++ faultText fault)
          return 1
      let before ← get
      match ← openTargets name finding.targets with
      | none => return 1
      | some streams =>
        let search : Finding.Search := {
          launch, name, finding, streams
          following := if notes.followsLinks then .always else following
          low := notes.low
          high := notes.high
          innerFirst := notes.innerFirst || finding.removes }
        let paths := if paths.isEmpty then ["."] else paths
        let (_, course) ← StateT.run (paths.forM search.start) ({} : Finding.Course)
        let isGood ← finding.gathered.foldlM (search.runGathered course) course.isGood
        modify fun machine => { machine with streams := before.streams }
        return statusOf isGood

/-- The utilities of this module. -/
def findingUtilities : List (String × (Launch → Program)) :=
  [("find", findFiles)]

end InfoFlow.Sandbox
