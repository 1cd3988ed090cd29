import InfoFlow.Sandbox.Editor.Grammar
import InfoFlow.Sandbox.Utility.Reading

namespace InfoFlow.Editor

open Sandbox

/-- A line that is read. -/
structure Line where
  text : List Char
  isEnded : Bool
  /-- The document that it is of. -/
  source : String

/-- The range of a command: where it ends if it has begun. -/
inductive RangeState where
  | outside
  | until (line : Nat)
  | search (search : Search)
  | toLast
  /-- It has ended and does not begin again. -/
  | over

structure Session where
  script : Script
  isQuiet : Bool
  /-- What ends a line. -/
  lineMark : Char
  left : List Line
  number : Nat := 0
  source : String := "-"
  isEnded : Bool := true
  space : List Char := []
  held : List Char := []
  isReplaced : Bool := false
  lastSearch : Option Search := none
  ranges : List (Nat × RangeState) := []
  /-- What is written behind the line. -/
  queue : List Act := []
  /-- What was written, the last part first. -/
  written : List String := []
  /-- Whether the end of the last line that was written is still owed. -/
  owesEnd : Bool := false
  /-- The streams of the files that are written. -/
  streams : List (String × Nat) := []
  /-- What is left of the files that are read line by line. -/
  documents : List (String × List String) := []
  status : Nat := 0
  hasQuit : Bool := false

/-- How a pass through the script ends. -/
inductive Ending where
  | atEnd
  /-- The line is not written. -/
  | deleted
  /-- The next pass begins with what is left of the line. -/
  | again
  | quit (prints : Bool)

abbrev Action := ExceptT String (StateT Session Run)

def onMachine {α : Type} (body : Run α) : Action α :=
  ExceptT.lift (StateT.lift body)

/-- Writes a text as a line of its own. -/
def writeLine (text : List Char) (isEnded : Bool) : Action Unit :=
  modify fun session =>
    let front := if session.owesEnd then [String.singleton session.lineMark] else []
    let line := String.ofList (if isEnded then text ++ [session.lineMark] else text)
    { session with
      written := line :: front ++ session.written
      owesEnd := !isEnded }

/-- Writes a text as it is. -/
def writeText (text : String) : Action Unit :=
  modify fun session =>
    if text.isEmpty then session
    else
      let front := if session.owesEnd then [String.singleton session.lineMark] else []
      { session with written := text :: front ++ session.written, owesEnd := false }

def writeSpace : Action Unit := do
  let session ← get
  writeLine session.space session.isEnded

/-- Writes a line to a file. -/
def writeTo (path : String) (text : List Char) : Action Unit := do
  let session ← get
  if path == "/dev/stdout" then writeLine text session.isEnded
  else
    match session.streams.lookup path with
    | some stream =>
      let line := String.ofList (if session.isEnded then text ++ ['\n'] else text)
      onMachine (emit stream (Raw.toBytes line))
    | none => return

/-- Writes what is to stand behind the line. -/
def writeQueue : Action Unit := do
  let queue := (← get).queue.reverse
  modify fun session => { session with queue := [] }
  queue.forM fun
    | .append text => writeText text
    | .readFile path => do
      match ← onMachine (contents path) with
      | .ok document =>
        let text := Raw.ofBytes document
        writeText text
        if !text.isEmpty && text.toList.getLast? != some '\n' then
          modify fun session => { session with owesEnd := false }
      | .error _ => return
    | .readLine path => do
      let session ← get
      let lines ←
        match session.documents.lookup path with
        | some lines => pure lines
        | none => do
          match ← onMachine (contents path) with
          | .ok document => pure (Raw.lines (Raw.ofBytes document))
          | .error _ => pure []
      let others := session.documents.filter (·.1 != path)
      modify fun session => { session with documents := (path, lines.drop 1) :: others }
      if let some line := lines.head? then writeLine line.toList true
    | _ => return

/-- The expression of a search; an empty one stands for the last that was used. -/
def regexOf (search : Search) : Action (Regex × Search) := do
  match search.regex with
  | some regex =>
    modify fun session => { session with lastSearch := some search }
    return (regex, search)
  | none =>
    match (← get).lastSearch with
    | some { regex := some regex, isCaseless, hasLines } =>
      return (regex, { regex := some regex, isCaseless, hasLines })
    | _ => throw "-e expression #1, char 0: no previous regular expression"

def subjectOf (search : Search) (text : List Char) : Regex.Subject :=
  { text := text.toArray, isCaseless := search.isCaseless, hasLines := search.hasLines }

def isFound (search : Search) : Action Bool := do
  let (regex, search) ← regexOf search
  return Regex.occurs (subjectOf search (← get).space) regex

def isAt (address : Address) : Action Bool := do
  let session ← get
  match address with
  | .line n => return session.number == n
  | .step first stride =>
    if stride == 0 then return session.number == first
    else return session.number ≥ first && (session.number - first) % stride == 0
  | .last => return session.left.isEmpty
  | .search search => isFound search

def setRange (n : Nat) (state : RangeState) : Action Unit :=
  modify fun session =>
    { session with ranges := (n, state) :: session.ranges.filter (·.1 != n) }

/-- Begins a range at the line. -/
def beginRange (n : Nat) (last : RangeEnd) : Action Unit := do
  let line := (← get).number
  match last with
  | .address (.line m) => setRange n (if m > line then .until m else .outside)
  | .address .last =>
    setRange n (if (← get).left.isEmpty then .outside else .toLast)
  | .address (.search search) => setRange n (.search search)
  | .address (.step first stride) =>
    let m := if stride == 0 then first else
      line + (if line ≥ first then (stride - (line - first) % stride) % stride else first - line)
    setRange n (if m > line then .until m else .outside)
  | .after count => setRange n (if count > 0 then .until (line + count) else .outside)
  | .multiple m =>
    setRange n (if m > 0 then .until (line + m - line % m) else .outside)

/-- Whether a command is carried out at the line, apart from a negation. -/
def isMeant (n : Nat) (guard : Guard) : Action Bool := do
  match guard with
  | .always => return true
  | .single address => isAt address
  | .range first last =>
    let session ← get
    let state : RangeState :=
      match session.ranges.lookup n, first, last with
      | some state, _, _ => state
      -- A range from the line before the first is there from the start.
      | none, .line 0, .address (.search search) => .search search
      | none, _, _ => .outside
    match state with
    | .over => return false
    | .outside =>
      if ← isAt first then
        beginRange n last
        return true
      else return false
    | .until m =>
      if session.number ≥ m then
        setRange n .outside
        if session.number > m then
          -- The line was passed over, so the range may only begin anew.
          if ← isAt first then
            beginRange n last
            return true
          else return false
        else return true
      else return true
    | .toLast =>
      if session.left.isEmpty then setRange n .outside
      return true
    | .search search =>
      if ← isFound search then
        setRange n (match first with | .line _ => .over | _ => .outside)
      return true

/-- Takes the next line. Whether there is one is told. -/
def takeLine (isAppended : Bool) : Action Bool := do
  let session ← get
  match session.left with
  | [] => return false
  | line :: left =>
    set { session with
      left, number := session.number + 1, isEnded := line.isEnded, source := line.source
      space := if isAppended then session.space ++ session.lineMark :: line.text else line.text }
    return true

/-- Changes the case of a text. What is asked for the next character counts once. -/
def cased (state next : CaseChange) (text : List Char) : List Char :=
  let whole :=
    match state with
    | .upper => text.map Char.toUpper
    | .lower => text.map Char.toLower
    | _ => text
  match next, whole with
  | .upperNext, c :: rest => c.toUpper :: rest
  | .lowerNext, c :: rest => c.toLower :: rest
  | _, whole => whole

/-- What takes the place of a match. -/
def replaced (text : Array Char) (groups : Regex.Groups) :
    CaseChange → CaseChange → List ReplacementPart → List Char
  | _, _, [] => []
  | state, next, part :: rest =>
    match part with
    | .change .upperNext => replaced text groups state .upperNext rest
    | .change .lowerNext => replaced text groups state .lowerNext rest
    | .change change => replaced text groups change .none rest
    | .text s => put state next s rest
    | .group n =>
      let found :=
        match groups.lookup n with
        | some (first, last) => (text.extract first last).toList
        | none => []
      put state next found rest
where
  put (state next : CaseChange) (s : List Char) (rest : List ReplacementPart) : List Char :=
    cased state next s ++ replaced text groups state (if s.isEmpty then next else .none) rest

/-- Replaces matches from a position on. `count` is the number of the next match. -/
def substituteFrom (regex : Regex) (subject : Regex.Subject) (s : Substitution) :
    Nat → Nat → Nat → Bool → List Char × Bool
  | 0, position, _, _ => ((subject.text.extract position subject.text.size).toList, false)
  | fuel + 1, position, count, afterMatch =>
    let rest (from' : Nat) : List Char := (subject.text.extract from' subject.text.size).toList
    match Regex.search subject regex position with
    | none => (rest position, false)
    | some groups =>
      match groups.lookup 0 with
      | none => (rest position, false)
      | some (first, last) =>
        let step (from' count : Nat) (afterMatch : Bool) :=
          substituteFrom regex subject s fuel from' count afterMatch
        if first == last && first == position && afterMatch then
          -- Nothing is put right behind a match.
          match subject.text[position]? with
          | none => ([], false)
          | some c =>
            let (more, isDone) := step (position + 1) count false
            (c :: more, isDone)
        else
          let before := (subject.text.extract position first).toList
          let isChosen := if s.isGlobal then count ≥ s.first else count == s.first
          let matched := (subject.text.extract first last).toList
          let new :=
            if isChosen then replaced subject.text groups .none .none s.replacement else matched
          if isChosen && !s.isGlobal then (before ++ new ++ rest last, true)
          else if first == last then
            match subject.text[last]? with
            | none => (before ++ new, isChosen)
            | some c =>
              let (more, isDone) := step (last + 1) (count + 1) false
              (before ++ new ++ c :: more, isChosen || isDone)
          else
            let (more, isDone) := step last (count + 1) true
            (before ++ new ++ more, isChosen || isDone)

def substitute (s : Substitution) : Action Unit := do
  let (regex, search) ← regexOf s.search
  let space := (← get).space
  let subject := subjectOf search space
  let (new, isDone) := substituteFrom regex subject s (2 * space.length + 2) 0 1 false
  if isDone then
    modify fun session => { session with space := new, isReplaced := true }
    if s.prints then writeSpace
    if let some path := s.writesTo then writeTo path new

/-- A character as it is shown where every character is to be seen. -/
def revealed (c : Char) : List Char :=
  match [('\\', "\\\\"), ('\x07', "\\a"), ('\x08', "\\b"), ('\x0c', "\\f"), ('\n', "\\n"),
    ('\r', "\\r"), ('\t', "\\t"), ('\x0b', "\\v")].lookup c with
  | some s => s.toList
  | none =>
    if c.toNat < 32 || c.toNat ≥ 127 then
      let digits := Nat.toDigits 8 c.toNat
      '\\' :: List.replicate (3 - digits.length) '0' ++ digits
    else [c]

/-- Shown characters on lines of a width. -/
def wrapped (width : Nat) : List (List Char) → Nat → List Char
  | [], _ => ['$', '\n']
  | s :: rest, column =>
    if width > 1 && column + s.length > width - 1 then
      '\\' :: '\n' :: s ++ wrapped width rest s.length
    else s ++ wrapped width rest (column + s.length)

/-- The number of the command behind a label. -/
def placeOf (script : Script) (label : Option String) : Nat :=
  match label with
  | none => script.size
  | some label =>
    (script.findIdx? fun command =>
      match command.act with | .label name => name == label | _ => false).getD script.size

/-- The number of the command behind the block that begins at a command. -/
def behindBlock (script : Script) : Nat → Nat → Nat → Nat
  | 0, _, n => n
  | fuel + 1, depth, n =>
    match script[n]? with
    | none => n
    | some command =>
      match command.act with
      | .blockStart => behindBlock script fuel (depth + 1) (n + 1)
      | .blockEnd => if depth ≤ 1 then n + 1 else behindBlock script fuel (depth - 1) (n + 1)
      | _ => behindBlock script fuel depth (n + 1)

/-- What to do after a command: go on at another, or end the pass. -/
inductive Step where
  | goTo (n : Nat)
  | stop (ending : Ending)

/-- Carries out a command. -/
def carryOut (n : Nat) (guard : Guard) (act : Act) : Action Step := do
  let session ← get
  let onward : Action Step := return .goTo (n + 1)
  match act with
  | .blockStart | .blockEnd | .label _ | .nothing => onward
  | .jump jump label =>
    let isMade :=
      match jump with
      | .always => true
      | .ifReplaced => session.isReplaced
      | .unlessReplaced => !session.isReplaced
    if jump != .always then modify fun session => { session with isReplaced := false }
    return .goTo (if isMade then placeOf session.script label else n + 1)
  | .number =>
    writeText (toString session.number ++ "\n")
    onward
  | .append _ | .readFile _ | .readLine _ =>
    modify fun session => { session with queue := act :: session.queue }
    onward
  | .insert text =>
    writeText text
    onward
  | .change text =>
    let isInside :=
      match guard, session.ranges.lookup n with
      | .range .., some (.until _) | .range .., some (.search _) | .range .., some .toLast => true
      | _, _ => false
    if !isInside then writeText text
    return .stop .deleted
  | .delete => return .stop .deleted
  | .deleteLine =>
    if session.space.contains '\n' then
      let rest := (session.space.dropWhile (· != '\n')).drop 1
      set { session with space := rest }
      return .stop .again
    else return .stop .deleted
  | .get =>
    set { session with space := session.held }
    onward
  | .getAppend =>
    set { session with space := session.space ++ '\n' :: session.held }
    onward
  | .hold =>
    set { session with held := session.space }
    onward
  | .holdAppend =>
    set { session with held := session.held ++ '\n' :: session.space }
    onward
  | .exchange =>
    set { session with held := session.space, space := session.held }
    onward
  | .reveal width =>
    let width := match width with | none => 70 | some 1 => 0 | some width => width
    writeText (String.ofList (wrapped width (session.space.map revealed) 0))
    onward
  | .next =>
    if session.left.isEmpty then return .stop (.quit true)
    else
      if !session.isQuiet then writeSpace
      writeQueue
      let _ ← takeLine false
      onward
  | .nextAppend =>
    if session.left.isEmpty then return .stop (.quit true)
    else
      writeQueue
      let _ ← takeLine true
      onward
  | .print =>
    writeSpace
    onward
  | .printLine =>
    writeLine (session.space.takeWhile (· != '\n')) true
    onward
  | .quit status prints =>
    set { session with status }
    return .stop (.quit prints)
  | .substitute s =>
    substitute s
    onward
  | .translate table =>
    set { session with space := session.space.map fun c => (table.lookup c).getD c }
    onward
  | .writeFile path firstOnly =>
    writeTo path (if firstOnly then session.space.takeWhile (· != '\n') else session.space)
    onward
  | .empty =>
    set { session with space := [] }
    onward
  | .name =>
    writeText (session.source ++ "\n")
    onward

/-- Goes through the script from a command on. -/
def runFrom : Nat → Nat → Action Ending
  | 0, _ => return .atEnd
  | fuel + 1, n => do
    let script := (← get).script
    match script[n]? with
    | none => return .atEnd
    | some command =>
      if (← isMeant n command.guard) != command.isNegated then
        match ← carryOut n command.guard command.act with
        | .goTo m => runFrom fuel m
        | .stop ending => return ending
      else
        match command.act with
        | .blockStart => runFrom fuel (behindBlock script script.size 0 n)
        | _ => runFrom fuel (n + 1)

/-- How many commands may be carried out for one line. -/
def commandFuel : Nat := 100000

/-- Goes through the lines that are left. `isFresh` tells whether the next pass begins with a line
    of its own. -/
def runLines : Nat → Bool → Action Unit
  | 0, _ => return
  | fuel + 1, isFresh => do
    if isFresh then
      if !(← takeLine false) then return
      modify fun session => { session with isReplaced := false }
    let ending ← runFrom commandFuel 0
    let isQuiet := (← get).isQuiet
    match ending with
    | .atEnd =>
      if !isQuiet then writeSpace
      writeQueue
      runLines fuel true
    | .deleted =>
      writeQueue
      runLines fuel true
    | .again =>
      writeQueue
      runLines fuel false
    | .quit prints =>
      if prints && !isQuiet then writeSpace
      if prints then writeQueue
      modify fun session => { session with hasQuit := true }

def switches : List Switch := [
  ⟨'n', ["quiet", "silent"], .never⟩, ⟨'e', ["expression"], .always⟩, ⟨'f', ["file"], .always⟩,
  ⟨'E', ["regexp-extended"], .never⟩, ⟨'r', [], .never⟩, ⟨'i', ["in-place"], .maybe⟩,
  ⟨'s', ["separate"], .never⟩, ⟨'u', ["unbuffered"], .never⟩, ⟨'z', ["null-data"], .never⟩,
  ⟨'l', ["line-length"], .always⟩, ⟨'p', ["posix"], .never⟩, ⟨'\x03', ["debug"], .never⟩,
  ⟨'\x04', ["sandbox"], .never⟩, ⟨'\x05', ["follow-symlinks"], .never⟩]

/-- The lines of a document. -/
def linesOf (mark : Char) (source : String) (document : ByteArray) : List Line :=
  let chars := (Raw.ofBytes document).toList
  let parts := Raw.splitAt (· == mark) [] chars
  let whole := parts.dropLast.map fun text => ({ text, isEnded := true, source } : Line)
  match parts.getLast? with
  | some [] | none => whole
  | some text => whole ++ [{ text, isEnded := false, source }]

/-- Where a position in a script that was put together from several ones lies: the number of the
    script, and the position in it. -/
def partAt : Nat → Nat → List String → Nat × Nat
  | n, position, s :: t :: rest =>
    if position ≤ s.length then (n, position) else partAt (n + 1) (position - s.length - 1) (t :: rest)
  | n, position, _ => (n, position)

/-- The texts that make the script, and whether each is of a file. -/
def scriptParts (options : Options) : Run (Except String (List (String × Option String))) := do
  let given := options.switches.filter fun (c, _) => c == 'e' || c == 'f'
  let parts ← given.mapM fun (c, value) => do
    if c == 'e' then return Except.ok (value, none)
    else
      let read ← if value == "-" then pure (.ok (← readStream 0)) else contents value
      match read with
      | .ok document =>
        let text := Raw.ofBytes document
        let text := if text.toList.getLast? == some '\n' then
          String.ofList text.toList.dropLast else text
        return .ok (text, some value)
      | .error fault =>
        return .error ("couldn't open file " ++ value ++ ": " ++ faultText fault)
  return parts.mapM id

/-- Where a flaw is, for a report. -/
def flawText (parts : List (String × Option String)) (flaw : Flaw) : String :=
  if flaw.isBare then flaw.message
  else if flaw.position == 0 then "-e expression #1, char 0: " ++ flaw.message
  else
    let (n, position) := partAt 0 flaw.position (parts.map Prod.fst)
    match parts[n]? with
    | some (text, some path) =>
      let line := (text.toList.take (position - 1)).count '\n' + 1
      "file " ++ path ++ " line " ++ toString line ++ ": " ++ flaw.message
    | _ =>
      let number := ((parts.take n).filter fun (_, path) => path.isNone).length + 1
      "-e expression #" ++ toString number ++ ", char " ++ toString position ++ ": " ++ flaw.message

/-- The files that a script writes. -/
def outputPaths (script : Script) : List String :=
  script.toList.filterMap fun command =>
    match command.act with
    | .writeFile path _ => some path
    | .substitute s => s.writesTo
    | _ => none

/-- Opens the files that are written. -/
def openOutputs : List String → List (String × Nat) → Run (Except String (List (String × Nat)))
  | [], streams => return .ok streams
  | path :: rest, streams => do
    if path == "/dev/stdout" || (streams.lookup path).isSome then openOutputs rest streams
    else
      let stream := 30 + streams.length
      match (← get).openForOutput stream .emptied path with
      | .ok machine =>
        set machine
        openOutputs rest ((path, stream) :: streams)
      | .error fault =>
        return .error ("couldn't open file " ++ path ++ ": " ++ faultText fault)

/-- Runs a script over lines. What it writes, its status and whether it quit are given back. -/
def runOver (session : Session) : Run (Except String Session) := do
  let fuel := 100 * session.left.length + 100000
  let (outcome, session) ← ((runLines fuel true).run).run session
  return match outcome with
    | .ok () => .ok session
    | .error message => .error message

/-- Changes files in their places. -/
def editInPlace (name suffix : String) (session : Session) :
    List String → Nat → Run Nat
  | [], status => return status
  | path :: rest, status => do
    match ← nodeAt path with
    | .error fault =>
      report name ("can't read " ++ path ++ ": " ++ faultText fault)
      editInPlace name suffix session rest (if status == 0 then 2 else status)
    | .ok (place, .file document mode) =>
      let session := { session with left := linesOf session.lineMark path document }
      match ← runOver session with
      | .error message =>
        report name message
        return 1
      | .ok after =>
        let new := Raw.toBytes (String.join after.written.reverse)
        if !suffix.isEmpty then
          let _ ← changeTree fun tree workDir =>
            tree.writeFile workDir (Raw.toText (path ++ suffix)) document
        modify fun machine =>
          { machine with tree := machine.tree.put place (.file new mode) }
        if after.status != 0 then return after.status
        else editInPlace name suffix session rest status
    | .ok _ =>
      report name ("couldn't edit " ++ path ++ ": not a regular file")
      editInPlace name suffix session rest 4

/-- The documents of some operands, or what prevents them from being read. A folder ends the
    reading. -/
def readOperands : List String → Run (List (String × Except IoFault ByteArray))
  | [] => return []
  | path :: rest => do
    let read ← if path == "-" then pure (.ok (← readStream 0)) else contents path
    match read with
    | .error .isADirectory => return [(path, read)]
    | read => return (path, read) :: (← readOperands rest)

/-- Reports what could not be read of some operands. The status that this asks for is given back. -/
def reportFaults (name : String) (operands : List (String × Except IoFault ByteArray)) : Run Nat :=
  operands.foldlM (fun status (path, read) => do
    match read with
    | .ok _ => return status
    | .error .isADirectory =>
      report name ("read error on " ++ path ++ ": Is a directory")
      return 4
    | .error fault =>
      report name ("can't read " ++ path ++ ": " ++ faultText fault)
      return 2) 0

/-- How the run over some groups of lines ended: with a status, or with a fault; and the lines that
    were left when it quit. -/
structure Outcome where
  status : Nat := 0
  left : Option (List Line) := none

/-- Runs a script over each group of lines by itself. -/
def runGroups (name : String) (session : Session) : List (List Line) → Run Outcome
  | [] => return {}
  | lines :: rest => do
    match ← runOver { session with left := lines } with
    | .error message =>
      report name message
      return { status := 1 }
    | .ok after =>
      say (String.join after.written.reverse)
      if after.hasQuit then
        return { status := after.status, left := some (after.left ++ rest.flatten) }
      else if after.status != 0 || !after.left.isEmpty then return { status := after.status }
      else
        let carried : Session := { session with
          held := after.held, lastSearch := after.lastSearch, documents := after.documents
          streams := after.streams }
        runGroups name carried rest

/-- The operands that are reached before a number of lines are left. -/
def reached {α : Type} (left : Nat) : List (α × List Line) → List α
  | [] => []
  | (operand, _) :: rest =>
    let more := (rest.map (·.2.length)).foldl (· + ·) 0
    operand :: if more ≤ left then [] else reached left rest

/-- Runs a script over the documents of some operands. -/
def runOperands (name : String) (session : Session) (isParted : Bool) (operands : List String) :
    Run Nat := do
  let operands ← readOperands (if operands.isEmpty then ["-"] else operands)
  let groups := operands.map fun (path, read) =>
    linesOf session.lineMark path (read.toOption.getD .empty)
  let outcome ← runGroups name session (if isParted then groups else [groups.flatten])
  let status ← reportFaults name (match outcome.left with
    | none => operands
    | some left => reached left.length (operands.zip groups))
  let unread := (outcome.left.getD []).filter (·.source == "-")
  let sizes := unread.map fun line => line.text.length + if line.isEnded then 1 else 0
  giveBack 0 (sizes.foldl (· + ·) 0)
  return if outcome.status == 0 then status else outcome.status

def program : Sandbox.Program := fun name args => do
  match Options.readFrom (switches ++ explanations) true args with
  | .error message =>
    report name message
    return 1
  | .ok options =>
    if explanations.any fun switch => options.has switch.letter then return 0
    let (options, operands) : Options × List String :=
      if options.has 'e' || options.has 'f' then (options, options.operands)
      else (options.addSwitch 'e' (options.operands.headD ""), options.operands.drop 1)
    if !(options.has 'f') && options.values 'e' == [""] && options.operands.isEmpty then return 1
    match ← scriptParts options with
    | .error message =>
      report name message
      return 4
    | .ok parts =>
      let isExtended := options.has 'E' || options.has 'r'
      match Script.ofText isExtended ("\n".intercalate (parts.map Prod.fst)) with
      | .error flaw =>
        report name (flawText parts flaw)
        return if flaw.isBare then 4 else 1
      | .ok script =>
        match script.missingLabel?, ← openOutputs (outputPaths script) [] with
        | some label, _ =>
          report name ("can't find label for jump to \x60" ++ label ++ "'")
          return 4
        | none, .error message =>
          report name message
          return 4
        | none, .ok streams =>
          let lineMark := if options.has 'z' then '\x00' else '\n'
          let session : Session := {
            script, isQuiet := options.has 'n', lineMark, left := [], streams }
          match options.value? 'i' with
          | some suffix => editInPlace name suffix session operands 0
          | none => runOperands name session (options.has 's') operands

end InfoFlow.Editor
