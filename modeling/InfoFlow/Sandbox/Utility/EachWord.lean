import InfoFlow.Sandbox.Utility.Files

namespace InfoFlow.Sandbox

namespace EachWord

/-- How the words that are read are handed on. -/
structure Plan where
  command : List String
  /-- The text in the command that each word takes the place of. -/
  mark : Option String := none
  /-- How many words are handed on together. -/
  wordCount : Option Nat := none
  /-- How many lines are handed on together. -/
  lineCount : Option Nat := none
  /-- How long a command may be. -/
  size : Option Nat := none
  /-- Whether it is a fault if fewer words fit than are handed on together. -/
  refusesRest : Bool := false
  /-- The word that ends the words. -/
  last : Option String := none
  /-- The character between the words, if there is only one. -/
  delimiter : Option Char := none
  runsEmpty : Bool := true
  tells : Bool := false
  asks : Bool := false

/-- The characters of words, each with an end. -/
def extent (words : List String) : Nat :=
  words.foldl (fun n word => n + word.length + 1) 0

/-- A word that was read, and whether a line ends after it. -/
structure Item where
  word : String
  endsLine : Bool

/-- What the characters that follow belong to. -/
inductive Place where
  | blanks
  | word
  | quotes (mark : Char)
  | backslash
deriving DecidableEq

/-- What is wrong with a quote that is not closed. -/
def unclosed (mark : Char) : String :=
  "unmatched " ++ (if mark == '"' then "double" else "single") ++
    " quote; by default quotes are special to xargs unless you use the -0 option"

def isBlank (c : Char) : Bool :=
  c == ' ' || c == '\t'

def isSpace (c : Char) : Bool :=
  isBlank c || c == '\n' || c == '\x0b' || c == '\x0c' || c == '\r'

/-- The longest word that can be read. -/
def Plan.wordLimit (plan : Plan) : Option Nat :=
  plan.size.map fun size => size - (if plan.mark.isSome then 0 else extent plan.command) - 1

/-- Reads words, of which one may have begun, up to a fault. `isFirst` tells whether the word is the
    first one of its line, and `before` what was read last. -/
def Plan.items (plan : Plan) (place : Place) (held : List Char) (isFirst : Bool)
    (before : Option Char) : List Char → List Item × Option String
  | [] =>
    if held.isEmpty then ([], none)
    else
      match place with
      | .quotes mark => ([], some (unclosed mark))
      | _ =>
        let word := String.ofList held.reverse
        if isFirst && plan.last == some word then ([], none) else ([⟨word, true⟩], none)
  | c :: rest =>
    let next (place : Place) (held : List Char) (isFirst : Bool) : List Item × Option String :=
      plan.items place held isFirst (some c) rest
    let add (place : Place) : List Item × Option String :=
      if plan.wordLimit.any (held.length ≥ ·) then ([], some "argument line too long")
      else next place (c :: held) isFirst
    match place with
    | .quotes mark =>
      if c == '\n' then ([], some (unclosed mark))
      else if c == mark then next .word held isFirst
      else add (.quotes mark)
    | .backslash => add .word
    | place =>
      if place == .blanks && isSpace c then next .blanks held isFirst
      else if c == '\n' || plan.mark.isNone && isBlank c then
        let word := String.ofList held.reverse
        if plan.last == some word then ([], none)
        else
          let endsLine := c == '\n' && !before.any isBlank
          let (items, fault) := next .blanks [] (c == '\n')
          (⟨word, endsLine⟩ :: items, fault)
      else if c == '\\' then next .backslash held isFirst
      else if c == '\'' || c == '"' then next (.quotes c) held isFirst
      else add .word

/-- The words between delimiters. -/
def parts (delimiter : Char) (text : String) : List Item :=
  let parts := Raw.parts (· == delimiter) text
  let parts := if parts.getLast? == some "" then parts.dropLast else parts
  parts.map (⟨·, true⟩)

/-- The words of a text, up to a fault. -/
def Plan.read (plan : Plan) (text : String) : List Item × Option String :=
  match plan.delimiter with
  | some c => (parts c text, none)
  | none => plan.items .blanks [] true none text.toList

/-- The words that wait for a command. -/
structure Waiting where
  words : List String := []
  lines : Nat := 0

/-- The commands for words, up to a fault. -/
def Plan.group (plan : Plan) (waiting : Waiting) :
    List Item → List (List String) × Option String
  | [] => (if waiting.words.isEmpty then [] else [waiting.words.reverse], none)
  | item :: rest =>
    let size := extent plan.command + extent waiting.words + item.word.length + 1
    let isFull := plan.size.any (size > ·)
    if isFull && waiting.words.isEmpty then
      ([], some "cannot fit single argument within argument list size limit")
    else if isFull && plan.refusesRest && (plan.wordCount.isSome || plan.lineCount.isSome) then
      ([], some "argument list too long")
    else
      let runsFirst := isFull || plan.wordCount == some waiting.words.length
      let first := if runsFirst then [waiting.words.reverse] else []
      let words := item.word :: if runsFirst then [] else waiting.words
      let lines := waiting.lines + if item.endsLine then 1 else 0
      let runsLast := plan.lineCount.any (· ≤ lines)
      let last := if runsLast then [words.reverse] else []
      let (groups, fault) :=
        plan.group (if runsLast then {} else { words, lines }) rest
      (first ++ last ++ groups, fault)

/-- A command in which a word takes the place of the mark. -/
def Plan.replaced (plan : Plan) (mark word : String) : List String :=
  if mark.isEmpty then plan.command else plan.command.map (·.replace mark word)

/-- The commands that are run, up to a fault. -/
def Plan.commands (plan : Plan) (text : String) : List (List String) × Option String :=
  let (items, fault) := plan.read text
  match plan.mark with
  | some mark => (items.map fun item => plan.replaced mark item.word, fault)
  | none =>
    let (groups, flaw) := plan.group {} items
    let isBare := groups.isEmpty && plan.runsEmpty && flaw.isNone && fault.isNone
    let groups := if isBare then [[]] else groups
    let isBroken := fault.isSome && plan.refusesRest
    let groups := if isBroken then groups.dropLast else groups
    (groups.map (plan.command ++ ·), flaw <|> fault)

/-- Runs commands one after the other, unless one of them stops that. -/
def runAll (launch : Launch) (name : String) (plan : Plan) :
    List (List String) → Nat → Run (Nat × Bool)
  | [], status => return (status, true)
  | words :: rest, status => do
    let program := words.headD ""
    if plan.asks then
      emit 2 (Raw.toBytes program)
      report name "failed to open /dev/tty for reading: No such device or address"
      return (1, false)
    if plan.tells then
      emit 2 (Raw.toBytes (" ".intercalate (words.map argumentWord) ++ "\n"))
    match ← launch words with
    | .error fault =>
      report name (program ++ ": " ++ faultText fault)
      return (if fault == .notFound || fault == .notADirectory then 127 else 126, false)
    | .ok (.signal n) =>
      report name (program ++ ": terminated by signal " ++ toString n)
      return (125, false)
    | .ok (.code 255) =>
      report name (program ++ ": exited with status 255; aborting")
      return (124, false)
    | .ok (.code 0) => runAll launch name plan rest status
    | .ok (.code _) => runAll launch name plan rest 123

/-- Why switches cannot be used, and whether it is told how the program is used. -/
structure Flaw where
  message : String
  explains : Bool := true

/-- A plan that is being made, with the warnings that were given. -/
abbrev Planning := ExceptT Flaw (StateM (List String))

def warn (option offending : String) : Planning Unit :=
  modify fun warnings => warnings ++ ["warning: options " ++ offending ++ " and " ++ option ++
    " are mutually exclusive, ignoring previous " ++ offending ++ " value"]

/-- The number of a switch. -/
def number (letter : Char) (low : Nat) (text : String) : Planning Nat := do
  let signed := if text.startsWith "+" then (text.drop 1).toString else text
  match signed.toInt? with
  | none =>
    throw ⟨"invalid number \"" ++ text ++ "\" for -" ++ String.singleton letter ++ " option", true⟩
  | some n =>
    if n < low then
      throw ⟨"value " ++ text ++ " for -" ++ String.singleton letter ++ " option should be >= " ++
        toString low, true⟩
    return n.toNat

/-- The delimiter that a text stands for. -/
def delimiterOf (text : String) : Planning Char := do
  let plain := "in input delimiter specification"
  match text.toList with
  | [c] => return c
  | '\\' :: 'x' :: digits =>
    if digits.isEmpty || digits.any fun c => (Decimal.digitValue? 16 c).isNone then
      throw ⟨"Invalid escape sequence " ++ text ++ " " ++ plain ++ ".", false⟩
    return Char.ofNat (Decimal.digitsValue 16 digits % 256)
  | '\\' :: c :: rest =>
    let named := [('a', '\x07'), ('b', '\x08'), ('f', '\x0c'), ('n', '\n'), ('r', '\r'),
      ('t', '\t'), ('v', '\x0b'), ('\\', '\\')].lookup c
    match named with
    | some d => return d
    | none =>
      if (c :: rest).all fun c => '0' ≤ c && c ≤ '7' then
        return Char.ofNat (Decimal.digitsValue 8 (c :: rest) % 256)
      throw ⟨"Invalid escape sequence " ++ text ++ " " ++ plain ++ ".", false⟩
  | _ =>
    throw ⟨"Invalid input delimiter specification " ++ text ++ ": the delimiter must be either " ++
      "a single character or an escape sequence starting with \\.", false⟩

/-- A plan with a switch. -/
def Plan.add (plan : Plan) (letter : Char) (value : String) : Planning Plan := do
  let withoutMark (option : String) (plan : Plan) : Planning Plan := do
    if plan.mark.isSome then warn option "--replace"
    return { plan with mark := none }
  let withoutWords (option : String) (plan : Plan) : Planning Plan := do
    if plan.wordCount.isSome then warn option "--max-args"
    return { plan with wordCount := none }
  let withoutLines (option : String) (plan : Plan) : Planning Plan := do
    if plan.lineCount.isSome then warn option "--max-lines"
    return { plan with lineCount := none }
  match letter with
  | '0' => return { plan with delimiter := some '\x00' }
  | 'd' => return { plan with delimiter := some (← delimiterOf value) }
  | 'I' | 'i' =>
    let option := "--replace/-I/-i"
    let plan ← withoutLines option (← withoutWords option plan)
    return { plan with mark := some (if letter == 'i' && value.isEmpty then "\x7b\x7d" else value) }
  | 'L' | 'l' =>
    let option := if letter == 'L' then "-L" else "--max-lines/-l"
    let n ← if letter == 'l' && value.isEmpty then pure 1 else number letter 1 value
    let plan ← withoutMark option (← withoutWords option plan)
    return { plan with lineCount := some n }
  | 'n' =>
    let n ← number 'n' 1 value
    let plan ← withoutLines "--max-args/-n" plan
    if n == 1 && plan.mark.isSome then return plan
    let plan ← withoutMark "--max-args/-n" plan
    return { plan with wordCount := some n }
  | 's' =>
    match value.toInt? with
    | some n =>
      if n < 1 then
        modify (· ++ ["value " ++ value ++ " for -s option should be >= 1"])
        return { plan with size := some 1 }
      return { plan with size := some n.toNat }
    | none => return { plan with size := some (← number 's' 1 value) }
  | 'P' =>
    let _ ← number 'P' 0 value
    return plan
  | 'E' | 'e' => return { plan with last := if value.isEmpty then none else some value }
  | 'r' => return { plan with runsEmpty := false }
  | 'x' => return { plan with refusesRest := true }
  | 't' => return { plan with tells := true }
  | 'p' => return { plan with asks := true }
  | _ => return plan

end EachWord

open EachWord in
def startForWords (launch : Launch) : Program :=
  Usage.program {
    switches := [⟨'0', ["null"], .never⟩, ⟨'d', ["delimiter"], .always⟩,
      ⟨'n', ["max-args"], .always⟩, ⟨'I', [], .always⟩, ⟨'i', ["replace"], .maybe⟩,
      ⟨'L', [], .always⟩, ⟨'l', ["max-lines"], .maybe⟩, ⟨'r', ["no-run-if-empty"], .never⟩,
      ⟨'t', ["verbose"], .never⟩, ⟨'p', ["interactive"], .never⟩,
      ⟨'P', ["max-procs"], .always⟩, ⟨'s', ["max-chars"], .always⟩,
      ⟨'a', ["arg-file"], .always⟩, ⟨'E', [], .always⟩, ⟨'e', ["eof"], .maybe⟩,
      ⟨'x', ["exit"], .never⟩, ⟨'\x03', ["process-slot-var"], .always⟩,
      ⟨'\x04', ["show-limits"], .never⟩]
    mixed := false } fun name options => do
    let command := if options.operands.isEmpty then ["echo"] else options.operands
    let planning : Planning Plan :=
      options.switches.foldlM (fun plan (letter, value) => plan.add letter value) { command }
    let (plan, warnings) := planning.run []
    warnings.forM (report name)
    match plan with
    | .error flaw =>
      if flaw.explains then misused name flaw.message else report name flaw.message
      return 1
    | .ok plan =>
      let read ←
        match options.value? 'a' with
        | some path => contents path
        | none => pure (.ok (← readStream 0))
      let text : Except IoFault String :=
        match read with
        | .ok document => .ok (Raw.ofBytes document)
        | .error .isADirectory => .ok ""
        | .error fault => .error fault
      match text with
      | .error fault =>
        report name ("Cannot open input file " ++ quotedName ((options.value? 'a').getD "") ++
          ": " ++ faultText fault)
        return 1
      | .ok text =>
        if plan.size.any (extent plan.command > ·) && plan.mark.isNone then
          report name "cannot fit single argument within argument list size limit"
          return 1
        if let some slot := options.value? '\x03' then
          modify fun machine =>
            { machine with environment := machine.environment.put slot "0" }
        let (commands, fault) := plan.commands text
        let (status, isOver) ← runAll launch name plan commands 0
        match fault, isOver with
        | some message, true =>
          report name message
          return 1
        | _, _ => return status

end InfoFlow.Sandbox
