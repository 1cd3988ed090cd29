import InfoFlow.Sandbox.Utility.Reading

namespace InfoFlow.Sandbox

/-- A character as it is shown where it could not be seen. -/
def visible (c : Char) : String :=
  let n := c.toNat
  let shown (n : Nat) : String :=
    if n < 32 then "^" ++ String.singleton (Char.ofNat (n + 64))
    else if n == 127 then "^?"
    else String.singleton (Char.ofNat n)
  if c == '\n' || c == '\t' then String.singleton c
  else if n ≥ 128 then "M-" ++ shown (n - 128)
  else shown n

/-- The characters of a line as they are shown. A carriage return at the end of a line can be seen
    if ends can. -/
def decoratedChars (options : Options) : List Char → String
  | [] => ""
  | '\r' :: '\n' :: rest =>
    if options.has 'E' then "^M$\n" ++ decoratedChars options rest
    else (if options.has 'v' then "^M" else "\r") ++ "\n" ++ decoratedChars options rest
  | c :: rest =>
    let text :=
      if c == '\n' then (if options.has 'E' then "$\n" else "\n")
      else if c == '\t' then (if options.has 'T' then "^I" else "\t")
      else if options.has 'v' then visible c
      else String.singleton c
    text ++ decoratedChars options rest

/-- Numbers lines from a number on; of neighbouring blank lines one may be kept. -/
def decorated (options : Options) : Nat → Bool → List String → String
  | _, _, [] => ""
  | n, afterBlank, line :: rest =>
    let isBlank := line == "\n"
    if options.has 's' && isBlank && afterBlank then decorated options n true rest
    else
      let isNumbered := if options.has 'b' then !isBlank else options.has 'n'
      let label := if isNumbered then column 6 n ++ "\t" else ""
      label ++ decoratedChars options line.toList ++
        decorated options (if isNumbered then n + 1 else n) isBlank rest

/-- Whether a file is what the output leads to, and what would be read of it is what was
    written. -/
def Machine.writesTo (machine : Machine) (path : String) : Bool :=
  let known := if path == "-" then none else (machine.tree.find machine.workDir
    (Raw.toText path)).toOption
  match known, machine.channel? 1 with
  | some (place, .file document _), some (.file target position atEnd) =>
    place == target && (if atEnd then 0 < document.size else 0 < position)
  | _, _ => false

/-- The document of an operand, or a report of what prevents it from being read. -/
def documentFor (name operand : String) : Run (Option ByteArray) := do
  if operand == "-" then return some (← readStream 0)
  match ← contents operand with
  | .ok document => return some document
  | .error fault =>
    report name (shownName operand ++ ": " ++ faultText fault)
    return none

def concatenate : Program :=
  Usage.program {
    switches := [⟨'b', ["number-nonblank"], .never⟩, ⟨'n', ["number"], .never⟩,
      ⟨'s', ["squeeze-blank"], .never⟩, ⟨'v', ["show-nonprinting"], .never⟩,
      ⟨'E', ["show-ends"], .never⟩, ⟨'T', ["show-tabs"], .never⟩, ⟨'A', ["show-all"], .never⟩,
      ⟨'e', [], .never⟩, ⟨'t', [], .never⟩, ⟨'u', [], .never⟩] } fun name options => do
    let add (letter : Char) (more : List Char) (options : Options) : Options :=
      if options.has letter then more.foldl (fun options c => options.addSwitch c "") options
      else options
    let options := add 'A' ['v', 'E', 'T'] (add 'e' ['v', 'E'] (add 't' ['v', 'T'] options))
    let isDecorated := ['b', 'E', 'n', 's', 'T', 'v'].any options.has
    let operands := if options.operands.isEmpty then ["-"] else options.operands
    let (text, isGood) ← operands.foldlM (fun (text, isGood) operand => do
      if (← get).writesTo operand then
        report name (shownName operand ++ ": input file is output file")
        return (text, false)
      match ← documentFor name operand with
      | none => return (text, false)
      | some document =>
        if isDecorated then return (text ++ Raw.ofBytes document, isGood)
        else
          emit 1 document
          return (text, isGood)) ("", true)
    say (decorated options 1 false (endedLines text))
    return statusOf isGood

/-- Copies the input to the output and to files. -/
def copyInput : Program :=
  Usage.program {
    switches := [⟨'a', ["append"], .never⟩, ⟨'i', ["ignore-interrupts"], .never⟩,
      ⟨'p', [], .never⟩, ⟨'\x03', ["output-error"], .maybe⟩] } fun name options => do
    let document ← readStream 0
    emit 1 document
    let opening : Opening := if options.has 'a' then .atEnd else .emptied
    let isGood ← options.operands.foldlM (fun isGood path => do
      match (← get).openForOutput 3 opening path with
      | .ok machine =>
        set machine
        emit 3 document
        modify (·.detach 3)
        return isGood
      | .error fault =>
        report name (shownName path ++ ": " ++ faultText fault)
        return false) true
    return statusOf isGood

/-- Cuts a text at each place where a word stands. The word stays at the end of the part before it,
    or at the start of the part after it. -/
def recordsBy (word : List Char) (staysAtStart : Bool) (held : List Char) :
    Nat → List Char → List (List Char)
  | 0, _ => []
  | _, [] => if held.isEmpty then [] else [held.reverse]
  | fuel + 1, c :: rest =>
    if word.isPrefixOf (c :: rest) then
      let after := (c :: rest).drop word.length
      if staysAtStart then
        (if held.isEmpty then [] else [held.reverse]) ++
          recordsBy word staysAtStart word.reverse fuel after
      else (held.reverse ++ word) :: recordsBy word staysAtStart [] fuel after
    else recordsBy word staysAtStart (c :: held) fuel rest

def reverseLines : Program :=
  Usage.program {
    switches := [⟨'b', ["before"], .never⟩, ⟨'r', ["regex"], .never⟩,
      ⟨'s', ["separator"], .always⟩] } fun name options => do
    let given := (options.value? 's').getD "\n"
    let word := (if given.isEmpty then "\x00" else given).toList
    let operands := if options.operands.isEmpty then ["-"] else options.operands
    let isGood ← forEach operands fun operand => do
      let read ← if operand == "-" then pure (.ok (← readStream 0)) else contents operand
      match read with
      | .ok document =>
        let text := (Raw.ofBytes document).toList
        let records := recordsBy word (options.has 'b') [] (text.length + 1) text
        say (String.join (records.reverse.map String.ofList))
        return true
      | .error .isADirectory =>
        report name (shownName operand ++ ": read error: Invalid argument")
        return false
      | .error fault =>
        report name ("failed to open " ++ quotedName operand ++ " for reading: " ++
          faultText fault)
        return false
    return statusOf isGood
where
  /-- Does something for each operand, and tells whether all went well. -/
  forEach (operands : List String) (body : String → Run Bool) : Run Bool :=
    operands.foldlM (fun isGood operand => return (← body operand) && isGood) true

def reverseLetters : Program :=
  Usage.program {} fun name options => do
    let operands := if options.operands.isEmpty then ["-"] else options.operands
    let isGood ← operands.foldlM (fun isGood operand => do
      let read ←
        if operand == "-" && options.operands.isEmpty then pure (.ok (← readStream 0))
        else contents operand
      match read with
      | .ok document =>
        say (String.join ((endedLines (Raw.ofBytes document)).map fun line =>
          let chars := line.toList
          if chars.getLast? == some '\n' then String.ofList (chars.dropLast.reverse ++ ['\n'])
          else String.ofList chars.reverse))
        return isGood
      | .error fault =>
        report name ("cannot open " ++ operand ++ ": " ++ faultText fault)
        return false) true
    return statusOf isGood

/-- The utilities of this module. -/
def lineUtilities : List (String × Program) := [
  ("cat", concatenate),
  ("tac", reverseLines),
  ("rev", reverseLetters),
  ("tee", copyInput)]

end InfoFlow.Sandbox
