import InfoFlow.Sandbox.Decimal
import InfoFlow.Sandbox.Editor.Script

namespace InfoFlow.Editor

open Sandbox

/-- A text that is read. -/
structure Reading where
  isExtended : Bool
  total : Nat
  left : List Char

/-- Why a text is no script, and how far it was read. -/
structure Flaw where
  position : Nat
  message : String
  /-- Whether the place is not told. -/
  isBare : Bool := false

abbrev Reader := StateT Reading (Except Flaw)

namespace Reader

def peek : Reader (Option Char) :=
  return (← get).left.head?

def position : Reader Nat := do
  let reading ← get
  return reading.total - reading.left.length

def fail {α : Type} (message : String) : Reader α := do
  throw { position := ← position, message }

def next : Reader (Option Char) := do
  let reading ← get
  set { reading with left := reading.left.drop 1 }
  return reading.left.head?

def skipWhile (test : Char → Bool) : Reader Unit :=
  modify fun reading => { reading with left := reading.left.dropWhile test }

def isBlank (c : Char) : Bool :=
  c == ' ' || c == '\t'

def takeWhile (test : Char → Bool) : Reader (List Char) := do
  let reading ← get
  let taken := reading.left.takeWhile test
  set { reading with left := reading.left.drop taken.length }
  return taken

def number : Reader Nat :=
  return Decimal.digitsValue 10 (← takeWhile Char.isDigit)

/-- The end of the brackets that begin a text. -/
def setLength (text : List Char) : Nat :=
  let start := (text.takeWhile (· == '^')).take 1
  let start := start ++ ((text.drop start.length).takeWhile (· == ']')).take 1
  start.length + inner (text.length + 1) (text.drop start.length)
where
  inner : Nat → List Char → Nat
    | 0, _ | _, [] => 0
    | _, ']' :: _ => 1
    | fuel + 1, '[' :: c :: rest =>
      if c == ':' || c == '.' || c == '=' then
        let body := named c fuel rest
        2 + body + inner fuel (rest.drop body)
      else 1 + inner fuel (c :: rest)
    | fuel + 1, _ :: rest => 1 + inner fuel rest
  named (mark : Char) : Nat → List Char → Nat
    | 0, _ | _, [] => 0
    | fuel + 1, c :: rest =>
      if c == mark && rest.head? == some ']' then 2 else 1 + named mark fuel rest

/-- Reads up to a mark on the same line. A backslash takes away the meaning of the mark behind it,
    and of the end of a line. In an expression the mark may also stand in square brackets. -/
def upTo (mark : Char) (isRegex : Bool) : Nat → Reader (Option (List Char))
  | 0 => return none
  | fuel + 1 => do
    if (← peek) == some '\n' && mark != '\n' then return none
    match ← next with
    | none => return none
    | some c =>
      if c == mark then return some []
      else if c == '\\' then
        match ← next with
        | none => return none
        | some d =>
          let kept : List Char :=
            if d == mark then (if !isRegex && d == '&' then ['\\', d] else [d])
            else if d == 'n' && isRegex then ['\n']
            else if d == '\n' && isRegex then ['\n']
            else ['\\', d]
          return (← upTo mark isRegex fuel).map (kept ++ ·)
      else if c == '[' && isRegex then
        let left := (← get).left
        let length := setLength left
        let taken := left.take length
        let line := left.takeWhile (· != '\n')
        if taken.getLast? == some ']' && length ≤ line.length then
          modify fun reading => { reading with left := left.drop length }
          return (← upTo mark isRegex fuel).map fun rest => '[' :: taken ++ rest
        else
          modify fun reading => { reading with left := left.drop line.length }
          return none
      else return (← upTo mark isRegex fuel).map (c :: ·)

def delimited (mark : Char) (isRegex : Bool) : Reader (Option (List Char)) := do
  upTo mark isRegex ((← get).left.length + 1)

/-- The byte that digits of a base behind a letter stand for, and what follows them. -/
def codeAt? (c : Char) (rest : List Char) : Option (Char × List Char) :=
  let code (base count : Nat) : Option (Char × List Char) :=
    let digits := (rest.take count).takeWhile fun c => (Decimal.digitValue? base c).isSome
    if digits.isEmpty then none
    else some (Char.ofNat (Decimal.digitsValue base digits % 256), rest.drop digits.length)
  match c with
  | 'x' => code 16 2
  | 'o' => code 8 3
  | 'd' => code 10 3
  | _ => none

/-- The characters that letters behind a backslash stand for. -/
def escapes : List (Char × Char) :=
  [('n', '\n'), ('t', '\t'), ('a', '\x07'), ('f', '\x0c'), ('r', '\r'), ('v', '\x0b')]

/-- An expression in which bytes given by digits stand for themselves. -/
def withCodes : Nat → List Char → List Char
  | 0, _ | _, [] => []
  | fuel + 1, '\\' :: c :: rest =>
    match codeAt? c rest with
    | some (d, rest) =>
      (if d.isAlphanum then [d] else ['\\', d]) ++ withCodes fuel rest
    | none => '\\' :: c :: withCodes fuel rest
  | fuel + 1, c :: rest => c :: withCodes fuel rest

def searchOf (text : List Char) (isCaseless hasLines : Bool) : Reader Search := do
  if text.isEmpty then return { regex := none, isCaseless, hasLines }
  else
    let isExtended := (← get).isExtended
    let style : Regex.Style := {
      isExtended, escapes
      atFront := if isExtended then .refused else .literal
      isStrict := !isExtended, keepsBraces := false, keepsBracket := false
      refusesBareClass := true }
    match Regex.ofText style (withCodes text.length text) with
    | .ok regex => return { regex := some regex, isCaseless, hasLines }
    | .error .bareClass => throw ⟨← position, Regex.Flaw.bareClass.message, true⟩
    | .error flaw => fail flaw.message

/-- The letters behind an expression that is an address. -/
def searchFlags : Reader (Bool × Bool) := do
  let letters ← takeWhile fun c => c == 'I' || c == 'M'
  return (letters.contains 'I', letters.contains 'M')

def addressAt : Reader (Option Address) := do
  match ← peek with
  | some '$' =>
    let _ ← next
    return some .last
  | some '/' =>
    let _ ← next
    search '/'
  | some '\\' =>
    let _ ← next
    match ← next with
    | some mark => search mark
    | none => fail "unterminated address regex"
  | some c =>
    if c.isDigit then
      let n ← number
      skipWhile isBlank
      if (← peek) == some '~' then
        let _ ← next
        return some (.step n (← number))
      else return some (.line n)
    else return none
  | none => return none
where
  search (mark : Char) : Reader (Option Address) := do
    match ← delimited mark true with
    | none => fail "unterminated address regex"
    | some text =>
      let (isCaseless, hasLines) ← searchFlags
      return some (.search (← searchOf text isCaseless hasLines))

def guardAt : Reader Guard := do
  match ← addressAt with
  | none =>
    match ← peek with
    | some c =>
      if c == '+' || c == '~' then
        let _ ← next
        if (← peek).any Char.isDigit then
          let _ ← next
          fail "invalid usage of +N or ~N as first address"
        else fail ("unknown command: \x60" ++ String.singleton c ++ "'")
      else return .always
    | none => return .always
  | some first =>
    skipWhile isBlank
    if (← peek) == some ',' then
      let _ ← next
      skipWhile isBlank
      match ← peek with
      | some '+' =>
        let _ ← next
        return .range first (.after (← number))
      | some '~' =>
        let _ ← next
        return .range first (.multiple (← number))
      | _ =>
        match ← addressAt with
        | some second =>
          match first, second with
          | .line 0, .search _ => return .range first (.address second)
          | .line 0, _ => fail "invalid usage of line address 0"
          | _, second => return .range first (.address second)
        | none =>
          let _ ← next
          fail "unexpected \x60,'"
    else
      match first with
      | .line 0 =>
        let _ ← next
        fail "invalid usage of line address 0"
      | first => return .single first

/-- Takes what ends a command. -/
def finish : Reader Unit := do
  skipWhile fun c => isBlank c || c == '\r'
  match ← peek with
  | none | some '\x7d' | some '#' => return
  | some c =>
    let _ ← next
    if c != '\n' && c != ';' then fail "extra characters after command"

/-- The rest of a line. -/
def restOfLine : Reader String := do
  let text ← takeWhile (· != '\n')
  let _ ← next
  return String.ofList text

def fileName : Reader String := do
  skipWhile isBlank
  let name ← restOfLine
  if name.isEmpty then fail "missing filename in r/R/w/W commands" else return name

def labelName : Reader String := do
  skipWhile isBlank
  return String.ofList (← takeWhile fun c => !Decimal.isSpace c && c != ';' && c != '\x7d')

/-- Reads a text up to a line end that no backslash stands before. -/
def bodyText : Nat → Reader (List Char)
  | 0 => return []
  | fuel + 1 => do
    match ← next with
    | none | some '\n' => return []
    | some '\\' =>
      match ← next with
      | none => return []
      | some c =>
        match codeAt? c (← get).left with
        | some (d, left) =>
          modify fun reading => { reading with left }
          return d :: (← bodyText fuel)
        | none => return (escapes.lookup c).getD c :: (← bodyText fuel)
    | some c => return c :: (← bodyText fuel)

/-- Reads the text of a command that writes one. -/
def textOf : Reader String := do
  skipWhile isBlank
  match ← peek with
  | none => fail "expected \\ after \x60a', \x60c' or \x60i'"
  | some '\\' =>
    let _ ← next
    match (← get).left with
    | [] => return ""
    | left =>
      let after := left.dropWhile isBlank
      if after.head? == some '\n' then
        modify fun reading => { reading with left := after.drop 1 }
      return String.ofList (← bodyText ((← get).left.length + 1)) ++ "\n"
  | some _ => return String.ofList (← bodyText ((← get).left.length + 1)) ++ "\n"

/-- The parts of what takes the place of a match. -/
def replacementParts : Nat → List Char → List ReplacementPart
  | 0, _ | _, [] => []
  | fuel + 1, '&' :: rest => .group 0 :: replacementParts fuel rest
  | fuel + 1, '\\' :: c :: rest =>
    let changes : List (Char × CaseChange) :=
      [('U', .upper), ('L', .lower), ('u', .upperNext), ('l', .lowerNext), ('E', .none)]
    if c.isDigit then .group (c.toNat - 48) :: replacementParts fuel rest
    else
      match changes.lookup c, codeAt? c rest with
      | some change, _ => .change change :: replacementParts fuel rest
      | none, some (d, rest) => .text [d] :: replacementParts fuel rest
      | none, none => .text [(escapes.lookup c).getD c] :: replacementParts fuel rest
  | fuel + 1, c :: rest =>
    let taken := rest.takeWhile fun c => c != '&' && c != '\\'
    .text (c :: taken) :: replacementParts fuel (rest.drop taken.length)

/-- The letters behind a substitution, and whether lines and case count. -/
def substitutionFlags : Nat → Substitution → Bool × Bool → Bool →
    Reader (Substitution × Bool × Bool)
  | 0, found, marks, _ => return (found, marks)
  | fuel + 1, found, marks, hasNumber => do
    match ← peek with
    | none => return (found, marks)
    | some c =>
      if c.isDigit then
        let n ← number
        if hasNumber then fail "multiple number options to \x60s' command"
        else if n == 0 then fail "number option to \x60s' command may not be zero"
        else substitutionFlags fuel { found with first := n } marks true
      else if c == '\x7d' || c == '#' then return (found, marks)
      else
        let _ ← next
        match c with
        | 'g' =>
          if found.isGlobal then fail "multiple \x60g' options to \x60s' command"
          else substitutionFlags fuel { found with isGlobal := true } marks hasNumber
        | 'p' =>
          if found.prints then fail "multiple \x60p' options to \x60s' command"
          else substitutionFlags fuel { found with prints := true } marks hasNumber
        | 'i' | 'I' => substitutionFlags fuel found (true, marks.2) hasNumber
        | 'm' | 'M' => substitutionFlags fuel found (marks.1, true) hasNumber
        | 'e' => substitutionFlags fuel found marks hasNumber
        | 'w' => return ({ found with writesTo := some (← fileName) }, marks)
        | '\n' | ';' => return (found, marks)
        | c =>
          if isBlank c || c == '\r' then substitutionFlags fuel found marks hasNumber
          else fail "unknown option to \x60s'"

/-- The highest group that is referred to. -/
def highestGroup (parts : List ReplacementPart) : Nat :=
  parts.foldl (fun n part => match part with | .group m => max n m | _ => n) 0

def substitution : Reader Act := do
  let unterminated {α : Type} : Reader α := fail "unterminated \x60s' command"
  let some mark ← next | unterminated
  let some pattern ← delimited mark true | unterminated
  let some new ← delimited mark false | unterminated
  let parts := replacementParts new.length new
  let empty : Substitution := { search := { regex := none }, replacement := parts }
  let fuel := (← get).left.length + 1
  let (found, isCaseless, hasLines) ← substitutionFlags fuel empty (false, false) false
  let search ← searchOf pattern isCaseless hasLines
  let highest := highestGroup parts
  if search.regex.any fun regex => regex.groupCount < highest then
    fail ("invalid reference \\" ++ toString highest ++ " on \x60s' command's RHS")
  else return .substitute { found with search }

/-- The characters of a list in which a backslash escapes. -/
def plainCharacters : Nat → List Char → List Char
  | 0, _ | _, [] => []
  | fuel + 1, '\\' :: c :: rest => (escapes.lookup c).getD c :: plainCharacters fuel rest
  | fuel + 1, c :: rest => c :: plainCharacters fuel rest

def translation : Reader Act := do
  let unterminated {α : Type} : Reader α := fail "unterminated \x60y' command"
  let some mark ← next | unterminated
  let some old ← delimited mark false | unterminated
  let some new ← delimited mark false | unterminated
  let old := plainCharacters old.length old
  let new := plainCharacters new.length new
  if old.length != new.length then fail "strings for \x60y' command are different lengths"
  else
    finish
    return .translate (old.zip new)

/-- The commands that are a letter and nothing else. -/
def plain : List (Char × Act) := [
  ('=', .number), ('d', .delete), ('D', .deleteLine), ('g', .get), ('G', .getAppend),
  ('h', .hold), ('H', .holdAppend), ('x', .exchange), ('n', .next), ('N', .nextAppend),
  ('p', .print), ('P', .printLine), ('z', .empty), ('F', .name)]

/-- Reads the command behind an address. -/
def act (guard : Guard) (depth : Nat) : Reader Act := do
  match ← next with
  | none => fail "missing command"
  | some c =>
    let finished (act : Act) : Reader Act := do
      finish
      return act
    let hasGuard := match guard with | .always => false | _ => true
    match plain.lookup c with
    | some act => finished act
    | none =>
      match c with
      | '\x7b' => return .blockStart
      | '\x7d' =>
        if depth == 0 then fail "unexpected \x60\x7d'"
        else if hasGuard then fail "\x7d doesn't want any addresses"
        else finished .blockEnd
      | '#' =>
        if hasGuard then fail "comments don't accept any addresses"
        else
          let _ ← restOfLine
          return .nothing
      | ':' =>
        if hasGuard then fail ": doesn't want any addresses"
        else
          let label ← labelName
          if label.isEmpty then fail "\":\" lacks a label"
          else
            skipWhile isBlank
            if (← peek) == some ';' || (← peek) == some '\n' then
              let _ ← next
            return .label label
      | 'b' | 't' | 'T' =>
        let label ← labelName
        let jump : Jump :=
          if c == 'b' then .always else if c == 't' then .ifReplaced else .unlessReplaced
        finished (.jump jump (if label.isEmpty then none else some label))
      | 'a' => return .append (← textOf)
      | 'i' => return .insert (← textOf)
      | 'c' => return .change (← textOf)
      | 's' => substitution
      | 'y' => translation
      | 'r' => return .readFile (← fileName)
      | 'R' => return .readLine (← fileName)
      | 'w' => return .writeFile (← fileName) false
      | 'W' => return .writeFile (← fileName) true
      | 'q' | 'Q' =>
        skipWhile isBlank
        let status ← number
        finished (.quit (status % 256) (c == 'q'))
      | 'l' | 'L' =>
        skipWhile isBlank
        let digits ← takeWhile Char.isDigit
        finished (.reveal (if digits.isEmpty then none else some (Decimal.digitsValue 10 digits)))
      | 'e' | 'v' =>
        let _ ← restOfLine
        return .nothing
      | c => fail ("unknown command: \x60" ++ String.singleton c ++ "'")

/-- Reads commands to the end. Each step passes over a character at least, so the length of the text
    is fuel enough. -/
def commands : Nat → Nat → Reader (List Command)
  | 0, _ => return []
  | fuel + 1, depth => do
    skipWhile fun c => Decimal.isSpace c || c == ';'
    if (← peek).isNone then
      if depth > 0 then throw { position := 0, message := "unmatched \x60\x7b'" } else return []
    else
      let guard ← guardAt
      skipWhile isBlank
      let isNegated := (← peek) == some '!'
      if isNegated then
        let _ ← next
        skipWhile isBlank
        if (← peek) == some '!' then
          let _ ← next
          fail "multiple \x60!'s"
      let found ← act guard depth
      let depth :=
        match found with
        | .blockStart => depth + 1
        | .blockEnd => depth - 1
        | _ => depth
      return { guard, isNegated, act := found } :: (← commands fuel depth)

end Reader

/-- The script that a text is. -/
def Script.ofText (isExtended : Bool) (text : String) : Except Flaw Script := do
  let chars := text.toList
  let reading : Reading := { isExtended, total := chars.length, left := chars }
  return (← (Reader.commands (chars.length + 1) 0).run reading).1.toArray

/-- The first label that is jumped to and not there. -/
def Script.missingLabel? (script : Script) : Option String :=
  script.toList.findSome? fun command =>
    match command.act with
    | .jump _ (some label) =>
      let isThere := script.any fun command =>
        match command.act with | .label name => name == label | _ => false
      if isThere then none else some label
    | _ => none

end InfoFlow.Editor
