import InfoFlow.Sandbox.Decimal
import InfoFlow.Sandbox.Pattern
import InfoFlow.Sandbox.Query
import InfoFlow.Sandbox.Utility.Reading

namespace InfoFlow.Sandbox

namespace Search

/-- The switches, of which the words stand for letters. -/
def switches : List Switch := [
  ⟨'G', ["basic-regexp"], .never⟩, ⟨'E', ["extended-regexp"], .never⟩,
  ⟨'F', ["fixed-regexp", "fixed-strings"], .never⟩, ⟨'P', ["perl-regexp"], .never⟩,
  ⟨'A', ["after-context"], .always⟩, ⟨'B', ["before-context"], .always⟩,
  ⟨'C', ["context"], .always⟩, ⟨'\x03', ["binary-files"], .always⟩,
  ⟨'b', ["byte-offset"], .never⟩, ⟨'\x04', ["color", "colour"], .maybe⟩,
  ⟨'c', ["count"], .never⟩, ⟨'D', ["devices"], .always⟩, ⟨'d', ["directories"], .always⟩,
  ⟨'\x05', ["exclude"], .always⟩, ⟨'\x06', ["exclude-from"], .always⟩,
  ⟨'\x07', ["exclude-dir"], .always⟩, ⟨'f', ["file"], .always⟩,
  ⟨'L', ["files-without-match"], .never⟩, ⟨'l', ["files-with-matches"], .never⟩,
  ⟨'\x08', ["group-separator"], .always⟩, ⟨'i', ["ignore-case"], .never⟩,
  ⟨'N', ["no-ignore-case"], .never⟩, ⟨'\x0e', ["include"], .always⟩,
  ⟨'T', ["initial-tab"], .never⟩, ⟨'v', ["invert-match"], .never⟩,
  ⟨'\x0f', ["label"], .always⟩, ⟨'\x10', ["line-buffered"], .never⟩,
  ⟨'n', ["line-number"], .never⟩, ⟨'x', ["line-regexp"], .never⟩,
  ⟨'m', ["max-count"], .always⟩, ⟨'h', ["no-filename"], .never⟩,
  ⟨'\x11', ["no-group-separator"], .never⟩, ⟨'s', ["no-messages"], .never⟩,
  ⟨'Z', ["null"], .never⟩, ⟨'z', ["null-data"], .never⟩, ⟨'o', ["only-matching"], .never⟩,
  ⟨'q', ["quiet", "silent"], .never⟩, ⟨'r', ["recursive"], .never⟩,
  ⟨'R', ["dereference-recursive"], .never⟩, ⟨'e', ["regexp"], .always⟩,
  ⟨'a', ["text"], .never⟩, ⟨'U', ["binary"], .never⟩, ⟨'V', ["version"], .never⟩,
  ⟨'H', ["with-filename"], .never⟩, ⟨'w', ["word-regexp"], .never⟩,
  ⟨'I', [], .never⟩, ⟨'y', [], .never⟩, ⟨'u', [], .never⟩] ++
  "0123456789".toList.map (⟨·, [], .never⟩)

def explain : Run Unit :=
  emit 2 (Raw.toBytes ("Usage: grep [OPTION]... PATTERNS [FILE]...\n" ++
    "Try 'grep --help' for more information.\n"))

/-- How expressions are written. -/
inductive Kind where
  | basic
  | extended
  | fixed
  /-- Like the extended ones, with more classes of characters. -/
  | rich
deriving DecidableEq

def Kind.ofLetter? : Char → Option Kind
  | 'G' => some .basic
  | 'E' => some .extended
  | 'F' => some .fixed
  | 'P' => some .rich
  | _ => none

/-- The kind of the expressions that is asked for. There may be only one. -/
def kindOf (given : Option Kind) (options : Options) : Except String Kind := do
  let kind ← options.switches.foldlM (fun kind (c, _) =>
    match kind, Kind.ofLetter? c with
    | some kind, some other =>
      if kind == other then .ok (some kind) else .error "conflicting matchers specified"
    | kind, other => .ok (kind <|> other)) given
  return kind.getD .basic

/-- How expressions with signs that need no backslash are written. -/
def extendedStyle : Regex.Style where
  isExtended := true
  atFront := .skipped
  refusesBareClass := true

def style? : Kind → Option Regex.Style
  | .fixed => none
  | .extended => some extendedStyle
  | .rich => some { extendedStyle with knowsDigits := true }
  | .basic => some { isExtended := false, keepsBraces := false, refusesBareClass := true }

def regexOf (kind : Kind) (text : List Char) : Except Regex.Flaw Regex :=
  match style? kind with
  | none => .ok (text.foldr (fun c regex => .sequence (.one (.single c)) regex) .empty)
  | some style => Regex.ofText style text

/-- What is told of the signs in some expressions that have no meaning. -/
def warnings (kind : Kind) (texts : List String) : List String :=
  if kind != .extended then []
  else texts.flatMap fun text =>
    (Regex.idleSigns extendedStyle text.toList).map fun sign =>
      "warning: " ++ sign ++ " at start of expression"

/-- The texts of the expressions that are given, one on each line, and the operands left. -/
def expressions (name : String) (options : Options) :
    Run (Option (List String × List String)) := do
  let linesOf (s : String) : List String := Raw.parts (· == '\n') s
  let given := (options.values 'e').flatMap linesOf
  let files := options.values 'f'
  let (documents, isGood) ←
    if files.isEmpty then pure ([], true) else readAll name {} files
  if !isGood then return none
  let texts := given ++ documents.flatMap fun (_, document) => Raw.lines (Raw.ofBytes document)
  if !(options.values 'e').isEmpty || !files.isEmpty then return some (texts, options.operands)
  match options.operands with
  | [] =>
    explain
    return none
  | text :: rest => return some (linesOf text, rest)

/-- The number that a text is, with blanks before it. -/
def numberOf? (s : String) : Option Int :=
  let text := s.toList.dropWhile Decimal.isSpace
  let text := match text with | '+' :: c :: rest => if c.isDigit then c :: rest else text | _ => text
  if text.contains '_' then none else (String.ofList text).toInt?

/-- A number of lines that a switch asks for. -/
def extent (options : Options) (letter : Char) : Except String (Option Nat) :=
  match options.value? letter with
  | none => .ok none
  | some s =>
    match numberOf? s with
    | some (.ofNat n) => .ok (some n)
    | _ => .error (s ++ ": invalid context length argument")

/-- The number that the last digits among the switches are. -/
def digits? (options : Options) : Option Nat :=
  let found := (options.switches.reverse.map Prod.fst).dropWhile (!Char.isDigit ·)
  let digits := (found.takeWhile Char.isDigit).reverse
  if digits.isEmpty then none else some (Decimal.digitsValue 10 digits)

/-- The largest number of lines that may be selected. -/
def limitOf (options : Options) : Except String (Option Nat) :=
  match options.value? 'm' with
  | none => .ok none
  | some s =>
    match numberOf? s with
    | some (.ofNat n) => .ok (some n)
    | some _ => .ok none
    | none => .error "invalid max count"

def zerosOf (options : Options) : Except String ZeroUse :=
  options.switches.foldlM (fun zeros (c, value) =>
    match c, value with
    | 'a', _ | '\x03', "text" => .ok .told
    | 'I', _ | '\x03', "without-match" => .ok .passed
    | '\x03', "binary" => .ok .mentioned
    | '\x03', _ => .error "unknown binary-files type"
    | _, _ => .ok zeros) .mentioned

/-- What is asked for, given the expressions. -/
def searchingOf (kind : Kind) (options : Options) (texts : List String) (showsNames : Bool) :
    Except String Searching := do
  let has := options.has
  let near ← extent options 'C'
  let near := near <|> digits? options
  let after ← extent options 'A'
  let before ← extent options 'B'
  let limit ← limitOf options
  let zeros ← zerosOf options
  let regexes ← texts.mapM fun text =>
    match regexOf kind text.toList with
    | .ok regex => .ok regex
    | .error flaw => .error flaw.message
  let gap := (options.switches.reverse.find? fun (c, _) => c == '\x08' || c == '\x11').map
    fun (c, value) => if c == '\x08' then some value else none
  let isCaseless := (options.switches.reverse.find? fun (c, _) => "iyN".toList.contains c).any
    (·.1 != 'N')
  return {
    query := { regexes, isCaseless, wholeWords := has 'w', wholeLine := has 'x' }
    isInverted := has 'v'
    telling :=
      if has 'q' then .nothing
      else if has 'L' || has 'l' then
        .names ((options.switches.reverse.find? fun (c, _) => c == 'L' || c == 'l').any
          (·.1 == 'l'))
      else if has 'c' then .count
      else if has 'o' then .parts
      else .lines
    limit
    before := (before <|> near).getD 0
    after := (after <|> near).getD 0
    gap := if (before <|> after <|> near).isSome then gap.getD (some "--") else none
    showsNames
    showsNumbers := has 'n'
    showsOffsets := has 'b'
    zeros
    ender := if has 'z' then '\x00' else '\n'
    endsNames := has 'Z'
    isAligned := has 'T'
    isColored := options.value? '\x04' == some "always" }

/-- Whether a path, or what follows one of its slashes, matches a pattern. -/
def isNamed (pattern path : String) : Bool :=
  let parts := Raw.parts (· == '/') path
  (List.range parts.length).any fun n =>
    Pattern.isMatch (.ofText pattern) ("/".intercalate (parts.drop n)).toList

/-- Whether a file is to be searched. Of the patterns that match the last one decides, and where
    none does the first one tells what the rest is. -/
def isWanted (options : Options) (path : String) : Bool :=
  let patterns := options.switches.filter fun (c, _) => c == '\x05' || c == '\x0e'
  match patterns.reverse.find? fun (_, pattern) => isNamed pattern path with
  | some (c, _) => c == '\x0e'
  | none => patterns.head?.all (·.1 == '\x05')

/-- Whether the files of a directory are to be searched. -/
def isEntered (options : Options) (path : String) : Bool :=
  !(options.values '\x07').any fun pattern =>
    isNamed (String.ofList (pattern.toList.reverse.dropWhile (· == '/')).reverse) path

/-- The files below a directory that are to be searched, with their paths. -/
def filesBelow (options : Options) (path : String) : Run (List String) := do
  let machine ← get
  match machine.tree.find machine.workDir (Raw.toText path) with
  | .ok (place, .directory _) =>
    let start := if path.toList.getLast? == some '/' then path else path ++ "/"
    let pathTo (steps : List String) : String :=
      start ++ "/".intercalate (steps.map Raw.ofText)
    let found := (machine.tree.below place).filterMap fun
      | (steps, .file ..) => some steps
      | _ => none
    let entered := found.filter fun steps =>
      (List.range (steps.length - 1)).all fun n => isEntered options (pathTo (steps.take (n + 1)))
    if !isEntered options path then return []
    return (entered.mergeSort fun a b => (compare a b).isLE).map pathTo
  | _ => return [path]

/-- How wide numbers are shown where they are aligned: as the size of a file is. -/
def numberWidth (searching : Searching) (path : String) (size : Nat) : Nat :=
  if !searching.isAligned then 0
  else if path == "-" then 19
  else (toString (if searching.showsNumbers then size + 1 else size)).length

/-- What has been found so far, and what is to be told of it. -/
structure Outcome where
  isFound : Bool := false
  isGood : Bool := true
  isUsed : Bool := false
  held : String := ""

/-- Reports something behind what was held. -/
def Outcome.flushed (outcome : Outcome) (name message : String) : Run Outcome := do
  say outcome.held
  report name message
  return { outcome with held := "" }

/-- Searches a document. -/
def searchPath (name : String) (options : Options) (searching : Searching) (isBare : Bool)
    (outcome : Outcome) (path : String) : Run Outcome := do
  let path := if isBare && path.startsWith "./" then (path.drop 2).toString else path
  let shown := if path == "-" then (options.value? '\x0f').getD "(standard input)" else path
  let failed (message : String) : Run Outcome := do
    let outcome := { outcome with isGood := false }
    if options.has 's' then return outcome
    else outcome.flushed name (shown ++ ": " ++ message)
  let tellsMuch := searching.telling == .lines || searching.telling == .parts
  if (← get).isOutput path && tellsMuch && searching.limit.all (1 < ·) then
    failed "input file is also the output"
  else
    match ← if path == "-" then Except.ok <$> readStream 0 else contents path with
    | .error fault =>
      if fault == .isADirectory && options.value? 'd' == some "skip" then return outcome
      let outcome ← failed (faultText fault)
      if fault == .isADirectory && !tellsMuch then
        let selection := searching.tell outcome.isUsed 0 shown ""
        return { outcome with held := outcome.held ++ selection.told }
      else return outcome
    | .ok document =>
      let width := numberWidth searching path document.size
      let selection := searching.tell outcome.isUsed width shown (Raw.ofBytes document)
      if path == "-" then giveBack 0 selection.left
      let outcome := { outcome with
        isFound := outcome.isFound || selection.isFound, isUsed := selection.isUsed
        held := outcome.held ++ selection.told }
      if selection.isMentioned then outcome.flushed name (shown ++ ": binary file matches")
      else return outcome

/-- What is wrong with switches whose values are words. -/
def wordFlaw? (options : Options) : Option (String × Bool × Nat) :=
  match options.value? 'd', options.value? 'D' with
  | some "read", none | some "recurse", none | some "skip", none | none, none => none
  | none, some "read" | none, some "skip" => none
  | none, some _ => some ("unknown devices method", false, 2)
  | some word, _ =>
    if ["read", "recurse", "skip"].contains word then none
    else some ("invalid argument " ++ quotedWord word ++ " for '--directories'\n" ++
      "Valid arguments are:\n  - 'read'\n  - 'recurse'\n  - 'skip'", true, 1)

/-- Searches documents. The status tells whether a line was selected, and whether something was
    wrong. -/
def searchLines (given : Option Kind) : Program := fun name args => do
  match Options.readFrom (switches ++ explanations.take 1) true args with
  | .error message =>
    report name message
    explain
    return 2
  | .ok options =>
    if options.has '\x01' || options.has 'V' then return 0
    if let some (message, explains, status) := wordFlaw? options then
      report name message
      if explains then explain
      return status
    match kindOf given options with
    | .error message =>
      report name message
      return 2
    | .ok kind =>
      if let .error message := searchingOf kind options [] false then
        report name message
        return 2
      let some (texts, operands) ← expressions name options | return 2
      let isDeep := options.has 'r' || options.has 'R' || options.value? 'd' == some "recurse"
      let isBare := isDeep && operands.isEmpty
      let names := if isBare then ["."] else if operands.isEmpty then ["-"] else operands
      let wish := (options.switches.reverse.find? fun (c, _) => c == 'h' || c == 'H').map
        (·.1 == 'H')
      let machine ← get
      let showsNames := wish.getD
        (names.length > 1 || isDeep && names.any machine.leadsToDirectory)
      match searchingOf kind options texts showsNames with
      | .error message =>
        report name message
        return 2
      | .ok searching =>
        for message in warnings kind texts do
          report name message
        if searching.limit == some 0 && searching.telling != .names false then return 1
        let paths ← names.flatMapM fun path => do
          let isOpen := machine.leadsToDirectory path && path != "-"
          if isOpen && isDeep then filesBelow options path
          else if isOpen && !isEntered options path then return []
          else return [path]
        let paths := paths.filter fun path =>
          path == "-" || machine.leadsToDirectory path || isWanted options path
        let outcome ← paths.foldlM (fun outcome path =>
          if outcome.isFound && options.has 'q' then return outcome
          else searchPath name options searching isBare outcome path) {}
        say outcome.held
        return if outcome.isFound && (outcome.isGood || options.has 'q') then 0
          else if outcome.isGood then 1 else 2

end Search

/-- The utilities of this module. -/
def searchUtilities : List (String × Program) := [
  ("grep", Search.searchLines none),
  ("egrep", fun _ => Search.searchLines (some .extended) "grep"),
  ("fgrep", fun _ => Search.searchLines (some .fixed) "grep")]

end InfoFlow.Sandbox
