import InfoFlow.Sandbox.Format
import InfoFlow.Sandbox.Mode
import InfoFlow.Sandbox.Pattern
import InfoFlow.Sandbox.Quoting
import InfoFlow.Sandbox.Regex

namespace InfoFlow.Sandbox

/-- A number that something is compared with. -/
structure Measure where
  order : Ordering
  n : Nat

/-- Reads a number after a sign: a plus asks for more, a hyphen for less. -/
def Measure.ofText? (text : String) : Option Measure :=
  match text.toList with
  | '+' :: rest => (String.ofList rest).toNat?.map (⟨.gt, ·⟩)
  | '-' :: rest => (String.ofList rest).toNat?.map (⟨.lt, ·⟩)
  | _ => text.toNat?.map (⟨.eq, ·⟩)

def Measure.holds (measure : Measure) (n : Nat) : Bool :=
  compare n measure.n == measure.order

/-- How a mode is compared with the one that is asked for. -/
inductive ModeUse where
  | exact
  | all
  | some
deriving DecidableEq

/-- How a command is run for files. -/
structure ExecUse where
  /-- For all files at once, at the end. -/
  isTogether : Bool := false
  /-- In the directory of each file. -/
  isInside : Bool := false
  /-- Only if the answer to a question agrees. -/
  asks : Bool := false
deriving DecidableEq

/-- A part of what is shown of a file. -/
inductive Shown where
  | text (s : List Char)
  | directive (d : Directive)
  /-- Nothing more is shown. -/
  | stop

inductive Finding where
  | always
  | never
  | named (pattern : Pattern) (isCaseless ofWhole : Bool)
  /-- A link that leads to a name like this. -/
  | leading (pattern : Pattern) (isCaseless : Bool)
  | matching (regex : Regex) (isCaseless : Bool)
  /-- One of some kinds; of a link, that of what it leads to may be meant. -/
  | kind (letters : List Char) (ofTarget : Bool)
  | empty
  | sized (measure : Measure) (unit : Nat)
  /-- What has a number, whatever the file. -/
  | fixed (n : Nat) (measure : Measure)
  /-- How many names it has. -/
  | linked (measure : Measure)
  | moded (use : ModeUse) (mode : Nat)
  /-- What is at a path. -/
  | same (path : String)
  /-- What has been changed after what is at a path. -/
  | newer (path : String)
  | mayRun
  | print (ending : String) (target : Option String)
  | format (parts : List Shown) (target : Option String)
  | delete
  | prune
  | quit
  | exec (words : List String) (use : ExecUse)
  | both (first second : Finding)
  | either (first second : Finding)
  /-- One after the other, of which the second one counts. -/
  | after (first second : Finding)
  | negated (inner : Finding)

namespace Finding

/-- The tests and actions that are not put together of others. -/
def leaves : Finding → List Finding
  | .both a b | .either a b | .after a b => a.leaves ++ b.leaves
  | .negated a => a.leaves
  | a => [a]

/-- Whether something is done, so that nothing is printed by itself. -/
def acts (finding : Finding) : Bool :=
  finding.leaves.any fun
    | .print .. | .format .. | .delete | .exec .. => true
    | _ => false

/-- Whether what is in a directory comes before it. -/
def removes (finding : Finding) : Bool :=
  finding.leaves.any fun
    | .delete => true
    | _ => false

/-- The commands that are run at the end. -/
def gathered (finding : Finding) : List (List String × ExecUse) :=
  finding.leaves.filterMap fun
    | .exec words use => if use.isTogether then some (words, use) else none
    | _ => none

/-- The paths of the files that are written to. -/
def targets (finding : Finding) : List String :=
  (finding.leaves.filterMap fun
    | .print _ target | .format _ target => target
    | _ => none).eraseDups

/-- The paths at which something has to be. -/
def required (finding : Finding) : List String :=
  finding.leaves.filterMap fun
    | .same path | .newer path => some path
    | _ => none

end Finding

inductive FindToken where
  | primary (finding : Finding)
  | negation (name : String)
  | opening
  /-- A closing bracket. One that ends what is asked is not written. -/
  | closing (isEnd : Bool)
  /-- An operator, and how strongly it binds. -/
  | binary (name : String) (level : Nat)

/-- Why words ask nothing. -/
inductive FindFlaw where
  | message (text : String)
  /-- A word that is no test or action, after one that is. -/
  | stray (word : String) (before : Option String)

/-- What the words ask beyond tests and actions. -/
structure FindNotes where
  warnings : List String := []
  low : Nat := 0
  high : Option Nat := none
  innerFirst : Bool := false
  followsLinks : Bool := false
  style : String := "findutils-default"

abbrev FindReading := ExceptT FindFlaw (StateM FindNotes)

namespace FindReading

def fail {α : Type} (text : String) : FindReading α :=
  throw (.message text)

def warn (text : String) : FindReading Unit :=
  modify fun notes => { notes with warnings := notes.warnings ++ [text] }

/-- The styles of expressions, and how each of them is written. In the first style a sign of
    repetition needs no backslash. -/
def styles : List (String × Bool × Regex.Style) :=
  let extended : Regex.Style := { isExtended := true }
  let strict : Regex.Style := { isExtended := true, atFront := .refused, keepsBraces := false }
  [("findutils-default", true, .plain), ("ed", false, .plain), ("emacs", true, .plain),
    ("gnu-awk", false, extended), ("grep", false, .plain), ("posix-awk", false, extended),
    ("awk", false, extended), ("posix-basic", false, .plain), ("posix-egrep", false, extended),
    ("egrep", false, extended), ("posix-extended", false, strict),
    ("posix-minimal-basic", false, .plain), ("sed", false, .plain)]

/-- A text in which signs of repetition have lost or got a backslash, outside of square brackets. -/
def withSigns : Nat → List Char → List Char
  | 0, text => text
  | _, [] => []
  | fuel + 1, '\\' :: c :: rest =>
    if "+?\x7b\x7d".toList.contains c then c :: withSigns fuel rest
    else '\\' :: c :: withSigns fuel rest
  | fuel + 1, '[' :: rest =>
    let negation := rest.takeWhile (· == '^') |>.take 1
    let first := (rest.drop negation.length).take 1
    let body := (rest.drop (negation.length + first.length)).takeWhile (· != ']')
    '[' :: negation ++ first ++ body ++
      withSigns fuel (rest.drop (negation.length + first.length + body.length))
  | fuel + 1, c :: rest =>
    if c == '+' || c == '?' then '\\' :: c :: withSigns fuel rest else c :: withSigns fuel rest

def regex (isCaseless : Bool) (text : String) : FindReading Finding := do
  let (isBare, style) := (styles.lookup (← get).style).getD (true, .plain)
  let chars := if isBare then withSigns text.length text.toList else text.toList
  match Regex.ofText style chars with
  | .ok regex => return .matching regex isCaseless
  | .error flaw =>
    fail ("failed to compile regular expression '" ++ text ++ "': " ++ flaw.message)

def sizes : List (Char × Nat) :=
  [('b', 512), ('c', 1), ('w', 2), ('k', 1024), ('M', 1048576), ('G', 1073741824)]

def size (text : String) : FindReading Finding := do
  match text.toList.getLast? with
  | none => fail "invalid null argument to -size"
  | some last =>
    let (unit, body) ←
      match sizes.lookup last with
      | some unit => pure (unit, String.ofList text.toList.dropLast)
      | none =>
        if last.isDigit then pure (512, text)
        else fail ("invalid -size type \x60" ++ String.singleton last ++ "'")
    match Measure.ofText? body with
    | some measure => return .sized measure unit
    | none => fail ("Invalid argument \x60" ++ text ++ "' to -size")

/-- Reads the letters of kinds between commas. -/
def kinds (name : String) : List Char → List Char → FindReading (List Char)
  | known, c :: rest => do
    if !(['b', 'c', 'd', 'p', 'f', 'l', 's'].contains c) then
      fail ("Unknown argument to " ++ name ++ ": " ++ String.singleton c)
    else if known.contains c then
      fail ("Duplicate file type '" ++ String.singleton c ++ "' in the argument list to " ++
        name ++ ".")
    else
      match rest with
      | [] => return (c :: known)
      | ',' :: [] =>
        fail ("Last file type in list argument to " ++ name ++
          " is missing, i.e., list is ending on: ','")
      | ',' :: rest => kinds name (c :: known) rest
      | _ => fail ("Must separate multiple arguments to " ++ name ++ " using: ','")
  | known, [] => return known

def kind (name text : String) : FindReading Finding := do
  if text.isEmpty then
    fail ("Arguments to " ++ name ++ " should contain at least one letter")
  return .kind (← kinds name [] text.toList) (name == "-xtype")

def mode (text : String) : FindReading Finding := do
  let (use, body) : ModeUse × List Char :=
    match text.toList with
    | '-' :: rest => (.all, rest)
    | '/' :: rest => (.some, rest)
    | chars => (.exact, chars)
  match if body.isEmpty then none else Mode.ofText? false 0 0 (String.ofList body) with
  | none => fail ("invalid mode " ++ quotedWord text)
  | some 0 =>
    if use == .some then
      warn ("warning: you have specified a mode pattern " ++ text ++ " (which is equivalent to " ++
        "/000). The meaning of -perm /000 has now been changed to be consistent with -perm -000; " ++
        "that is, while it used to match no files, it now matches all files.")
      return .always
    return .moded use 0
  | some mode => return .moded use mode

/-- The numbers of the users, by their names. -/
def users : List (String × Nat) :=
  [("root", 0), ("daemon", 1), ("bin", 2), ("sys", 3), ("nobody", 65534)]

/-- The owner or the group of files; every file is that of the first user. -/
def owner (name what text : String) : FindReading Finding := do
  if text.isEmpty then fail ("The argument to " ++ name ++ " should not be empty")
  match users.lookup text <|> text.toNat? with
  | some n => return .fixed 0 ⟨.eq, n⟩
  | none => fail (quotedWord text ++ " is not the name of " ++ what)

/-- A number that is the same for all files. The age of a file is none. -/
def number (name text : String) (n : Nat) : FindReading Finding := do
  match Measure.ofText? text with
  | some measure => return .fixed n measure
  | none => fail ("invalid argument \x60" ++ text ++ "' to \x60" ++ name ++ "'")

/-- An age, of which only whole parts count. A new file is in its first part. -/
def age (name text : String) (n : Nat) : FindReading Finding := do
  let whole := text.toList.takeWhile (· != '.')
  let rest := text.toList.drop whole.length
  if rest.isEmpty then number name text n
  else if rest.length > 1 && (rest.drop 1).all Char.isDigit then
    match Measure.ofText? (String.ofList whole) with
    | some ⟨.lt, k⟩ => return .fixed n ⟨.lt, k + 1⟩
    | some ⟨.gt, k⟩ => return .fixed n ⟨.gt, k⟩
    | some ⟨.eq, _⟩ => return .never
    | none => fail ("invalid argument \x60" ++ text ++ "' to \x60" ++ name ++ "'")
  else fail ("invalid argument \x60" ++ text ++ "' to \x60" ++ name ++ "'")

/-- A time that files are to be later than. -/
def time (text : String) : FindReading Finding := do
  let isPast := text.isEmpty || text.toList.head?.any (fun c => c.isDigit || c == '@') ||
    text == "yesterday" || text == "today" || text.endsWith " ago"
  if isPast then
    let parts := (text.split "-").toStringList.map String.toNat?
    match parts with
    | [some _, some month, some day] =>
      if 1 ≤ month && month ≤ 12 && 1 ≤ day && day ≤ 31 then return .always
    | _ => return .always
  else if text == "now" || text == "tomorrow" then return .never
  fail ("I cannot figure out how to interpret " ++ quotedWord text ++ " as a date or time")

/-- The letters of what is shown of a file. -/
def directives : List Char :=
  "abcdDfFgGhHiklmMnpPsStuUyYZ".toList

/-- Reads what is shown. -/
def shown : Nat → List Char → FindReading (List Shown)
  | 0, _ => return []
  | _, [] => return []
  | fuel + 1, '%' :: '%' :: rest => return .text ['%'] :: (← shown fuel rest)
  | fuel + 1, '%' :: text => do
    let flags := text.takeWhile "-+ #0".toList.contains
    let (width, rest) := Format.extentAt (text.drop flags.length)
    let (precision, rest) :=
      match rest with
      | '.' :: rest =>
        let (precision, rest) := Format.extentAt rest
        (some (precision.getD (.given 0)), rest)
      | rest => (none, rest)
    let front := '%' :: text.take (text.length - rest.length)
    match rest with
    | [] => fail "error: % at end of format string"
    | c :: rest =>
      if directives.contains c then
        let d : Directive := { flags, width, precision, conversion := c, front }
        return .directive d :: (← shown fuel rest)
      else if "ABCT".toList.contains c then
        match rest with
        | [] =>
          warn ("warning: format directive \x60%" ++ String.singleton c ++
            "' should be followed by another character")
          return [.text (front ++ [c])]
        | _ :: rest => shown fuel rest
      else if "([\x7b".toList.contains c then
        fail ("error: the format directive \x60%" ++ String.singleton c ++
          "' is reserved for future use")
      else
        warn ("warning: unrecognized format directive \x60%" ++ String.singleton c ++ "'")
        return .text (front ++ [c]) :: (← shown fuel rest)
  | fuel + 1, '\\' :: c :: rest => do
    let named := [('a', '\x07'), ('b', '\x08'), ('f', '\x0c'), ('n', '\n'), ('r', '\r'),
      ('t', '\t'), ('v', '\x0b'), ('\\', '\\')].lookup c
    let digits := ((c :: rest).take 3).takeWhile fun c => '0' ≤ c && c ≤ '7'
    if c == 'c' then return [.stop]
    else if let some d := named then return .text [d] :: (← shown fuel rest)
    else if !digits.isEmpty then
      let d := Char.ofNat (Decimal.digitsValue 8 digits % 256)
      return .text [d] :: (← shown fuel ((c :: rest).drop digits.length))
    else
      warn ("warning: unrecognized escape \x60\\" ++ String.singleton c ++ "'")
      return .text ['\\', c] :: (← shown fuel rest)
  | _, ['\\'] => do
    warn "warning: escape \x60\\' followed by nothing at all"
    return [.text ['\\']]
  | fuel + 1, c :: rest => do
    let taken := rest.takeWhile fun c => c != '%' && c != '\\'
    return .text (c :: taken) :: (← shown fuel (rest.drop taken.length))

def braces : String := "\x7b\x7d"

/-- Whether a word holds braces. -/
def hasBraces (word : String) : Bool :=
  (word.splitOn braces).length > 1

/-- The words of a command up to its end, and whether that is the end of one for all files. -/
def commandEnd (mayGather : Bool) : Bool → List String → List String → Option (List String × Bool)
  | _, _, [] => none
  | isAfter, held, word :: rest =>
    if word == ";" then some (held.reverse, false)
    else if mayGather && isAfter && word == "+" then some (held.reverse, true)
    else commandEnd mayGather (hasBraces word) (word :: held) rest

/-- Reads a command. -/
def command (name : String) (words : List String) : FindReading (Finding × List String) := do
  let asks := name == "-ok" || name == "-okdir"
  let isInside := name == "-execdir" || name == "-okdir"
  match commandEnd (!asks) false [] words with
  | none => fail ("missing argument to \x60" ++ name ++ "'")
  | some ([], _) => fail ("invalid argument \x60;' to \x60" ++ name ++ "'")
  | some (found, isTogether) =>
    let withBraces := found.filter hasBraces
    if isTogether then
      if withBraces.length > 1 then
        fail ("Only one instance of \x7b\x7d is supported with " ++ name ++ " ... +")
      if let some word := withBraces.find? (· != braces) then
        fail ("In '" ++ name ++ " ... \x7b\x7d +' the '\x7b\x7d' must appear by itself, " ++
          "but you specified " ++ quotedWord word)
    let front := if isTogether then found.dropLast else found
    return (.exec front { isTogether, isInside, asks }, words.drop (found.length + 1))

/-- The tests and actions without an argument. -/
def plain : List (String × Finding) := [
  ("-print", .print "\n" none), ("-print0", .print "\x00" none), ("-ls", .print "\n" none),
  ("-delete", .delete), ("-prune", .prune), ("-quit", .quit), ("-empty", .empty),
  ("-true", .always), ("-false", .never), ("-executable", .mayRun), ("-readable", .always),
  ("-writable", .always), ("-xdev", .always), ("-mount", .always), ("-noleaf", .always),
  ("-nouser", .never), ("-nogroup", .never), ("-daystart", .always), ("-warn", .always),
  ("-nowarn", .always), ("-ignore_readdir_race", .always),
  ("-noignore_readdir_race", .always)]

/-- A test or action with an argument, if the name is one. -/
def valued (name argument : String) : Option (FindReading Finding) :=
  let pattern (make : Pattern → Finding) : Option (FindReading Finding) :=
    some (return make (Pattern.ofText argument))
  let whole (isCaseless : Bool) : Option (FindReading Finding) := some do
    if argument.endsWith "/" && argument != "/" then
      warn ("warning: " ++ name ++ " " ++ argument ++
        " will not match anything because it ends with /.")
    return .named (Pattern.ofText argument) isCaseless true
  let depth (note : Nat → FindNotes → FindNotes) : Option (FindReading Finding) := some do
    match argument.toNat? with
    | some n =>
      modify (note n)
      return .always
    | none =>
      fail ("Expected a positive decimal integer argument to " ++ name ++ ", but got " ++
        quotedWord argument)
  let print (ending : String) : Option (FindReading Finding) :=
    some (return .print ending (some argument))
  match name with
  | "-name" => pattern (.named · false false)
  | "-iname" => pattern (.named · true false)
  | "-path" | "-wholename" => whole false
  | "-ipath" | "-iwholename" => whole true
  | "-lname" => pattern (.leading · false)
  | "-ilname" => pattern (.leading · true)
  | "-regex" => some (regex false argument)
  | "-iregex" => some (regex true argument)
  | "-regextype" => some do
    if (styles.lookup argument).isNone then
      fail ("Unknown regular expression type " ++ quotedWord argument ++ "; valid types are " ++
        ", ".intercalate (styles.map fun (name, _) => quotedWord name) ++ ".")
    modify fun notes => { notes with style := argument }
    return .always
  | "-type" | "-xtype" => some (kind name argument)
  | "-size" => some (size argument)
  | "-perm" => some (mode argument)
  | "-user" => some (owner name "a known user" argument)
  | "-group" => some (owner name "an existing group" argument)
  | "-uid" | "-gid" | "-inum" | "-used" => some (number name argument 0)
  | "-links" => some do
    match Measure.ofText? argument with
    | some measure => return .linked measure
    | none => fail ("invalid argument \x60" ++ argument ++ "' to \x60-links'")
  | "-mtime" | "-ctime" | "-atime" => some (age name argument 0)
  | "-mmin" | "-cmin" | "-amin" => some (age name argument 1)
  | "-newer" | "-anewer" | "-cnewer" => some (return .newer argument)
  | "-samefile" => some (return .same argument)
  | "-fstype" => some (return .never)
  | "-context" => some (fail "invalid predicate -context: SELinux is not enabled.")
  | "-printf" => some (return .format (← shown argument.length argument.toList) none)
  | "-fprint" | "-fls" => print "\n"
  | "-fprint0" => print "\x00"
  | "-maxdepth" => depth fun n notes => { notes with high := some n }
  | "-mindepth" => depth fun n notes => { notes with low := n }
  | name =>
    match (name.drop 6).toString.toList, name.startsWith "-newer" with
    | [x, y], true => some do
      if !"aBcm".toList.contains x || !"aBcmt".toList.contains y then
        fail ("invalid predicate \x60" ++ name ++ "'")
      if y == 't' then time argument else return .newer argument
    | _, _ => none

/-- Whether a word is read as a test, an action or an operator. -/
def isAsking (word : String) : Bool :=
  [")", ",", "(", "!"].contains word || (word.startsWith "-" && word != "-")

/-- Whether the path that files are searched below ends before a word. -/
def beginsAsking (word : String) : Bool :=
  isAsking word && word != ")" && word != ","

/-- The token that a word is by itself. -/
def operators : List (String × FindToken) := [
  ("(", .opening), (")", .closing false), ("!", .negation "!"), ("-not", .negation "-not"),
  ("-a", .binary "-a" 3), ("-and", .binary "-and" 3), ("-o", .binary "-o" 2),
  ("-or", .binary "-or" 2), (",", .binary "," 1)]

/-- A test or an action, and the words that follow it. -/
def primary (word : String) (rest : List String) : FindReading (Finding × List String) := do
  match word, plain.lookup word, rest with
  | _, some finding, rest => return (finding, rest)
  | "-depth", _, rest | "-d", _, rest =>
    modify fun notes => { notes with innerFirst := true }
    return (.always, rest)
  | "-follow", _, rest =>
    modify fun notes => { notes with followsLinks := true }
    return (.always, rest)
  | "-exec", _, words | "-execdir", _, words | "-ok", _, words | "-okdir", _, words =>
    command word words
  | "-fprintf", _, target :: format :: rest =>
    return (.format (← shown format.length format.toList) (some target), rest)
  | "-fprintf", _, [target] => fail ("invalid argument \x60" ++ target ++ "' to \x60-fprintf'")
  | "-fprintf", _, [] => fail "missing argument to \x60-fprintf'"
  | word, _, rest =>
    match rest, valued word (rest.headD "") with
    | _, none => fail ("unknown predicate \x60" ++ word ++ "'")
    | [], some _ => fail ("missing argument to \x60" ++ word ++ "'")
    | _ :: rest, some finding => return (← finding, rest)

/-- Adds a token. Between two things that are asked, both are. -/
def join (tokens : List FindToken) (token : FindToken) : List FindToken :=
  let isStart := match token with | .primary _ | .negation _ | .opening => true | _ => false
  match tokens.getLast?, isStart with
  | some (.primary _), true | some (.closing _), true => tokens ++ [.binary "-a" 3, token]
  | _, _ => tokens ++ [token]

/-- Reads words as tokens. -/
def tokens : Nat → Option String → List FindToken → List String → FindReading (List FindToken)
  | 0, _, known, _ => return known
  | _, _, known, [] => return known
  | fuel + 1, before, known, word :: rest => do
    if !isAsking word then throw (.stray word before)
    match operators.lookup word with
    | some token => tokens fuel (some word) (join known token) rest
    | none =>
      let (finding, rest) ← primary word rest
      tokens fuel (some word) (join known (.primary finding)) rest

end FindReading

namespace FindToken

/-- What is wrong with a closing bracket after a token. -/
def closingFlaw (before : Option FindToken) (isEnd : Bool) : String :=
  match before with
  | some (.negation name) | some (.binary name _) =>
    if isEnd then "expected an expression after '" ++ name ++ "'"
    else "expected an expression between '" ++ name ++ "' and ')'"
  | _ => "invalid expression: you have too many ')'"

/-- What two things with an operator between them ask. -/
def combine (level : Nat) (first second : Finding) : Finding :=
  match level with
  | 1 => .after first second
  | 2 => .either first second
  | _ => .both first second

mutual

/-- Reads what binds more strongly than a level, after a token. -/
def expression : Nat → Nat → Option FindToken → List FindToken →
    Except String (Finding × List FindToken)
  | 0, _, _, _ => .error "invalid expression"
  | _, _, _, [] => .error "invalid expression"
  | _, _, _, .binary name _ :: _ =>
    .error ("invalid expression; you have used a binary operator '" ++ name ++
      "' with nothing before it.")
  | _, _, before, .closing isEnd :: _ => .error (closingFlaw before isEnd)
  | fuel + 1, level, _, .primary finding :: rest => operands fuel level finding rest
  | fuel + 1, level, _, .negation name :: rest => do
    let (inner, rest) ← expression fuel 4 (some (.negation name)) rest
    operands fuel level (.negated inner) rest
  | fuel + 1, level, _, .opening :: rest => do
    match rest with
    | [] | .closing true :: _ =>
      throw ("invalid expression; expected to find a ')' but didn't see one. " ++
        "Perhaps you need an extra predicate after '('")
    | .closing false :: _ => throw "invalid expression; empty parentheses are not allowed."
    | rest =>
      match ← expression fuel 0 (some .opening) rest with
      | (inner, .closing _ :: rest) => operands fuel level inner rest
      | _ =>
        throw "invalid expression; I was expecting to find a ')' somewhere but did not see one."

/-- Reads the operators after something that is asked, each with what follows it. -/
def operands : Nat → Nat → Finding → List FindToken → Except String (Finding × List FindToken)
  | 0, _, finding, rest => .ok (finding, rest)
  | fuel + 1, level, finding, .binary name strength :: rest => do
    if strength ≤ level then return (finding, .binary name strength :: rest)
    let (second, rest) ← expression fuel strength (some (.binary name strength)) rest
    operands fuel level (combine strength finding second) rest
  | _, _, finding, rest => .ok (finding, rest)

end

/-- What tokens ask. If nothing is done by that, the files are printed. -/
def whole (tokens : List FindToken) : Except String Finding := do
  let acts := tokens.any fun | .primary finding => finding.acts | _ => false
  let closed := if acts then tokens else .opening :: tokens ++ [.closing true]
  if tokens.isEmpty then return .print "\n" none
  match ← expression (4 * closed.length + 4) 0 none closed with
  | (finding, []) => return if acts then finding else .both finding (.print "\n" none)
  | _ => throw "you have too many ')'"

end FindToken

/-- What words ask, and what was noted on the way. -/
def findingOf (words : List String) : Except FindFlaw Finding × FindNotes :=
  let (read, notes) := (FindReading.tokens words.length none [] words).run {}
  let finding : Except FindFlaw Finding :=
    match read with
    | .error flaw => .error flaw
    | .ok tokens => (FindToken.whole tokens).mapError .message
  (finding, notes)

end InfoFlow.Sandbox
