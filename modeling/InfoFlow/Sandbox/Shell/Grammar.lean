import InfoFlow.Sandbox.Shell.Script

namespace InfoFlow.Shell

inductive Token where
  | word (parts : Word) (line : Nat)
  | operator (s : String)
  /-- An operator that redirects a stream. -/
  | redirection (stream : Option Nat) (operator : String)
  | lineEnd
  | finish

/-- A document that is still to be read: its number, the line that ends it, whether leading tabs are
    left out, and whether it is taken as it stands. -/
structure PendingDocument where
  number : Nat
  delimiter : String
  isIndented : Bool
  isLiteral : Bool

/-- A script that is being read. -/
structure Reader where
  rest : List Char
  line : Nat := 1
  /-- A token that was read ahead. -/
  pushed : Option Token := none
  pending : List PendingDocument := []
  documents : List (Nat × Word) := []
  nextDocument : Nat := 0
  /-- Whether what is read may be shown. -/
  isShown : Bool := false
  /-- The words that stand for other texts where a command begins. -/
  aliases : List (String × String) := []
  /-- The words in whose place texts were put, and what was left behind each of them. -/
  replaced : List (String × Nat) := []

/-- What reads a script. A fault comes with its line. -/
abbrev Reading := StateT Reader (Except (Nat × ScriptFault))

namespace Reading

def fail {α : Type} (fault : ScriptFault) : Reading α := do
  throw ((← get).line, fault)

/-- Passes over characters. -/
def skip (n : Nat) : Reading Unit :=
  modify fun reader =>
    { reader with
      rest := reader.rest.drop n
      line := reader.line + (reader.rest.take n).count '\n' }

/-- Takes characters as long as they are of a kind. -/
def takeWhile (test : Char → Bool) : Reading (List Char) := do
  let taken := (← get).rest.takeWhile test
  skip taken.length
  return taken

/-- Takes the lines of a document, up to the one that ends it. -/
def takeDocument (pending : PendingDocument) : Nat → List Char → Reading (List Char)
  | 0, body => return body
  | fuel + 1, body => do
    let rest := (← get).rest
    let line := rest.takeWhile (· != '\n')
    let hasEnd := (rest.drop line.length).head? == some '\n'
    skip (line.length + 1)
    let line := if pending.isIndented then line.dropWhile (· == '\t') else line
    if String.ofList line == pending.delimiter then return body
    else if hasEnd then takeDocument pending fuel (body ++ line ++ ['\n'])
    else return body ++ line

end Reading

open Reading

/-- Whether a character ends a word. -/
def endsWord (c : Char) : Bool :=
  c == ' ' || c == '\t' || c == '\n' || c == ';' || c == '&' || c == '|' || c == '<' || c == '>' ||
    c == '(' || c == ')'

/-- Whether a character in a word stands for itself. -/
def isPlain (c : Char) : Bool :=
  !endsWord c && c != '\\' && c != '\'' && c != '"' && c != '$' && c != '\x60'

/-- Whether a character between double quotes stands for itself. -/
def isPlainQuoted (c : Char) : Bool :=
  c != '\\' && c != '"' && c != '$' && c != '\x60'

/-- The parameters with names that are signs. -/
def isSpecialParameter (c : Char) : Bool :=
  c == '@' || c == '*' || c == '#' || c == '?' || c == '-' || c == '$' || c == '!'

/-- The parts between double quotes stand for a text even if it is empty, but all arguments alone
    stand for as many texts as there are. -/
def marked (parts : Word) : Word :=
  match parts with
  | [.param "@" .value _ _ _] => parts
  | parts => parts ++ [.text "" true]

/-- The script between backquotes, in which a backslash escapes some characters, and the length of
    what it was made of. -/
def backquoted (isQuoted : Bool) : List Char → Option (List Char × Nat)
  | [] => none
  | '\x60' :: _ => some ([], 1)
  | '\\' :: c :: rest =>
    (backquoted isQuoted rest).map fun (script, n) =>
      if c == '\\' || c == '$' || c == '\x60' || (isQuoted && c == '"') then (c :: script, n + 2)
      else if c == '\n' then (script, n + 2)
      else ('\\' :: c :: script, n + 2)
  | c :: rest => (backquoted isQuoted rest).map fun (script, n) => (c :: script, n + 1)

/-- Where a parameter ends: its treatment, whether an empty value counts as missing, and the number
    of characters that say so. -/
def treatmentAt (text : List Char) : Treatment × Bool × Nat :=
  match text with
  | ':' :: '-' :: _ => (.fallback, true, 2)
  | ':' :: '=' :: _ => (.assignment, true, 2)
  | ':' :: '?' :: _ => (.demand, true, 2)
  | ':' :: '+' :: _ => (.replacement, true, 2)
  | '-' :: _ => (.fallback, false, 1)
  | '=' :: _ => (.assignment, false, 1)
  | '?' :: _ => (.demand, false, 1)
  | '+' :: _ => (.replacement, false, 1)
  | '#' :: '#' :: _ => (.withoutFront true, false, 2)
  | '#' :: _ => (.withoutFront false, false, 1)
  | '%' :: '%' :: _ => (.withoutBack true, false, 2)
  | '%' :: _ => (.withoutBack false, false, 1)
  | _ => (.faulty, false, 0)

/-- The name of a parameter at the front of a text. -/
def parameterName (text : List Char) : List Char :=
  match text with
  | c :: _ =>
    if c.isDigit then text.takeWhile Char.isDigit
    else if isNameStart c then text.takeWhile isNameChar
    else if isSpecialParameter c then [c]
    else []
  | [] => []

/-- The operators of the language, the longer ones first. -/
def operators : List String :=
  ["&&", "||", ";;", "&", "|", ";", "(", ")"]

/-- The operators that redirect streams, the longer ones first. -/
def redirectionOperators : List String :=
  ["<<-", "<<", "<&", "<>", "<", ">>", ">&", ">|", ">"]

/-- The first of some texts that stands at the front of another one. -/
def frontOf? (known : List String) (text : List Char) : Option String :=
  known.find? fun s => s.toList.isPrefixOf text

/-- What a token is called in a report. -/
def Token.describe : Token → String
  | .word parts _ =>
    match plain? parts with
    | some s => if reservedWords.contains s then "\"" ++ s ++ "\"" else "word"
    | none => "word"
  | .operator s => "\"" ++ s ++ "\""
  | .redirection .. => "redirection"
  | .lineEnd => "newline"
  | .finish => "end of file"

/-- The reserved word that a token is. -/
def Token.reserved? : Token → Option String
  | .word parts _ => (plain? parts).filter reservedWords.contains
  | _ => none

/-- Whether a token ends a list of commands. -/
def Token.closes (token : Token) : Bool :=
  match token with
  | .operator s => s == ")" || s == ";;"
  | .finish => true
  | token =>
    match token.reserved? with
    | some s => ["then", "else", "elif", "fi", "do", "done", "esac", "\x7d"].contains s
    | none => false

/-- Where a list of commands stands: as a whole line, or inside of something, where it may or may
    not be empty. -/
inductive ListPlace where
  | line
  | nonempty
  | any
deriving DecidableEq

def push (token : Token) : Reading Unit :=
  modify ({ · with pushed := some token })

def unexpected {α : Type} (token : Token) (expected : Option String) : Reading α :=
  fail (.unexpected token.describe expected)

/-- The names of the commands that functions cannot take. -/
def reservedCommands : List String :=
  [".", ":", "break", "continue", "eval", "exec", "exit", "export", "readonly", "return", "set",
    "shift", "times", "trap", "unset"]

def isWordToken : Token → Bool
  | .word .. => true
  | _ => false

def Token.isOperator (token : Token) (s : String) : Bool :=
  match token with
  | .operator found => found == s
  | _ => false

mutual

/-- The parts of a word, up to a character that ends it. -/
def wordParts : Nat → Reading Word
  | 0 => return []
  | fuel + 1 => do
    let plain ← takeWhile isPlain
    if !plain.isEmpty then return .text (String.ofList plain) false :: (← wordParts fuel)
    match (← get).rest with
    | '\\' :: '\n' :: _ =>
      skip 2
      wordParts fuel
    | '\\' :: c :: _ =>
      skip 2
      return .text (String.singleton c) true :: (← wordParts fuel)
    | ['\\'] =>
      skip 1
      return [.text "\\" true]
    | '\'' :: _ =>
      let inner ← singleQuoted
      return inner :: (← wordParts fuel)
    | '"' :: _ =>
      skip 1
      let inner ← quotedParts fuel true
      return marked inner ++ (← wordParts fuel)
    | '$' :: _ =>
      let part ← expansion fuel false
      return part :: (← wordParts fuel)
    | '\x60' :: _ =>
      let part ← backquotes fuel false
      return part :: (← wordParts fuel)
    | _ => return []
where
  /-- The text between single quotes. -/
  singleQuoted : Reading Part := do
    skip 1
    let inner ← takeWhile (· != '\'')
    if (← get).rest.isEmpty then fail .openQuote
    skip 1
    return .text (String.ofList inner) true

/-- The parts up to a closing double quote, or to the end of a document. -/
def quotedParts : Nat → Bool → Reading Word
  | 0, _ => return []
  | fuel + 1, isClosed => do
    let plain ← takeWhile fun c => isPlainQuoted c || (!isClosed && c == '"')
    if !plain.isEmpty then
      return .text (String.ofList plain) true :: (← quotedParts fuel isClosed)
    match (← get).rest with
    | [] => if isClosed then fail .openQuote else return []
    | '"' :: _ =>
      skip 1
      return []
    | '\\' :: c :: _ =>
      skip 2
      if c == '\n' then quotedParts fuel isClosed
      else
        let s := if c == '$' || c == '\x60' || c == '\\' || (c == '"' && isClosed) then [c]
          else ['\\', c]
        return .text (String.ofList s) true :: (← quotedParts fuel isClosed)
    | '$' :: _ =>
      let part ← expansion fuel true
      return part :: (← quotedParts fuel isClosed)
    | '\x60' :: _ =>
      let part ← backquotes fuel true
      return part :: (← quotedParts fuel isClosed)
    | c :: _ =>
      skip 1
      return .text (String.singleton c) true :: (← quotedParts fuel isClosed)

/-- The script between backquotes. -/
def backquotes : Nat → Bool → Reading Part
  | 0, _ => fail .openSubstitution
  | fuel + 1, isQuoted => do
    match backquoted isQuoted ((← get).rest.drop 1) with
    | none => fail .openSubstitution
    | some (script, length) =>
      let outer ← get
      set { outer with
        rest := script, line := 1, pushed := none, pending := [], replaced := [] }
      let command ← list fuel .any
      modify fun inner => { outer with
        documents := inner.documents, nextDocument := inner.nextDocument }
      skip (length + 1)
      return .output command isQuoted

/-- The expansion after a dollar sign; a dollar sign alone is text. -/
def expansion : Nat → Bool → Reading Part
  | 0, _ => fail .openSubstitution
  | fuel + 1, isQuoted => do
    skip 1
    match (← get).rest with
    | '(' :: '(' :: _ =>
      skip 2
      return .arithmetic (← arithmeticParts fuel 0) isQuoted
    | '(' :: _ =>
      skip 1
      let outer ← get
      set { outer with pushed := none, pending := [] }
      let command ← list fuel .any
      let token ← nextToken fuel
      if !token.isOperator ")" then unexpected token (some "\")\"")
      modify ({ · with pushed := none, pending := outer.pending })
      return .output command isQuoted
    | '\x7b' :: _ =>
      skip 1
      braced fuel isQuoted
    | c :: rest =>
      if c.isDigit then
        skip 1
        return .param (String.singleton c) .value false [] isQuoted
      else
        let name := parameterName (c :: rest)
        skip name.length
        if name.isEmpty then return .text "$" isQuoted
        else return .param (String.ofList name) .value false [] isQuoted
    | [] => return .text "$" isQuoted

/-- A parameter between braces. -/
def braced : Nat → Bool → Reading Part
  | 0, _ => fail .openBrace
  | fuel + 1, isQuoted => do
    let rest := (← get).rest
    let inner := rest.drop 1
    let counted := parameterName inner
    if rest.head? == some '#' && !counted.isEmpty &&
        (inner.drop counted.length).head? == some '\x7d' then
      skip (counted.length + 2)
      return .param (String.ofList counted) .length false [] isQuoted
    else
      let name := parameterName rest
      skip name.length
      match (← get).rest with
      | '\x7d' :: _ =>
        skip 1
        return .param (String.ofList name) (if name.isEmpty then .faulty else .value) false []
          isQuoted
      | rest =>
        let (treatment, orEmpty, length) := treatmentAt rest
        skip length
        let isPattern :=
          match treatment with
          | .withoutFront _ | .withoutBack _ => true
          | _ => false
        let word ← bracedWord fuel (isQuoted && !isPattern)
        return .param (String.ofList name) (if name.isEmpty then .faulty else treatment) orEmpty
          word isQuoted

/-- The word in braces, up to the closing one. -/
def bracedWord : Nat → Bool → Reading Word
  | 0, _ => fail .openBrace
  | fuel + 1, isQuoted => do
    match (← get).rest with
    | [] => fail .openBrace
    | '\x7d' :: _ =>
      skip 1
      return []
    | '"' :: _ =>
      skip 1
      let inner ← quotedParts fuel true
      return marked inner ++ (← bracedWord fuel isQuoted)
    | '$' :: _ =>
      let part ← expansion fuel isQuoted
      return part :: (← bracedWord fuel isQuoted)
    | '\x60' :: _ =>
      let part ← backquotes fuel isQuoted
      return part :: (← bracedWord fuel isQuoted)
    | '\\' :: c :: _ =>
      skip 2
      if c == '\n' then bracedWord fuel isQuoted
      else
        let isEscape := !isQuoted || c == '$' || c == '\x60' || c == '"' || c == '\\' ||
          c == '\x7d'
        let s := if isEscape then [c] else ['\\', c]
        return .text (String.ofList s) true :: (← bracedWord fuel isQuoted)
    | c :: _ =>
      if c == '\'' && !isQuoted then
        skip 1
        let inner ← takeWhile (· != '\'')
        if (← get).rest.isEmpty then fail .openQuote
        skip 1
        return .text (String.ofList inner) true :: (← bracedWord fuel isQuoted)
      else
        skip 1
        return .text (String.singleton c) isQuoted :: (← bracedWord fuel isQuoted)

/-- The parts of an expression, up to the two brackets that close it. -/
def arithmeticParts : Nat → Nat → Reading Word
  | 0, _ => fail .openArithmetic
  | fuel + 1, depth => do
    match (← get).rest with
    | [] => fail .openArithmetic
    | '$' :: _ =>
      let part ← expansion fuel true
      return part :: (← arithmeticParts fuel depth)
    | '\x60' :: _ =>
      let part ← backquotes fuel true
      return part :: (← arithmeticParts fuel depth)
    | '\\' :: '\n' :: _ =>
      skip 2
      arithmeticParts fuel depth
    | '(' :: _ =>
      skip 1
      return .text "(" true :: (← arithmeticParts fuel (depth + 1))
    | ')' :: rest =>
      if depth > 0 then
        skip 1
        return .text ")" true :: (← arithmeticParts fuel (depth - 1))
      else if rest.head? == some ')' then
        skip 2
        return []
      else if rest.isEmpty then fail .openArithmetic
      else
        skip 1
        return .text ")" true :: (← arithmeticParts fuel depth)
    | c :: _ =>
      skip 1
      return .text (String.singleton c) true :: (← arithmeticParts fuel depth)

/-- Reads the documents that the line before called for. -/
def pendingDocuments : Nat → Reading Unit
  | 0 => return ()
  | fuel + 1 => do
    match (← get).pending with
    | [] => return ()
    | pending :: others =>
      modify ({ · with pending := others })
      let body ← takeDocument pending ((← get).rest.length + 1) []
      let word ←
        if pending.isLiteral then pure [Part.text (String.ofList body) true]
        else do
          let outer ← get
          set { outer with rest := body, pushed := none, pending := [], replaced := [] }
          let word ← quotedParts fuel false
          modify fun inner => { outer with
            documents := inner.documents, nextDocument := inner.nextDocument }
          pure word
      modify fun reader => { reader with
        documents := (pending.number, word) :: reader.documents }
      pendingDocuments fuel

/-- The next token. -/
def nextToken : Nat → Reading Token
  | 0 => return .finish
  | fuel + 1 => do
    if let some token := (← get).pushed then
      modify ({ · with pushed := none })
      return token
    let _ ← takeWhile fun c => c == ' ' || c == '\t'
    match (← get).rest with
    | [] => return .finish
    | '#' :: _ =>
      let _ ← takeWhile (· != '\n')
      nextToken fuel
    | '\\' :: '\n' :: _ =>
      skip 2
      nextToken fuel
    | '\n' :: _ =>
      skip 1
      pendingDocuments fuel
      return .lineEnd
    | c :: rest =>
      if let some s := frontOf? redirectionOperators (c :: rest) then
        skip s.length
        return .redirection none s
      else if let some s := frontOf? operators (c :: rest) then
        skip s.length
        return .operator s
      else if c.isDigit && (rest.head? == some '<' || rest.head? == some '>') then
        let s := (frontOf? redirectionOperators rest).getD "<"
        skip (1 + s.length)
        return .redirection (some (c.toNat - 48)) s
      else
        let line := (← get).line
        let parts ← wordParts fuel
        return .word parts (max line (← get).line)

/-- The next token that is not the end of a line. -/
def tokenOnLine : Nat → Reading Token
  | 0 => return .finish
  | fuel + 1 => do
    match ← nextToken fuel with
    | .lineEnd => tokenOnLine fuel
    | token => return token

/-- The next token where a command may begin. A word that stands for another text is replaced by it,
    unless it stands in that text itself. -/
def commandToken : Nat → Reading Token
  | 0 => return .finish
  | fuel + 1 => do
    let isRead := (← get).pushed.isSome
    let token ← nextToken fuel
    if isRead then return token else unaliased fuel token

/-- The next token where a command may begin on a later line. -/
def commandOnLine : Nat → Reading Token
  | 0 => return .finish
  | fuel + 1 => do
    match ← commandToken fuel with
    | .lineEnd => commandOnLine fuel
    | token => return token

/-- A token that has just been read, or the first one of the text that it stands for. -/
def unaliased : Nat → Token → Reading Token
  | 0, token => return token
  | fuel + 1, token => do
    let reader ← get
    let left := reader.rest.length
    let replaced := reader.replaced.filter fun (_, behind) => behind ≤ left
    let name :=
      match token with
      | .word parts _ => ((plain? parts).filter fun s => !reservedWords.contains s).getD ""
      | _ => ""
    match reader.aliases.lookup name with
    | some value =>
      if replaced.any (·.1 == name) then return token
      else
        set { reader with
          rest := value.toList ++ reader.rest, replaced := (name, left) :: replaced }
        commandToken fuel
    | none => return token

/-- Reads a reserved word, or an operator, that must come next. -/
def expect : Nat → String → Reading Unit
  | 0, _ => return ()
  | fuel + 1, s => do
    let token ← nextToken fuel
    if token.reserved? != some s && !token.isOperator s then
      unexpected token (some ("\"" ++ s ++ "\""))

/-- Commands up to the end of their line, or up to a token that closes them. -/
def list : Nat → ListPlace → Reading Command
  | 0, _ => return .nothing
  | fuel + 1, place => do
    let commands ← listFrom fuel place true
    match commands with
    | [command] => return command
    | commands => return .sequence commands

/-- The commands of a list from one of them on; `isFront` tells whether it is the first one. -/
def listFrom : Nat → ListPlace → Bool → Reading (List Command)
  | 0, _, _ => return []
  | fuel + 1, place, isFront => do
    let token ← if place == .line then commandToken fuel else commandOnLine fuel
    match token with
    | .lineEnd => return []
    | .finish =>
      pendingDocuments fuel
      push token
      return []
    | token =>
      push token
      if token.closes && (place == .any || (place == .nonempty && !isFront)) then return []
      let command ← chain fuel
      let token ← nextToken fuel
      let command := if token.isOperator "&" then Command.background command else command
      match token with
      | .finish =>
        pendingDocuments fuel
        push token
        return [command]
      | .lineEnd =>
        if place == .line then return [command]
        else return command :: (← listFrom fuel place false)
      | token =>
        if token.isOperator "&" || token.isOperator ";" then
          return command :: (← listFrom fuel place false)
        else if place == .line then unexpected token none
        else
          push token
          return [command]

/-- Pipes joined by conditions. -/
def chain : Nat → Reading Command
  | 0 => return .nothing
  | fuel + 1 => do
    let first ← pipeline fuel
    chainFrom fuel first

/-- The rest of a chain whose front is given; all conditions bind to the left. -/
def chainFrom : Nat → Command → Reading Command
  | 0, first => return first
  | fuel + 1, first => do
    let token ← nextToken fuel
    if token.isOperator "&&" then
      push (← commandOnLine fuel)
      let second ← pipeline fuel
      chainFrom fuel (.both first second)
    else if token.isOperator "||" then
      push (← commandOnLine fuel)
      let second ← pipeline fuel
      chainFrom fuel (.either first second)
    else
      push token
      return first

/-- Commands joined by pipes, possibly negated. -/
def pipeline : Nat → Reading Command
  | 0 => return .nothing
  | fuel + 1 => do
    let token ← commandToken fuel
    if token.reserved? == some "!" then return .negated (← pipeline fuel)
    push token
    let first ← command fuel
    match ← pipelineRest fuel with
    | [] => return first
    | more => return .pipe (first :: more)

/-- The commands after a pipe. -/
def pipelineRest : Nat → Reading (List Command)
  | 0 => return []
  | fuel + 1 => do
    let token ← nextToken fuel
    if token.isOperator "|" then
      push (← commandOnLine fuel)
      let next ← command fuel
      return next :: (← pipelineRest fuel)
    else
      push token
      return []

/-- One command. -/
def command : Nat → Reading Command
  | 0 => return .nothing
  | fuel + 1 => do
    let line := (← get).line
    let token ← commandToken fuel
    let finish (command : Command) : Reading Command := do
      match ← redirections fuel with
      | [] => return command
      | found => return .redirected line command found
    match token with
    | .operator "(" =>
      let inner ← list fuel .nonempty
      expect fuel ")"
      finish (.subshell line inner)
    | .redirection .. =>
      push token
      simpleCommand fuel line
    | .word .. =>
      match token.reserved? with
      | none =>
        push token
        simpleCommand fuel line
      | some "\x7b" =>
        let inner ← list fuel .nonempty
        expect fuel "\x7d"
        finish inner
      | some "if" =>
        let inner ← condition fuel
        finish inner
      | some "while" =>
        let test ← list fuel .nonempty
        expect fuel "do"
        let body ← list fuel .nonempty
        expect fuel "done"
        finish (.loop true test body)
      | some "until" =>
        let test ← list fuel .nonempty
        expect fuel "do"
        let body ← list fuel .nonempty
        expect fuel "done"
        finish (.loop false test body)
      | some "for" =>
        let name ←
          match ← nextToken fuel with
          | .word parts _ =>
            match plain? parts with
            | some s => if isName s then pure s else fail .badLoopVariable
            | none => fail .badLoopVariable
          | _ => fail .badLoopVariable
        let token ← tokenOnLine fuel
        let words ←
          if token.reserved? == some "in" then do
            let words ← loopWords fuel
            pure (some words)
          else do
            if !token.isOperator ";" then push token
            pure none
        push (← tokenOnLine fuel)
        expect fuel "do"
        let body ← list fuel .nonempty
        expect fuel "done"
        finish (.each line name words body)
      | some "case" =>
        match ← nextToken fuel with
        | .word word _ =>
          push (← tokenOnLine fuel)
          expect fuel "in"
          let found ← branches fuel
          finish (.cases line word found)
        | token => unexpected token (some "word")
      | some _ => unexpected token none
    | token => unexpected token none

/-- The words of a loop, up to the end of their line. -/
def loopWords : Nat → Reading (List Word)
  | 0 => return []
  | fuel + 1 => do
    match ← nextToken fuel with
    | .word word _ => return word :: (← loopWords fuel)
    | .lineEnd => return []
    | token => if token.isOperator ";" then return [] else unexpected token none

/-- A condition after its first word, with its alternatives. -/
def condition : Nat → Reading Command
  | 0 => return .nothing
  | fuel + 1 => do
    let test ← list fuel .nonempty
    expect fuel "then"
    let yes ← list fuel .nonempty
    let token ← nextToken fuel
    match token.reserved? with
    | some "elif" => return .choice test yes (← condition fuel)
    | some "else" =>
      let no ← list fuel .nonempty
      expect fuel "fi"
      return .choice test yes no
    | _ =>
      push token
      expect fuel "fi"
      return .choice test yes .nothing

/-- The branches of a case, up to its last word. -/
def branches : Nat → Reading (List (List Word × Command))
  | 0 => return []
  | fuel + 1 => do
    let token ← tokenOnLine fuel
    if token.reserved? == some "esac" then return []
    let first ← if token.isOperator "(" then nextToken fuel else pure token
    let words ← patterns fuel first
    let body ← list fuel .any
    let token ← tokenOnLine fuel
    if token.reserved? == some "esac" then return [(words, body)]
    if !token.isOperator ";;" then unexpected token (some "\";;\"")
    return (words, body) :: (← branches fuel)

/-- The patterns of a branch from the given token on, up to the closing bracket. -/
def patterns : Nat → Token → Reading (List Word)
  | 0, _ => return []
  | fuel + 1, token => do
    let word :=
      match token with
      | .word parts _ => parts
      | _ => []
    let token' ← nextToken fuel
    if token'.isOperator "|" then return word :: (← patterns fuel (← nextToken fuel))
    if !token'.isOperator ")" then unexpected token' (some "\")\"")
    if !isWordToken token then unexpected token (some "\")\"")
    return [word]

/-- The redirections that come next. -/
def redirections : Nat → Reading (List Redirection)
  | 0 => return []
  | fuel + 1 => do
    match ← nextToken fuel with
    | .redirection stream operator =>
      let found ← redirection fuel stream operator
      return found :: (← redirections fuel)
    | token =>
      push token
      return []

/-- A redirection after its operator. -/
def redirection : Nat → Option Nat → String → Reading Redirection
  | 0, _, _ => fail .badStream
  | fuel + 1, stream, operator => do
    match ← nextToken fuel with
    | .word word _ =>
      let input := stream.getD 0
      let output := stream.getD 1
      let checkStream : Reading Unit := do
        if let some s := plain? word then
          if !(s == "-" || (s.length == 1 && s.toList.all Char.isDigit)) then fail .badStream
      match operator with
      | "<" => return .file input .read word
      | "<>" => return .file input .readWrite word
      | ">" => return .file output .write word
      | ">|" => return .file output .overwrite word
      | ">>" => return .file output .append word
      | "<&" =>
        checkStream
        return .duplicate input word
      | ">&" =>
        checkStream
        return .duplicate output word
      | _ =>
        let number := (← get).nextDocument
        let pending : PendingDocument :=
          ⟨number, bareText word, operator == "<<-", hasQuotes word⟩
        modify fun reader => { reader with
          nextDocument := number + 1, pending := reader.pending ++ [pending] }
        return .document input number
    | token => unexpected token none

/-- A command that is called by its name, or assignments or redirections alone, or the definition
    of a function. -/
def simpleCommand : Nat → Nat → Reading Command
  | 0, _ => return .nothing
  | fuel + 1, line => do
    let (assignments, words, redirects) ← simpleParts fuel [] [] []
    match words, assignments, redirects with
    | [word], [], [] =>
      let token ← nextToken fuel
      if token.isOperator "(" then
        let closing ← nextToken fuel
        if !closing.isOperator ")" then unexpected closing (some "\")\"")
        let name := bareText word
        if !isName name || reservedCommands.contains name || hasQuotes word then
          fail .badFunctionName
        push (← tokenOnLine fuel)
        return .define name (← command fuel)
      else
        push token
        return .simple line [] [word] []
    | words, assignments, redirects => return .simple line assignments words redirects

/-- The parts of a simple command, in the order in which they are written. -/
def simpleParts : Nat → List (String × Word) → List Word → List Redirection →
    Reading (List (String × Word) × List Word × List Redirection)
  | 0, assignments, words, redirects => return (assignments, words, redirects)
  | fuel + 1, assignments, words, redirects => do
    let before ← get
    let token ← if words.isEmpty then commandToken fuel else nextToken fuel
    let left := (← get).rest.length
    -- A text that ends in a blank lets the word behind it be replaced too.
    let isNext := before.pushed.isNone && before.replaced.any fun (name, behind) =>
      behind ≤ before.rest.length && left < behind &&
        ((before.aliases.lookup name).bind (·.toList.getLast?)).any fun c => c == ' ' || c == '\t'
    match ← if isNext then unaliased fuel token else pure token with
    | .word word _ =>
      match if words.isEmpty then assignment? word else none with
      | some assignment => simpleParts fuel (assignments ++ [assignment]) words redirects
      | none => simpleParts fuel assignments (words ++ [word]) redirects
    | .redirection stream operator =>
      let found ← redirection fuel stream operator
      simpleParts fuel assignments words (redirects ++ [found])
    | token =>
      push token
      return (assignments, words, redirects)

end

/-- The fuel for what is left of a script. -/
def Reader.fuel (reader : Reader) : Nat :=
  8 * reader.rest.length + 100

/-- A text in which expansions are carried out, but which is not cut into words. -/
def textWord (text : List Char) : Except (Nat × ScriptFault) Word := do
  let reader : Reader := { rest := text }
  return (← (quotedParts reader.fuel false).run reader).1

/-- Reads the next line of commands; there is none at the end. -/
def nextCommand (reader : Reader) : Except (Nat × ScriptFault) (Option Command × Reader) := do
  let (command, reader) ← (list reader.fuel .line).run { reader with pushed := none }
  let isAtEnd :=
    match command, reader.rest with
    | .sequence [], [] => true
    | _, _ => false
  return (if isAtEnd then none else some command, reader)

end InfoFlow.Shell
