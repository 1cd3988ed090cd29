import InfoFlow.Sandbox.Awk.Program
import InfoFlow.Sandbox.Awk.Token

namespace InfoFlow.Awk

open Sandbox

/-- The tokens of a program, and those that are left. -/
structure Parsing where
  all : List Token.Placed
  left : List Token.Placed

abbrev Parser := StateT Parsing (Except Token.Flaw)

namespace Parser

def peek : Parser (Option Token) :=
  return (← get).left.head?.map Prod.snd

/-- The token after the next one. -/
def peekSecond : Parser (Option Token) :=
  return ((← get).left[1]?).map Prod.snd

def advance : Parser Unit :=
  modify fun parsing => { parsing with left := parsing.left.drop 1 }

def failWith {α : Type} (message : String) : Parser α := do
  let parsing ← get
  let last := (parsing.all.getLast?.map Prod.fst).getD 1
  throw ⟨(parsing.left.head?.map Prod.fst).getD last, message⟩

/-- Whether more brackets were opened than closed. -/
def isOpen (first last : String) (passed : List Token.Placed) : Bool :=
  let count (s : String) : Nat := passed.countP fun (_, token) => token == .sign s
  count first > count last

/-- Fails at the next token. -/
def unexpected {α : Type} : Parser α := do
  let parsing ← get
  let passed := parsing.all.take (parsing.all.length - parsing.left.length)
  match parsing.left with
  | [] =>
    if isOpen "\x7b" "\x7d" passed then
      let last := (parsing.all.getLast?.map Prod.fst).getD 1
      throw ⟨last + 1, "missing \x7d near end of file"⟩
    else if isOpen "(" ")" passed then failWith "missing ) near end of line"
    else failWith "syntax error at or near end of line"
  | (_, token) :: _ =>
    if isOpen "(" ")" passed && token != .sign "," then
      failWith ("missing ) near " ++ token.shown)
    else failWith ("syntax error at or near " ++ token.shown)

/-- Takes a sign if it is the next token. -/
def takeSign (s : String) : Parser Bool := do
  if (← peek) == some (.sign s) then
    advance
    return true
  else return false

def takeKeyword (s : String) : Parser Bool := do
  if (← peek) == some (.keyword s) then
    advance
    return true
  else return false

def expectSign (s : String) : Parser Unit := do
  if !(← takeSign s) then unexpected

def skipNewlines : Parser Unit :=
  modify fun parsing =>
    { parsing with left := parsing.left.dropWhile fun (_, token) => token == .newline }

def skipSeparators : Parser Unit :=
  modify fun parsing =>
    { parsing with left := parsing.left.dropWhile fun (_, token) =>
        token == .newline || token == .sign ";" }

/-- Where an expression stands: whether `in` may not join values there, and whether a greater than
    would name a file. -/
structure Place where
  noMember : Bool := false
  noGreater : Bool := false

def comparison? (place : Place) : Token → Option Comparison
  | .sign "<" => some .less
  | .sign "<=" => some .atMost
  | .sign "==" => some .equal
  | .sign "!=" => some .different
  | .sign ">" => if place.noGreater then none else some .more
  | .sign ">=" => some .atLeast
  | _ => none

def updateSign? : Token → Option BinarySign
  | .sign "+=" => some .add
  | .sign "-=" => some .subtract
  | .sign "*=" => some .multiply
  | .sign "/=" => some .divide
  | .sign "%=" => some .remainder
  | .sign "^=" | .sign "**=" => some .power
  | _ => none

/-- Whether another value may begin with a token, which is then joined to the one before it. -/
def startsValue : Token → Bool
  | .number _ | .text _ | .regex _ | .name _ | .called _ | .builtin _ => true
  | .sign s => ["$", "!", "(", "-", "+", "++", "--"].contains s
  | _ => false

def isTarget : Expr → Bool
  | .global _ | .field _ | .element .. => true
  | _ => false

mutual

/-- Reads an expression, assignments included. -/
def expression (place : Place) : Nat → Parser Expr
  | 0 => unexpected
  | fuel + 1 => do
    let left ← choice place fuel
    if isTarget left then
      match ← peek with
      | some (.sign "=") =>
        advance
        skipNewlines
        return .assign left (← expression place fuel)
      | some token =>
        match updateSign? token with
        | some sign =>
          advance
          skipNewlines
          return .update sign left (← expression place fuel)
        | none => return left
      | none => return left
    else return left

def choice (place : Place) : Nat → Parser Expr
  | 0 => unexpected
  | fuel + 1 => do
    let condition ← disjunction place fuel
    if ← takeSign "?" then
      skipNewlines
      let yes ← expression place fuel
      skipNewlines
      expectSign ":"
      skipNewlines
      let no ← expression place fuel
      return .choice condition yes no
    else return condition

def disjunction (place : Place) : Nat → Parser Expr
  | 0 => unexpected
  | fuel + 1 => do
    let first ← conjunction place fuel
    if ← takeSign "||" then return .or first (← disjunction place fuel) else return first

def conjunction (place : Place) : Nat → Parser Expr
  | 0 => unexpected
  | fuel + 1 => do
    let first ← membership place fuel
    if ← takeSign "&&" then return .and first (← conjunction place fuel) else return first

def membership (place : Place) : Nat → Parser Expr
  | 0 => unexpected
  | fuel + 1 => do
    membershipAfter place fuel (← matching place fuel)

/-- Goes on behind a value that may be looked for in an array. -/
def membershipAfter (place : Place) : Nat → Expr → Parser Expr
  | 0, _ => unexpected
  | fuel + 1, first => do
    if !place.noMember && (← takeKeyword "in") then
      match ← peek with
      | some (.name array) =>
        advance
        let indices := match first with | .group items => items | e => [e]
        membershipAfter place fuel (.member indices array)
      | _ => unexpected
    else return first

def matching (place : Place) : Nat → Parser Expr
  | 0 => unexpected
  | fuel + 1 => do
    matchingAfter place fuel (← comparison place fuel)

def matchingAfter (place : Place) : Nat → Expr → Parser Expr
  | 0, _ => unexpected
  | fuel + 1, first => do
    match ← peek with
    | some (.sign "~") =>
      advance
      matchingAfter place fuel (.isMatch false first (← comparison place fuel))
    | some (.sign "!~") =>
      advance
      matchingAfter place fuel (.isMatch true first (← comparison place fuel))
    | _ => return first

def comparison (place : Place) : Nat → Parser Expr
  | 0 => unexpected
  | fuel + 1 => do
    let first ← piped place fuel (← concatenation place fuel)
    match (← peek).bind (comparison? place) with
    | some test =>
      advance
      return .compare test first (← concatenation place fuel)
    | none => return first

/-- A command may be followed by a sign that what it writes is read. -/
def piped (place : Place) : Nat → Expr → Parser Expr
  | 0, _ => unexpected
  | fuel + 1, command => do
    if (← peek) == some (.sign "|") && (← peekSecond) == some (.keyword "getline") then
      advance
      advance
      let target ← optionalTarget fuel
      piped place fuel (.readLine target none (some command))
    else return command

def concatenation (place : Place) : Nat → Parser Expr
  | 0 => unexpected
  | fuel + 1 => do
    concatenationAfter place fuel (← sum fuel)

def concatenationAfter (place : Place) : Nat → Expr → Parser Expr
  | 0, _ => unexpected
  | fuel + 1, first => do
    match ← peek with
    | some token =>
      if startsValue token then
        concatenationAfter place fuel (.concat first (← sum fuel))
      else return first
    | none => return first

def sum : Nat → Parser Expr
  | 0 => unexpected
  | fuel + 1 => do
    sumAfter fuel (← product fuel)

def sumAfter : Nat → Expr → Parser Expr
  | 0, _ => unexpected
  | fuel + 1, first => do
    if ← takeSign "+" then sumAfter fuel (.binary .add first (← product fuel))
    else if ← takeSign "-" then sumAfter fuel (.binary .subtract first (← product fuel))
    else return first

def product : Nat → Parser Expr
  | 0 => unexpected
  | fuel + 1 => do
    productAfter fuel (← signed fuel)

def productAfter : Nat → Expr → Parser Expr
  | 0, _ => unexpected
  | fuel + 1, first => do
    if ← takeSign "*" then productAfter fuel (.binary .multiply first (← signed fuel))
    else if ← takeSign "/" then productAfter fuel (.binary .divide first (← signed fuel))
    else if ← takeSign "%" then productAfter fuel (.binary .remainder first (← signed fuel))
    else return first

def signed : Nat → Parser Expr
  | 0 => unexpected
  | fuel + 1 => do
    if ← takeSign "!" then return .not (← signed fuel)
    else if ← takeSign "-" then return .negate (← signed fuel)
    else if ← takeSign "+" then return .plus (← signed fuel)
    else powers fuel

def powers : Nat → Parser Expr
  | 0 => unexpected
  | fuel + 1 => do
    let base ← stepped fuel
    if (← takeSign "^") || (← takeSign "**") then
      if ← takeSign "-" then return .binary .power base (.negate (← powers fuel))
      else return .binary .power base (← powers fuel)
    else return base

/-- Reads a value with a sign before or behind it that steps a variable. -/
def stepped : Nat → Parser Expr
  | 0 => unexpected
  | fuel + 1 => do
    if ← takeSign "++" then return .step (← primary fuel) true true
    else if ← takeSign "--" then return .step (← primary fuel) false true
    else
      let value ← primary fuel
      if isTarget value then
        if ← takeSign "++" then return .step value true false
        else if ← takeSign "--" then return .step value false false
        else return value
      else return value

def primary : Nat → Parser Expr
  | 0 => unexpected
  | fuel + 1 => do
    match ← peek with
    | some (.number x) =>
      advance
      return .number x
    | some (.text s) =>
      advance
      return .text s
    | some (.regex s) =>
      match readRegex s with
      | .error message => failWith message
      | .ok regex =>
        advance
        return .regex regex
    | some (.name s) =>
      advance
      if ← takeSign "[" then
        let indices ← expressions fuel
        expectSign "]"
        return .element s indices
      else return .global s
    | some (.called s) =>
      advance
      return .call s (← arguments fuel)
    | some (.builtin s) =>
      advance
      if (← peek) == some (.sign "(") then return .builtin s (← arguments fuel)
      else if s == "length" then return .builtin s []
      else unexpected
    | some (.sign "$") =>
      advance
      if ← takeSign "++" then return .field (.step (← primary fuel) true true)
      else if ← takeSign "--" then return .field (.step (← primary fuel) false true)
      else if ← takeSign "-" then return .field (.negate (← primary fuel))
      else return .field (← primary fuel)
    | some (.sign "(") =>
      advance
      let items ← expressions fuel
      expectSign ")"
      return .group items
    | some (.sign "-") =>
      advance
      return .negate (← primary fuel)
    | some (.sign "!") =>
      advance
      return .not (← primary fuel)
    | some (.keyword "getline") =>
      advance
      let target ← optionalTarget fuel
      if ← takeSign "<" then
        let file ← stepped fuel
        return .readLine target (some file) none
      else return .readLine target none none
    | _ => unexpected

/-- Reads a variable if there is one. -/
def optionalTarget : Nat → Parser (Option Expr)
  | 0 => unexpected
  | fuel + 1 => do
    match ← peek with
    | some (.name _) | some (.sign "$") => return some (← primary fuel)
    | _ => return none

/-- Reads the arguments of a call, brackets included. -/
def arguments : Nat → Parser (List Expr)
  | 0 => unexpected
  | fuel + 1 => do
    expectSign "("
    if ← takeSign ")" then return []
    else
      let items ← expressions fuel
      expectSign ")"
      return items

/-- Reads expressions between commas. -/
def expressions : Nat → Parser (List Expr)
  | 0 => unexpected
  | fuel + 1 => do
    skipNewlines
    let first ← expression {} fuel
    skipNewlines
    if ← takeSign "," then return first :: (← expressions fuel) else return [first]

end

/-- Whether a statement may end before a token. -/
def endsStatement : Option Token → Bool
  | none | some .newline => true
  | some (.sign s) => s == ";" || s == "\x7d"
  | _ => false

/-- Takes what ends a simple statement. -/
def finishSimple : Parser Unit := do
  match ← peek with
  | some .newline => skipSeparators
  | some (.sign ";") => skipSeparators
  | some (.sign "\x7d") | none => return
  | _ => unexpected

/-- Reads what is written, and where. -/
def printed (fuel : Nat) : Parser (List Expr × Destination) := do
  let place : Place := { noGreater := true }
  let isEnd (token : Option Token) : Bool :=
    endsStatement token ||
      [">", ">>", "|"].any fun s => token == some (.sign s)
  let rec items : Nat → Parser (List Expr)
    | 0 => unexpected
    | n + 1 => do
      let first ← expression place fuel
      if ← takeSign "," then
        skipNewlines
        return first :: (← items n)
      else return [first]
  let found ← if isEnd (← peek) then pure [] else items fuel
  let found := match found with | [.group items] => items | found => found
  let target : Parser Expr := do
    choice { noGreater := true } fuel
  if ← takeSign ">" then return (found, .file (← target) false)
  else if ← takeSign ">>" then return (found, .file (← target) true)
  else if ← takeSign "|" then return (found, .command (← target))
  else return (found, .output)

/-- Where a statement stands: in a function, and in a loop. -/
structure Surroundings where
  inFunction : Bool := false
  inLoop : Bool := false
  /-- Whether there is a record. -/
  hasRecord : Bool := true

mutual

/-- Reads a statement and what ends it. -/
def statement (around : Surroundings) : Nat → Parser Statement
  | 0 => unexpected
  | fuel + 1 => do
    match ← peek with
    | some (.sign "\x7b") =>
      let body ← block around fuel
      skipSeparators
      return body
    | some (.sign ";") =>
      advance
      skipNewlines
      return .block []
    | some (.keyword "if") =>
      advance
      let condition ← bracketed fuel
      let yes ← statement around fuel
      if (← peek) == some (.sign ";") && (← peekSecond) == some (.keyword "else") then advance
      if ← takeKeyword "else" then
        skipNewlines
        return .cond condition yes (← statement around fuel)
      else return .cond condition yes (.block [])
    | some (.keyword "while") =>
      advance
      let condition ← bracketed fuel
      if ← takeSign ";" then
        skipNewlines
        return .while condition (.block [])
      else return .while condition (← statement { around with inLoop := true } fuel)
    | some (.keyword "do") =>
      advance
      skipNewlines
      let body ← statement { around with inLoop := true } fuel
      skipSeparators
      if !(← takeKeyword "while") then unexpected
      expectSign "("
      let condition ← expression {} fuel
      expectSign ")"
      finishSimple
      return .doWhile body condition
    | some (.keyword "for") =>
      advance
      expectSign "("
      loop around fuel
    | _ =>
      let simple ← simpleStatement around fuel
      finishSimple
      return simple

/-- Reads a condition in brackets, and skips to what follows it. -/
def bracketed : Nat → Parser Expr
  | 0 => unexpected
  | fuel + 1 => do
    expectSign "("
    let condition ← expression {} fuel
    expectSign ")"
    skipNewlines
    return condition

/-- Reads a loop behind its opening bracket. -/
def loop (around : Surroundings) : Nat → Parser Statement
  | 0 => unexpected
  | fuel + 1 => do
    let inner : Surroundings := { around with inLoop := true }
    match (← get).left.map Prod.snd with
    | .name name :: .keyword "in" :: .name array :: .sign ")" :: _ =>
      modify fun parsing => { parsing with left := parsing.left.drop 4 }
      skipNewlines
      return .forEach name array (← statement inner fuel)
    | .sign "(" :: .name name :: .sign ")" :: .keyword "in" :: .name array :: .sign ")" :: _ =>
      modify fun parsing => { parsing with left := parsing.left.drop 6 }
      skipNewlines
      return .forEach name array (← statement inner fuel)
    | _ =>
      let first ←
        if (← peek) == some (.sign ";") then pure (.block []) else simpleStatement around fuel
      expectSign ";"
      skipNewlines
      let condition ←
        if (← peek) == some (.sign ";") then pure none
        else do pure (some (← expression {} fuel))
      expectSign ";"
      skipNewlines
      let step ←
        if (← peek) == some (.sign ")") then pure (.block []) else simpleStatement around fuel
      expectSign ")"
      skipNewlines
      if ← takeSign ";" then
        skipNewlines
        return .for first condition step (.block [])
      else return .for first condition step (← statement inner fuel)

/-- Reads a statement that holds no others. -/
def simpleStatement (around : Surroundings) : Nat → Parser Statement
  | 0 => unexpected
  | fuel + 1 => do
    match ← peek with
    | some (.keyword "print") =>
      advance
      let (items, destination) ← printed fuel
      return .print items destination
    | some (.keyword "printf") =>
      advance
      let (items, destination) ← printed fuel
      if items.isEmpty then unexpected
      return .printFormatted items destination
    | some (.keyword "next") =>
      if !around.hasRecord then failWith "improper use of next"
      advance
      return .next
    | some (.keyword "nextfile") =>
      if !around.hasRecord then failWith "improper use of nextfile"
      advance
      return .nextFile
    | some (.keyword "break") =>
      if !around.inLoop then failWith "break statement outside of loop"
      advance
      return .break
    | some (.keyword "continue") =>
      if !around.inLoop then failWith "continue statement outside of loop"
      advance
      return .continue
    | some (.keyword "exit") =>
      advance
      if endsStatement (← peek) then return .exit none
      else return .exit (some (← expression {} fuel))
    | some (.keyword "return") =>
      if !around.inFunction then failWith "return outside function body"
      advance
      if endsStatement (← peek) then return .return none
      else return .return (some (← expression {} fuel))
    | some (.keyword "delete") =>
      advance
      match ← peek with
      | some (.name array) =>
        advance
        if ← takeSign "[" then
          let indices ← expressions fuel
          expectSign "]"
          return .delete array (some indices)
        else return .delete array none
      | _ => unexpected
    | _ => return .expr (← expression {} fuel)

/-- Reads statements in braces. -/
def block (around : Surroundings) : Nat → Parser Statement
  | 0 => unexpected
  | fuel + 1 => do
    expectSign "\x7b"
    skipSeparators
    let body ← statements around fuel
    expectSign "\x7d"
    return .block body

/-- Reads statements up to a closing brace. -/
def statements (around : Surroundings) : Nat → Parser (List Statement)
  | 0 => unexpected
  | fuel + 1 => do
    match ← peek with
    | none | some (.sign "\x7d") => return []
    | _ =>
      let first ← statement around fuel
      return first :: (← statements around fuel)

end

/-- Reads the names of parameters up to the closing bracket. -/
def parameters : Nat → Parser (List String)
  | 0 => unexpected
  | fuel + 1 => do
    skipNewlines
    match ← peek with
    | some (.sign ")") =>
      advance
      return []
    | some (.name s) =>
      advance
      if ← takeSign "," then return s :: (← parameters fuel)
      else
        expectSign ")"
        return [s]
    | _ => unexpected

/-- Reads the rules and functions that are left. -/
def items : Nat → Program → Parser Program
  | 0, program => return program
  | fuel + 1, program => do
    skipSeparators
    let rule (around : Surroundings) (needsBody : Bool) (condition : Condition) :
        Parser Program := do
      if (← peek) == some (.sign "\x7b") then
        let body ← block around fuel
        return { program with rules := program.rules ++ [⟨condition, some body⟩] }
      else if needsBody then unexpected
      else
        match ← peek with
        | none | some .newline | some (.sign ";") =>
          return { program with rules := program.rules ++ [⟨condition, none⟩] }
        | _ => unexpected
    match ← peek with
    | none => return program
    | some (.keyword "function") | some (.keyword "func") =>
      advance
      let name ←
        match ← peek with
        | some (.name s) | some (.called s) => pure s
        | _ => unexpected
      advance
      expectSign "("
      let parameters ← parameters fuel
      skipNewlines
      let body ← block { inFunction := true } fuel
      items fuel { program with
        functions := program.functions ++ [(name, ⟨parameters, body⟩)] }
    | some (.keyword "BEGIN") =>
      advance
      items fuel (← rule { hasRecord := false } true .begin)
    | some (.keyword "END") =>
      advance
      items fuel (← rule { hasRecord := false } true .ending)
    | some (.sign "\x7b") => items fuel (← rule {} true .always)
    | some (.sign "\x7d") => failWith "extra '\x7d'"
    | some _ =>
      let first ← expression {} fuel
      if ← takeSign "," then
        skipNewlines
        let last ← expression {} fuel
        items fuel (← rule {} false (.range first last))
      else items fuel (← rule {} false (.holds first))

end Parser

/-- The program that a text is. -/
def Program.ofText (text : String) : Except Token.Flaw Program := do
  let tokens ← Token.ofText text
  let fuel := 40 * tokens.length + 200
  return (← (Parser.items fuel {}).run { all := tokens, left := tokens }).1

end InfoFlow.Awk
