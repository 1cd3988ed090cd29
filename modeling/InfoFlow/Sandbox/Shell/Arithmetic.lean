import InfoFlow.Entries
import InfoFlow.Sandbox.Decimal

namespace InfoFlow.Shell.Arithmetic

open Sandbox

/-- A whole number brought into 64 bits. -/
def wrap (n : Int) : Int :=
  n.bmod (Nat.pow 2 64)

/-- The nearest whole number of 64 bits. -/
def clamp (n : Int) : Int :=
  let limit : Int := (Nat.pow 2 63 : Nat)
  if n ≥ limit then limit - 1 else if n < -limit then -limit else n

inductive Token where
  | number (n : Int)
  | name (s : String)
  | operator (s : String)
  | faulty
deriving DecidableEq, Repr

/-- The operators, the longer ones first. -/
def operators : List String :=
  ["<<=", ">>=", "<<", ">>", "<=", ">=", "==", "!=", "&&", "||", "+=", "-=", "*=", "/=", "%=",
    "&=", "^=", "|=", "<", ">", "=", "+", "-", "*", "/", "%", "&", "^", "|", "!", "~", "?", ":",
    "(", ")"]

def isNameChar (c : Char) : Bool :=
  c.isAlphanum || c == '_'

/-- The tokens of a text. Each one is made of a character at least, so the length of the text is
    fuel enough. -/
def tokens : Nat → List Char → List Token
  | 0, _ | _, [] => []
  | fuel + 1, c :: rest =>
    if Decimal.isSpace c then tokens fuel rest
    else if c.isDigit then
      match Decimal.integerAt? (c :: rest) with
      | some (n, rest) => .number (clamp n) :: tokens fuel rest
      | none => [.faulty]
    else if isNameChar c then
      let taken := rest.takeWhile isNameChar
      .name (String.ofList (c :: taken)) :: tokens fuel (rest.drop taken.length)
    else
      match operators.find? fun s => s.toList.isPrefixOf (c :: rest) with
      | some s => .operator s :: tokens fuel ((c :: rest).drop s.length)
      | none => [.faulty]

/-- An expression that is being carried out: what is left of it, and the variables that it has
    set. -/
structure State where
  rest : List Token
  assigned : Entries String := []

/-- Why there is no value: a mistake in the expression, or in a variable. -/
inductive Flaw where
  | expected (s : String)
  | divisionByZero
  | badNumber (s : String)
deriving DecidableEq, Repr

abbrev Evaluation := StateT State (Except Flaw)

/-- How strongly an operator between two values binds, and whether it is one. -/
def strength? (operator : String) : Option Nat :=
  [("*", 10), ("/", 10), ("%", 10), ("+", 9), ("-", 9), ("<<", 8), (">>", 8), ("<", 7), ("<=", 7),
    (">", 7), (">=", 7), ("==", 6), ("!=", 6), ("&", 5), ("^", 4), ("|", 3), ("&&", 2),
    ("||", 1)].lookup operator

def truth (b : Bool) : Int :=
  if b then 1 else 0

/-- The bits of a number, read without a sign. -/
def bits (n : Int) : Nat :=
  (n.emod (Nat.pow 2 64 : Nat)).toNat

def ofBits (n : Nat) : Int :=
  wrap n

def apply (operator : String) (a b : Int) : Except Flaw Int :=
  match operator with
  | "*" => .ok (wrap (a * b))
  | "/" => if b == 0 then .error .divisionByZero else .ok (wrap (Int.tdiv a b))
  | "%" => if b == 0 then .error .divisionByZero else .ok (wrap (Int.tmod a b))
  | "+" => .ok (wrap (a + b))
  | "-" => .ok (wrap (a - b))
  | "<<" => .ok (wrap (a * (Nat.pow 2 (bits b % 64) : Nat)))
  | ">>" => .ok (a.fdiv (Nat.pow 2 (bits b % 64) : Nat))
  | "<" => .ok (truth (a < b))
  | "<=" => .ok (truth (a ≤ b))
  | ">" => .ok (truth (b < a))
  | ">=" => .ok (truth (b ≤ a))
  | "==" => .ok (truth (a == b))
  | "!=" => .ok (truth (a != b))
  | "&" => .ok (ofBits (Nat.land (bits a) (bits b)))
  | "^" => .ok (ofBits (Nat.xor (bits a) (bits b)))
  | "|" => .ok (ofBits (Nat.lor (bits a) (bits b)))
  | _ => .ok b

/-- The number that the value of a variable is. A variable without a value is zero. -/
def numberOf (value : String) : Except Flaw Int :=
  if value.isEmpty then .ok 0
  else
    match Decimal.integerAt? value.toList with
    | some (n, rest) => if rest.all Decimal.isSpace then .ok (clamp n) else .error (.badNumber value)
    | none => if value.toList.all Decimal.isSpace then .ok 0 else .error (.badNumber value)

/-- The operator that a setting operator applies first. -/
def settingOperator? (operator : String) : Option String :=
  [("=", "="), ("+=", "+"), ("-=", "-"), ("*=", "*"), ("/=", "/"), ("%=", "%"), ("<<=", "<<"),
    (">>=", ">>"), ("&=", "&"), ("^=", "^"), ("|=", "|")].lookup operator

def next : Evaluation (Option Token) :=
  return (← get).rest.head?

def advance : Evaluation Unit :=
  modify fun state => { state with rest := state.rest.drop 1 }

section

variable (lookup : String → Option String)

/-- The number that a variable is, which the expression itself may have set. -/
def variableNumber (isIdle : Bool) (name : String) : Evaluation Int := do
  if isIdle then return 0
  let value := ((← get).assigned.get? name <|> lookup name).getD ""
  numberOf value

mutual

/-- A value by itself. -/
def primary : Nat → Bool → Evaluation Int
  | 0, _ => throw (.expected "primary")
  | fuel + 1, isIdle => do
    match ← next with
    | some (.number n) =>
      advance
      return n
    | some (.name s) =>
      advance
      variableNumber lookup isIdle s
    | some (.operator "(") =>
      advance
      let value ← assignment fuel isIdle
      match ← next with
      | some (.operator ")") =>
        advance
        return value
      | _ => throw (.expected "')'")
    | some (.operator "+") =>
      advance
      primary fuel isIdle
    | some (.operator "-") =>
      advance
      return wrap (-(← primary fuel isIdle))
    | some (.operator "!") =>
      advance
      return truth ((← primary fuel isIdle) == 0)
    | some (.operator "~") =>
      advance
      return -(← primary fuel isIdle) - 1
    | _ => throw (.expected "primary")

/-- Values joined by operators that bind at least as strongly as given. -/
def joined : Nat → Bool → Nat → Evaluation Int
  | 0, _, _ => throw (.expected "primary")
  | fuel + 1, isIdle, least => do
    let first ← primary fuel isIdle
    joinedFrom fuel isIdle least first

/-- The rest of values joined by operators, after the value of those in front. -/
def joinedFrom : Nat → Bool → Nat → Int → Evaluation Int
  | 0, _, _, first => return first
  | fuel + 1, isIdle, least, first => do
    match ← next with
    | some (.operator s) =>
      match strength? s with
      | none => return first
      | some strength =>
        if strength < least then return first
        advance
        let isDecided := (s == "&&" && first == 0) || (s == "||" && first != 0)
        let second ← joined fuel (isIdle || isDecided) (strength + 1)
        let value ←
          if s == "&&" then pure (truth (first != 0 && second != 0))
          else if s == "||" then pure (truth (first != 0 || second != 0))
          else if isIdle then pure second
          else match apply s first second with
            | .ok value => pure value
            | .error flaw => throw flaw
        joinedFrom fuel isIdle least value
    | _ => return first

/-- A value that a condition may choose. -/
def conditional : Nat → Bool → Evaluation Int
  | 0, _ => throw (.expected "primary")
  | fuel + 1, isIdle => do
    let test ← joined fuel isIdle 1
    match ← next with
    | some (.operator "?") =>
      advance
      let yes ← assignment fuel (isIdle || test == 0)
      match ← next with
      | some (.operator ":") =>
        advance
        let no ← conditional fuel (isIdle || test != 0)
        return if test != 0 then yes else no
      | _ => throw (.expected "':'")
    | _ => return test

/-- A value that a variable may be set to. -/
def assignment : Nat → Bool → Evaluation Int
  | 0, _ => throw (.expected "primary")
  | fuel + 1, isIdle => do
    match (← get).rest with
    | .name s :: .operator operator :: _ =>
      match settingOperator? operator with
      | none => conditional fuel isIdle
      | some applied =>
        advance
        advance
        let second ← assignment fuel isIdle
        if isIdle then return second
        let value ←
          if applied == "=" then pure second
          else match apply applied (← variableNumber lookup isIdle s) second with
            | .ok value => pure value
            | .error flaw => throw flaw
        modify fun state => { state with assigned := state.assigned.put s (toString value) }
        return value
    | _ => conditional fuel isIdle

end

/-- The value of an expression, and the variables that it sets. -/
def evaluate (text : String) : Except Flaw (Int × Entries String) := do
  let ts := tokens text.length text.toList
  let (value, state) ← (assignment lookup (8 * ts.length + 8) false).run { rest := ts }
  if state.rest.isEmpty then return (value, state.assigned) else throw (.expected "EOF")

end

/-- The report of a flaw in an expression. -/
def Flaw.message (text : String) : Flaw → String
  | .expected s => "arithmetic expression: expecting " ++ s ++ ": \"" ++ text ++ "\""
  | .divisionByZero => "arithmetic expression: division by zero: \"" ++ text ++ "\""
  | .badNumber s => "Illegal number: " ++ s

end InfoFlow.Shell.Arithmetic
