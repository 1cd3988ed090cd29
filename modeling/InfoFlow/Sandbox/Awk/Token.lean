import InfoFlow.Sandbox.Escape
import InfoFlow.Sandbox.Regex

namespace InfoFlow.Awk

open Sandbox

/-- The tokens of a program. Whether a slash divides or begins an expression depends on the token
    before it. -/
inductive Token where
  | number (x : Float)
  | text (s : String)
  | regex (s : String)
  | name (s : String)
  /-- A name with an opening bracket right behind it. -/
  | called (s : String)
  | builtin (s : String)
  | keyword (s : String)
  | sign (s : String)
  | newline
deriving BEq, Repr

namespace Token

def keywords : List String :=
  ["BEGIN", "END", "function", "func", "if", "else", "while", "for", "do", "break", "continue",
    "next", "nextfile", "exit", "return", "delete", "in", "getline", "print", "printf"]

def builtins : List String :=
  ["length", "substr", "index", "split", "sub", "gsub", "match", "sprintf", "sin", "cos", "atan2",
    "exp", "log", "sqrt", "int", "rand", "srand", "tolower", "toupper", "system", "close",
    "fflush", "systime", "strftime", "mktime"]

/-- The signs, the longer ones first. -/
def signs : List String :=
  ["**=", "&&", "||", "++", "--", "+=", "-=", "*=", "/=", "%=", "^=", "**", "==", "<=", ">=",
    "!=", "!~", ">>", "\x7b", "\x7d", "(", ")", "[", "]", ";", ",", "+", "-", "*", "/", "%", "^",
    "!", ">", "<", "|", "?", ":", "~", "$", "="]

/-- What a token is called in a report. -/
def shown : Token → String
  | .number x => if x.floor == x then toString x.toUInt64 else toString x
  | .text s => "\"" ++ s ++ "\""
  | .regex s => "/" ++ s ++ "/"
  | .name s | .called s | .builtin s | .keyword s | .sign s => s
  | .newline => "end of line"

/-- Whether a value may end with a token, so that a slash behind it divides. -/
def endsValue : Token → Bool
  | .number _ | .text _ | .regex _ | .name _ | .builtin _ => true
  | .sign s => s == ")" || s == "]" || s == "$" || s == "++" || s == "--"
  | _ => false

/-- Whether a line may go on after a token. -/
def goesOn : Token → Bool
  | .sign s => ["\x7b", "&&", "||", ",", ";"].contains s
  | .keyword s => s == "do" || s == "else"
  | .newline => true
  | _ => false

/-- A token with the number of its line. -/
abbrev Placed := Nat × Token

/-- Why a text is no program: a report, and the line. -/
structure Flaw where
  line : Nat
  message : String

def isNameStart (c : Char) : Bool :=
  c.isAlpha || c == '_'

def isNamePart (c : Char) : Bool :=
  c.isAlphanum || c == '_'

/-- A text up to its closing quote, with its escapes replaced; and what follows it. -/
def quoted : Nat → List Char → Option (List Char × List Char)
  | 0, _ | _, [] | _, '\n' :: _ => none
  | _, '"' :: rest => some ([], rest)
  | fuel + 1, '\\' :: c :: rest =>
    if c == '\n' then quoted fuel rest
    else if c == '"' || c == '\\' then (quoted fuel rest).map fun (s, rest) => (c :: s, rest)
    else if c == '/' || c == 'e' then
      (quoted fuel rest).map fun (s, rest) => ('\\' :: c :: s, rest)
    else if c == 'x' then
      let digits := (rest.take 2).takeWhile fun c => (Decimal.digitValue? 16 c).isSome
      if digits.isEmpty then (quoted fuel rest).map fun (s, rest) => ('\\' :: 'x' :: s, rest)
      else
        (quoted fuel (rest.drop digits.length)).map fun (s, rest) =>
          (Char.ofNat (Decimal.digitsValue 16 digits) :: s, rest)
    else
      let (found, rest) := Escape.one (c :: rest)
      if found == ['\\'] then (quoted fuel (rest.drop 1)).map fun (s, rest) =>
        ('\\' :: c :: s, rest)
      else (quoted fuel rest).map fun (s, rest) => (found ++ s, rest)
  | fuel + 1, c :: rest => (quoted fuel rest).map fun (s, rest) => (c :: s, rest)

/-- An expression up to its closing slash, which may stand in square brackets or behind a
    backslash. -/
def slashed : Nat → Bool → List Char → Option (List Char × List Char)
  | 0, _, _ | _, _, [] | _, _, '\n' :: _ => none
  | fuel + 1, isInSet, '\\' :: c :: rest =>
    (slashed fuel isInSet rest).map fun (s, rest) =>
      (if c == '/' then '/' :: s else '\\' :: c :: s, rest)
  | fuel + 1, isInSet, c :: rest =>
    if c == '/' && !isInSet then some ([], rest)
    else
      let isInSet := if c == '[' then true else if c == ']' then false else isInSet
      (slashed fuel isInSet rest).map fun (s, rest) => (c :: s, rest)

/-- The front of a text as it is shown in a report. -/
def front (text : List Char) : String :=
  String.ofList ((text.takeWhile (· != '\n')).take 10) ++ " ..."

/-- A number as it is written in a program, and what follows it. -/
def numberFrom (text : List Char) : Option (Float × List Char) :=
  match text with
  | c :: rest =>
    if c.isDigit || (c == '.' && rest.head?.any Char.isDigit) then Decimal.numberAt? text
    else none
  | [] => none

/-- The tokens of a text. Each step passes over a character at least, so the length of the text is
    fuel enough. -/
def read (line : Nat) (last : Token) : Nat → List Char → Except Flaw (List Placed)
  | 0, _ | _, [] => .ok []
  | fuel + 1, c :: rest => do
    let next (token : Token) (rest : List Char) : Except Flaw (List Placed) := do
      return (line, token) :: (← read line token fuel rest)
    if c == '\n' then
      let rest' ← read (line + 1) (if last.goesOn then last else .newline) fuel rest
      return if last.goesOn then rest' else (line, .newline) :: rest'
    else if c == ' ' || c == '\t' || c == '\r' then read line last fuel rest
    else if c == '#' then read line last fuel (rest.dropWhile (· != '\n'))
    else if c == '\\' && rest.head? == some '\n' then read (line + 1) last fuel (rest.drop 1)
    else if c == '"' then
      match quoted (fuel + 1) rest with
      | some (s, rest) => next (.text (String.ofList s)) rest
      | none => throw ⟨line, "runaway string constant \"" ++ front rest⟩
    else if c == '/' && !last.endsValue then
      match slashed (fuel + 1) false rest with
      | some (s, rest) => next (.regex (String.ofList s)) rest
      | none => throw ⟨line, "runaway regular expression /" ++ front rest⟩
    else if isNameStart c then
      let tail := rest.takeWhile isNamePart
      let word := String.ofList (c :: tail)
      let rest := rest.drop tail.length
      if keywords.contains word then next (.keyword word) rest
      else if builtins.contains word then next (.builtin word) rest
      else if rest.head? == some '(' then next (.called word) rest
      else next (.name word) rest
    else
      match numberFrom (c :: rest) with
      | some (x, rest) => next (.number x) rest
      | none =>
        match signs.find? fun s => s.toList.isPrefixOf (c :: rest) with
        | some s => next (.sign s) ((c :: rest).drop s.length)
        | none => throw ⟨0, toString line ++ ": unexpected character '" ++ String.singleton c ++ "'"⟩

def ofText (text : String) : Except Flaw (List Placed) :=
  read 1 .newline (text.length + 1) text.toList

end Token

end InfoFlow.Awk
