namespace InfoFlow.Shell

/-- What a parameter in a word stands for. -/
inductive Treatment where
  | value
  | length
  /-- A word in place of a value that is missing. -/
  | fallback
  /-- A word that a missing value is set to. -/
  | assignment
  /-- A word that is reported if the value is missing. -/
  | demand
  /-- A word in place of a value that is there. -/
  | replacement
  | withoutFront (longest : Bool)
  | withoutBack (longest : Bool)
  /-- Written wrongly, which counts only when the word is expanded. -/
  | faulty
deriving DecidableEq, Repr

/-- Why a script is no script. -/
inductive ScriptFault where
  | openQuote
  | openBrace
  | openSubstitution
  | openArithmetic
  | badLoopVariable
  | badFunctionName
  | badStream
  | unexpected (found : String) (expected : Option String)
deriving DecidableEq, Repr

def ScriptFault.message : ScriptFault → String
  | .openQuote => "Unterminated quoted string"
  | .openBrace => "Missing '\x7d'"
  | .openSubstitution => "EOF in backquote substitution"
  | .openArithmetic => "Missing '))'"
  | .badLoopVariable => "Bad for loop variable"
  | .badFunctionName => "Bad function name"
  | .badStream => "Bad fd number"
  | .unexpected found none => found ++ " unexpected"
  | .unexpected found (some expected) => found ++ " unexpected (expecting " ++ expected ++ ")"

/-- How a redirection opens a file. -/
inductive FileUse where
  | read
  | write
  /-- Writes even where files are protected. -/
  | overwrite
  | append
  | readWrite
deriving DecidableEq, Repr

mutual

/-- A part of a word. What is quoted is neither split into fields nor taken for a pattern. -/
inductive Part where
  | text (s : String) (isQuoted : Bool)
  /-- A parameter, with a word that may stand in its place. If `orEmpty`, an empty value counts as
      missing. -/
  | param (name : String) (treatment : Treatment) (orEmpty : Bool) (word : List Part)
      (isQuoted : Bool)
  /-- What a script writes. -/
  | output (script : Command) (isQuoted : Bool)
  /-- The value of an expression. -/
  | arithmetic (expression : List Part) (isQuoted : Bool)

/-- What a command does to one of its streams before it runs. -/
inductive Redirection where
  | file (stream : Nat) (use : FileUse) (path : List Part)
  /-- Lets a stream lead where another one leads, or closes it. -/
  | duplicate (stream : Nat) (source : List Part)
  /-- A document that stands in the script itself, by its number. -/
  | document (stream number : Nat)

inductive Command where
  | simple (line : Nat) (assignments : List (String × List Part)) (words : List (List Part))
      (redirections : List Redirection)
  | sequence (commands : List Command)
  | both (first second : Command)
  | either (first second : Command)
  | negated (command : Command)
  | pipe (commands : List Command)
  | background (command : Command)
  | subshell (line : Nat) (command : Command)
  | redirected (line : Nat) (command : Command) (redirections : List Redirection)
  | choice (condition yes no : Command)
  /-- A loop that goes on while the condition succeeds, or fails. -/
  | loop (goesOn : Bool) (condition body : Command)
  | each (line : Nat) (name : String) (words : Option (List (List Part))) (body : Command)
  | cases (line : Nat) (word : List Part) (branches : List (List (List Part) × Command))
  | define (name : String) (body : Command)

end

abbrev Word := List Part

def Command.nothing : Command := .sequence []

instance : Inhabited Command := ⟨.nothing⟩

/-- The text of a word in which nothing is quoted or expanded. -/
def plain? : Word → Option String
  | [] => some ""
  | .text s false :: rest => (plain? rest).map (s ++ ·)
  | _ => none

/-- The text of a word in which nothing is expanded, without its quotes. -/
def bareText : Word → String
  | [] => ""
  | .text s _ :: rest => s ++ bareText rest
  | _ :: rest => bareText rest

/-- Whether a part of a word is quoted. -/
def hasQuotes (word : Word) : Bool :=
  word.any fun
    | .text _ isQuoted => isQuoted
    | _ => false

def isNameStart (c : Char) : Bool :=
  c.isAlpha || c == '_'

/-- Whether a character may stand in the name of a variable. -/
def isNameChar (c : Char) : Bool :=
  c.isAlphanum || c == '_'

/-- Whether a text can be the name of a variable. -/
def isName (s : String) : Bool :=
  match s.toList with
  | [] => false
  | c :: rest => isNameStart c && rest.all isNameChar

/-- The name and the value of a word that is an assignment. -/
def assignment? (word : Word) : Option (String × Word) :=
  match word with
  | .text s false :: rest =>
    let chars := s.toList
    let name := chars.takeWhile isNameChar
    match chars.drop name.length with
    | '=' :: value =>
      if isName (String.ofList name) then
        some (String.ofList name,
          if value.isEmpty then rest else .text (String.ofList value) false :: rest)
      else none
    | _ => none
  | _ => none

/-- The words that are part of the language where a command may begin. -/
def reservedWords : List String :=
  ["!", "case", "do", "done", "elif", "else", "esac", "fi", "for", "if", "in", "then", "until",
    "while", "\x7b", "\x7d"]

end InfoFlow.Shell
