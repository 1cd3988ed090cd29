import InfoFlow.Sandbox.Regex

namespace InfoFlow.Awk

open Sandbox

/-- How regular expressions are written. -/
def regexStyle : Regex.Style where
  isExtended := true
  atFront := .refused
  refusesVacant := true
  reversed := .spelled
  escapesInSets := true
  escapes := [('n', '\n'), ('t', '\t'), ('r', '\r'), ('a', '\x07'), ('f', '\x0c'), ('v', '\x0b')]

/-- Reads a regular expression, or tells why the text is none. -/
def readRegex (text : String) : Except String Regex :=
  match Regex.ofText regexStyle text.toList with
  | .ok regex => .ok regex
  | .error flaw =>
    let isAnchorRepeated := (text.splitOn "^*").length > 1 || (text.splitOn "^+").length > 1
    let reason :=
      match flaw with
      | .set _ => "bad class -- [], [^] or ["
      | .openGroup => "missing ')'"
      | .badCount => "bad interval expression"
      | .tooLarge => "resource exhaustion -- regular expression too large"
      | _ => if isAnchorRepeated then "syntax error ^* or ^+" else "missing operand"
    .error ("regular expression compile failed (" ++ reason ++ ")\n" ++ text)

/-- The signs between two values. -/
inductive BinarySign where
  | add
  | subtract
  | multiply
  | divide
  | remainder
  | power
deriving DecidableEq, Repr

inductive Comparison where
  | less
  | atMost
  | equal
  | different
  | more
  | atLeast
deriving DecidableEq, Repr

inductive Expr where
  | number (x : Float)
  | text (s : String)
  /-- An expression that is matched with the record where a value is asked for. -/
  | regex (regex : Regex)
  | global (name : String)
  | field (index : Expr)
  | element (array : String) (indices : List Expr)
  | assign (target value : Expr)
  | update (sign : BinarySign) (target value : Expr)
  /-- Adds to a variable; the value is the one before or after that. -/
  | step (target : Expr) (isUp isBefore : Bool)
  | binary (sign : BinarySign) (a b : Expr)
  | compare (test : Comparison) (a b : Expr)
  | concat (a b : Expr)
  | and (a b : Expr)
  | or (a b : Expr)
  | not (a : Expr)
  | negate (a : Expr)
  | plus (a : Expr)
  | choice (condition a b : Expr)
  | isMatch (isNegated : Bool) (a regex : Expr)
  | member (indices : List Expr) (array : String)
  /-- Values in brackets. More than one are an index, or what is written. -/
  | group (items : List Expr)
  | call (name : String) (args : List Expr)
  | builtin (name : String) (args : List Expr)
  /-- Reads the next record, of a file, of what a command writes, or of the main input. -/
  | readLine (target : Option Expr) (file command : Option Expr)
deriving Inhabited

/-- Where something is written. -/
inductive Destination where
  | output
  | file (name : Expr) (atEnd : Bool)
  | command (words : Expr)

inductive Statement where
  | expr (e : Expr)
  | print (items : List Expr) (destination : Destination)
  | printFormatted (items : List Expr) (destination : Destination)
  | cond (condition : Expr) (yes no : Statement)
  | while (condition : Expr) (body : Statement)
  | doWhile (body : Statement) (condition : Expr)
  | for (first : Statement) (condition : Option Expr) (step : Statement) (body : Statement)
  | forEach (name array : String) (body : Statement)
  | block (body : List Statement)
  | next
  | nextFile
  | exit (status : Option Expr)
  | return (value : Option Expr)
  | break
  | continue
  | delete (array : String) (indices : Option (List Expr))
deriving Inhabited

/-- Of which records something is done. -/
inductive Condition where
  | begin
  | ending
  | always
  | holds (e : Expr)
  /-- From one record to another, both included. -/
  | range (first last : Expr)

structure Rule where
  condition : Condition
  /-- Without a body the record is written. -/
  body : Option Statement

structure Function where
  parameters : List String
  body : Statement

structure Program where
  rules : List Rule := []
  functions : List (String × Function) := []

end InfoFlow.Awk
