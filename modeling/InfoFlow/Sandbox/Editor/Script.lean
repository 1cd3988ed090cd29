import InfoFlow.Sandbox.Regex

namespace InfoFlow.Editor

open Sandbox

/-- An expression in a script. One that is empty stands for the one that was used last. -/
structure Search where
  regex : Option Regex
  isCaseless : Bool := false
  hasLines : Bool := false
deriving Repr

inductive Address where
  | line (n : Nat)
  /-- Every line whose number is so many steps from the first. -/
  | step (first stride : Nat)
  | last
  | search (search : Search)
deriving Repr

/-- Where a range of lines ends. -/
inductive RangeEnd where
  | address (address : Address)
  | after (n : Nat)
  | multiple (n : Nat)
deriving Repr

/-- At which lines a command is carried out. -/
inductive Guard where
  | always
  | single (address : Address)
  | range (first : Address) (last : RangeEnd)
deriving Repr

/-- A change of case in what takes the place of a match. -/
inductive CaseChange where
  | upper
  | lower
  | upperNext
  | lowerNext
  | none
deriving DecidableEq, Repr

/-- A part of what takes the place of a match. -/
inductive ReplacementPart where
  | text (s : List Char)
  | group (n : Nat)
  | change (change : CaseChange)
deriving Repr

structure Substitution where
  search : Search
  replacement : List ReplacementPart
  /-- The number of the first match that is replaced. -/
  first : Nat := 1
  /-- Whether the matches after it are replaced too. -/
  isGlobal : Bool := false
  prints : Bool := false
  writesTo : Option String := .none
deriving Repr

/-- When a jump is made. -/
inductive Jump where
  | always
  | ifReplaced
  | unlessReplaced
deriving DecidableEq, Repr

inductive Act where
  | blockStart
  | blockEnd
  | label (name : String)
  | jump (jump : Jump) (label : Option String)
  | number
  | append (text : String)
  | insert (text : String)
  | change (text : String)
  | delete
  | deleteLine
  | get
  | getAppend
  | hold
  | holdAppend
  | exchange
  | reveal (width : Option Nat)
  | next
  | nextAppend
  | print
  | printLine
  | quit (status : Nat) (prints : Bool)
  | substitute (substitution : Substitution)
  | translate (table : List (Char × Char))
  | readFile (path : String)
  | readLine (path : String)
  | writeFile (path : String) (firstOnly : Bool)
  | empty
  | name
  | nothing
deriving Repr

structure Command where
  guard : Guard := .always
  isNegated : Bool := false
  act : Act
deriving Repr

abbrev Script := Array Command

end InfoFlow.Editor
