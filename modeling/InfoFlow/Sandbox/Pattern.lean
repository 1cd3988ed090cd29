import InfoFlow.Sandbox.CharSet

namespace InfoFlow.Sandbox

/-- A text in which each character knows whether it was quoted. -/
abbrev Field := List (Char × Bool)

def Field.text (field : Field) : String :=
  String.ofList (field.map Prod.fst)

inductive PatternItem where
  | any
  | one (set : CharSet)
deriving Repr

abbrev Pattern := List PatternItem

namespace Pattern

/-- Reads a field as a pattern. Each step passes over at least one character, so the length of the
    field is fuel enough. -/
def read : Nat → Field → Pattern
  | 0, _ | _, [] => []
  | fuel + 1, ('*', false) :: rest => .any :: read fuel rest
  | fuel + 1, ('?', false) :: rest => .one { isNegated := true } :: read fuel rest
  | fuel + 1, ('\\', false) :: (c, _) :: rest => .one (.single c) :: read fuel rest
  | fuel + 1, ('[', false) :: rest =>
    match (CharSet.ofBrackets ['!', '^'] rest).toOption with
    | some (set, rest) => .one set :: read fuel rest
    | none => .one (.single '[') :: read fuel rest
  | fuel + 1, (c, _) :: rest => .one (.single c) :: read fuel rest

def ofField (field : Field) : Pattern :=
  read field.length field

/-- A pattern in which nothing is quoted. -/
def ofText (text : String) : Pattern :=
  ofField (text.toList.map (·, false))

/-- Whether a test holds of a text or of what is left of it after some characters. -/
def someRest (test : List Char → Bool) : List Char → Bool
  | [] => test []
  | c :: rest => test (c :: rest) || someRest test rest

/-- Whether a pattern matches a whole text. -/
def isMatch : Pattern → List Char → Bool
  | [], text => text.isEmpty
  | .one set :: pattern, c :: text => set.has c && isMatch pattern text
  | .one _ :: _, [] => false
  | .any :: pattern, text =>
    pattern.isEmpty || someRest (isMatch pattern) text

/-- Whether a field may match other texts than its own. -/
def isOpen (field : Field) : Bool :=
  field.any fun (c, isQuoted) => !isQuoted && (c == '*' || c == '?' || c == '[')

/-- Takes a match off the front of a text, the shortest or the longest one. -/
def dropFront (longest : Bool) (pattern : Pattern) (text : List Char) : List Char :=
  let lengths := List.range (text.length + 1)
  let ordered := if longest then lengths.reverse else lengths
  match ordered.find? fun n => isMatch pattern (text.take n) with
  | some n => text.drop n
  | none => text

/-- Takes a match off the end of a text, the shortest or the longest one. -/
def dropBack (longest : Bool) (pattern : Pattern) (text : List Char) : List Char :=
  let lengths := List.range (text.length + 1)
  let ordered := if longest then lengths else lengths.reverse
  match ordered.find? fun n => isMatch pattern (text.drop n) with
  | some n => text.take n
  | none => text

end Pattern

end InfoFlow.Sandbox
