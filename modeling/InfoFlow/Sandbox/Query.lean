import InfoFlow.Sandbox.Raw
import InfoFlow.Sandbox.Regex

namespace InfoFlow.Sandbox

/-- What lines are searched for. -/
structure Query where
  regexes : List Regex
  isCaseless : Bool := false
  /-- Whether an expression must cover whole words, or the whole line. -/
  wholeWords : Bool := false
  wholeLine : Bool := false

namespace Query

/-- Whether what an expression covers may begin or end where it does. -/
def mayCover (query : Query) (subject : Regex.Subject) (first last : Nat) : Bool :=
  (!query.wholeLine || (first == 0 && last == subject.text.size)) &&
    (!query.wholeWords || (!subject.isWordBefore first && !subject.isWordAt last))

/-- The end of the longest part that an expression covers from a position on. -/
def endFrom? (query : Query) (subject : Regex.Subject) (first : Nat) (regex : Regex) :
    Option Nat :=
  let lasts :=
    if regex.refers then
      (List.range (subject.text.size + 1 - first)).filterMap fun n =>
        (Regex.follow subject regex first [] fun last groups =>
          if last == first + n then some groups else none).map fun _ => first + n
    else Regex.ends subject regex first
  (lasts.filter (query.mayCover subject first)).max?

/-- The first part of a line that is found from a position on, and the longest of those. -/
def partFrom? (query : Query) (subject : Regex.Subject) (position : Nat) : Option (Nat × Nat) :=
  (List.range (subject.text.size + 1 - position)).findSome? fun n =>
    ((query.regexes.filterMap (query.endFrom? subject (position + n))).max?).map (position + n, ·)

def isIn (query : Query) (line : List Char) : Bool :=
  (query.partFrom? (.ofText line query.isCaseless) 0).isSome

/-- All parts of a line that are found and not empty, each after the one before it. -/
def partsFrom (query : Query) (subject : Regex.Subject) : Nat → Nat → List (Nat × Nat)
  | 0, _ => []
  | fuel + 1, position =>
    match query.partFrom? subject position with
    | none => []
    | some (first, last) =>
      if first == last then partsFrom query subject fuel (first + 1)
      else (first, last) :: partsFrom query subject fuel last

def parts (query : Query) (line : List Char) : List (Nat × Nat) :=
  query.partsFrom (.ofText line query.isCaseless) (line.length + 1) 0

end Query

/-- What is told of the lines that are selected. -/
inductive Telling where
  | lines
  | parts
  | count
  /-- The names of the documents that have such lines, or of those that have none. -/
  | names (ofThose : Bool)
  | nothing
deriving DecidableEq

/-- What is done with documents that hold the character zero. -/
inductive ZeroUse where
  /-- Nothing is told of them but that lines of them are selected. -/
  | mentioned
  | told
  /-- No lines of them are selected. -/
  | passed
deriving DecidableEq

/-- How lines are searched for and told. -/
structure Searching where
  query : Query
  isInverted : Bool
  telling : Telling
  limit : Option Nat
  before : Nat
  after : Nat
  /-- What keeps groups of neighbouring lines apart. -/
  gap : Option String
  showsNames : Bool
  showsNumbers : Bool
  showsOffsets : Bool
  zeros : ZeroUse
  /-- What ends a line. -/
  ender : Char
  /-- Whether the character zero ends names. -/
  endsNames : Bool
  isAligned : Bool
  isColored : Bool

/-- What is selected of a document. -/
structure Selection where
  told : String := ""
  isFound : Bool := false
  /-- Whether lines were told, so that a gap must come before the next ones. -/
  isUsed : Bool := false
  /-- Whether a document is only mentioned. -/
  isMentioned : Bool := false
  /-- How much follows the last line that could be selected. -/
  left : Nat := 0

namespace Searching

/-- A text in a color. -/
def colored (searching : Searching) (color text : String) : String :=
  if searching.isColored then
    "\x1b[" ++ color ++ "m\x1b[K" ++ text ++ "\x1b[m\x1b[K"
  else text

def shownName (searching : Searching) (name : String) : String :=
  searching.colored "35" name

def shownMark (searching : Searching) (mark : String) : String :=
  searching.colored "36" mark

/-- A name, and a mark behind it. -/
def nameLabel (searching : Searching) (name mark : String) : String :=
  if searching.showsNames then
    searching.shownName name ++ if searching.endsNames then "\x00" else searching.shownMark mark
  else ""

/-- What stands in front of a line or a part of one. The numbers are as wide as is told. -/
def label (searching : Searching) (width : Nat) (name mark : String) (number offset : Nat)
    (isEmpty : Bool) : String :=
  let shownNumber (n : Nat) : String :=
    let digits := toString n
    searching.colored "32"
      (String.ofList (List.replicate (width - digits.length) ' ') ++ digits) ++
        searching.shownMark mark
  let text := searching.nameLabel name mark ++
    (if searching.showsNumbers then shownNumber number else "") ++
    (if searching.showsOffsets then shownNumber offset else "")
  if searching.isAligned && !text.isEmpty && !isEmpty then text ++ "\t" else text

/-- The lines of a text, which the last one need not end. -/
def linesOf (ender : Char) (text : String) : List String :=
  let parts := Raw.parts (· == ender) text
  if parts.getLast? == some "" then parts.dropLast else parts

/-- The numbers of the lines that are selected. -/
def selected (searching : Searching) (lines : List String) : List Nat :=
  let found := (lines.mapIdx fun n line => (n, line)).filterMap fun (n, line) =>
    if searching.query.isIn line.toList != searching.isInverted then some n else none
  match searching.limit with
  | some limit => found.take limit
  | none => found

/-- Where the lines begin. -/
def offsets (lines : List String) : List Nat :=
  (lines.foldl (fun (starts, position) line => (position :: starts, position + line.length + 1))
    (([] : List Nat), 0)).1.reverse

/-- A line in which the given parts are colored. -/
def coloredParts (searching : Searching) (line : List Char) : Nat → List (Nat × Nat) → String
  | position, [] => String.ofList (line.drop position)
  | position, (first, last) :: rest =>
    let cut (a b : Nat) : String := String.ofList ((line.drop a).take (b - a))
    cut position first ++ searching.colored "01;31" (cut first last) ++
      coloredParts searching line last rest

/-- What is told of a line. Its parts are those that are found, which is of use where the line is
    there because of them. -/
def tellLine (searching : Searching) (width : Nat) (name : String) (isSelected : Bool)
    (number start : Nat) (line : String) : String :=
  let mark := if isSelected then ":" else "-"
  let chars := line.toList
  let ender := String.singleton searching.ender
  let hasParts := isSelected != searching.isInverted
  if searching.telling == .parts then
    if hasParts then
      String.join ((searching.query.parts chars).map fun (first, last) =>
        searching.label width name mark number (start + first) false ++
          searching.colored "01;31" (String.ofList ((chars.drop first).take (last - first))) ++
            ender)
    else ""
  else
    let body :=
      if searching.isColored && hasParts then
        searching.coloredParts chars 0 (searching.query.parts chars)
      else line
    searching.label width name mark number start line.isEmpty ++ body ++ ender

/-- The lines that are told, with the lines around them. `isUsed` tells whether there are others
    before them. -/
def tellLines (searching : Searching) (isUsed : Bool) (width : Nat) (name : String)
    (lines : List String) (found : List Nat) : String :=
  let starts := (offsets lines).toArray
  let isShown (n : Nat) : Bool :=
    found.any fun m => m ≤ n + searching.before && n ≤ m + searching.after
  let shown := (lines.mapIdx fun n line => (n, line)).filter fun (n, _) => isShown n
  let first : Option Nat := none
  (shown.foldl (fun (text, previous) (n, line) =>
    let isApart :=
      match previous with
      | some m => decide (m + 1 < n)
      | none => isUsed
    let gap :=
      match searching.gap with
      | some gap => if isApart then searching.shownMark gap ++ "\n" else ""
      | none => ""
    (text ++ gap ++ searching.tellLine width name (found.contains n) (n + 1)
      ((starts[n]?).getD 0) line, some n)) ("", first)).1

/-- What is told of a document. -/
def tell (searching : Searching) (isUsed : Bool) (width : Nat) (name text : String) : Selection :=
  let hasZeros := searching.ender != '\x00' && text.toList.contains '\x00'
  let isPassed := hasZeros && searching.zeros == .passed
  let lines :=
    if isPassed then []
    else if hasZeros && searching.zeros == .mentioned then
      linesOf '\n' (String.ofList (text.toList.map fun c => if c == '\x00' then '\n' else c))
    else linesOf searching.ender text
  let found := searching.selected lines
  let isFound := !found.isEmpty
  let used := (lines.take ((found.getLast?.map (· + 1)).getD 0)).foldl (· + ·.length + 1) 0
  let left := if searching.limit == some found.length then text.length - used else 0
  match searching.telling with
  | .nothing => { isFound, isUsed }
  | .count =>
    { isFound, isUsed, left, told := searching.nameLabel name ":" ++ toString found.length ++ "\n" }
  | .names ofThose =>
    let told := searching.shownName name ++ if searching.endsNames then "\x00" else "\n"
    { isFound, isUsed, told := if isFound == ofThose then told else "" }
  | .parts | .lines =>
    if isFound && hasZeros && searching.zeros == .mentioned then
      { isFound, isUsed, isMentioned := true }
    else
      { isFound, left, isUsed := isUsed || isFound,
        told := searching.tellLines isUsed width name lines found }

end Searching

end InfoFlow.Sandbox
