import InfoFlow.Sandbox.CharSet
import InfoFlow.Sandbox.Decimal
import InfoFlow.Sandbox.Utility.Reading

namespace InfoFlow.Sandbox.Letters

/-- A character of a set as it is written, and whether it is escaped, so that it stands for itself.
    -/
abbrev Mark := Char × Bool

/-- The marks of a set, with warnings about escapes that are not clear. -/
def marksOf : List Char → List Mark × List String
  | [] => ([], [])
  | ['\\'] =>
    ([('\\', false)], ["warning: an unescaped backslash at end of string is not portable"])
  | '\\' :: c :: rest =>
    let named := [('a', '\x07'), ('b', '\x08'), ('f', '\x0c'), ('n', '\n'), ('r', '\r'),
      ('t', '\t'), ('v', '\x0b'), ('\\', '\\')]
    let isOctal (c : Char) : Bool := '0' ≤ c && c ≤ '7'
    let value (c : Char) : Nat := c.toNat - 48
    if !isOctal c then
      let (marks, warnings) := marksOf rest
      (((named.lookup c).getD c, true) :: marks, warnings)
    else
      match rest with
      | d :: e :: more =>
        let two := value c * 8 + value d
        let three := two * 8 + value e
        if isOctal d && isOctal e then
          if three ≤ 255 then
            let (marks, warnings) := marksOf more
            ((Char.ofNat three, true) :: marks, warnings)
          else
            let (marks, warnings) := marksOf (e :: more)
            let digits := String.ofList [c, d]
            ((Char.ofNat two, true) :: marks,
              ("warning: the ambiguous octal escape \\" ++ digits ++ String.singleton e ++
                " is being\n\tinterpreted as the 2-byte sequence \\0" ++ digits ++ ", " ++
                String.singleton e) :: warnings)
        else if isOctal d then
          let (marks, warnings) := marksOf (e :: more)
          ((Char.ofNat two, true) :: marks, warnings)
        else
          let (marks, warnings) := marksOf (d :: e :: more)
          ((Char.ofNat (value c), true) :: marks, warnings)
      | [d] =>
        if isOctal d then ([(Char.ofNat (value c * 8 + value d), true)], [])
        else ([(Char.ofNat (value c), true), (d, false)],
          if d == '\\' then
            ["warning: an unescaped backslash at end of string is not portable"] else [])
      | [] => ([(Char.ofNat (value c), true)], [])
  | c :: rest =>
    let (marks, warnings) := marksOf rest
    ((c, false) :: marks, warnings)

/-- A part of a set. -/
inductive SetPart where
  | chars (cs : List Char)
  /-- A character as often as given, or as often as there is room. -/
  | filled (c : Char) (count : Option Nat)
  /-- One of the two classes that are changed into each other. -/
  | cases (isUpper : Bool)
  | named (cs : List Char)
  /-- All characters that count as the same as one. -/
  | equals (c : Char)

/-- All characters of some closed intervals of codes. -/
def ofRanges (ranges : List (Nat × Nat)) : List Char :=
  ranges.flatMap fun (low, high) => (List.range (high + 1 - low)).map fun n => Char.ofNat (low + n)

/-- What stands before two characters that are not escaped, and what follows them. -/
def untilPair (a b : Char) : List Mark → Option (List Mark × List Mark)
  | x :: y :: rest =>
    if x == (a, false) && y == (b, false) then some ([], rest)
    else (untilPair a b (y :: rest)).map fun (front, rest) => (x :: front, rest)
  | _ => none

/-- A character with a count in brackets, without the one that opens them. -/
def countedAt : List Mark → Except String (Option (SetPart × List Mark))
  | (c, _) :: ('*', false) :: rest =>
    let inner := rest.takeWhile (· != (']', false))
    match rest.drop inner.length with
    | [] => .ok none
    | _ :: rest =>
      let digits := inner.map (·.1)
      let base := if digits.head? == some '0' then 8 else 10
      if digits.all fun c => (Decimal.digitValue? base c).isSome then
        let count := Decimal.digitsValue base digits
        .ok (some (.filled c (if count == 0 then none else some count), rest))
      else
        .error ("invalid repeat count " ++ quotedWord (String.ofList digits) ++
          " in [c*n] construct")
  | _ => .ok none

/-- Whether a star, digits and a closing bracket follow a character. -/
def looksCounted (marks : List Mark) : Bool :=
  match marks.drop 1 with
  | ('*', false) :: rest =>
    (rest.dropWhile fun (c, isEscaped) => c.isDigit && !isEscaped).head? == some (']', false)
  | _ => false

/-- A class in brackets, without the one that opens them: between colons or equal signs. -/
def classAt (marks : List Mark) : Except String (Option (SetPart × List Mark)) :=
  match marks with
  | (':', false) :: inner =>
    match untilPair ':' ']' inner with
    | none => .ok none
    | some (name, rest) =>
      let name := String.ofList (name.map (·.1))
      if name.isEmpty then .error "missing character class name '[::]'"
      else if name == "upper" then .ok (some (.cases true, rest))
      else if name == "lower" then .ok (some (.cases false, rest))
      else
        match CharSet.classRanges? name with
        | some ranges => .ok (some (.named (ofRanges ranges), rest))
        | none =>
          if looksCounted marks then .ok none
          else .error ("invalid character class " ++ quotedWord name)
  | ('=', false) :: inner =>
    match untilPair '=' ']' inner with
    | none => .ok none
    | some ([(c, _)], rest) => .ok (some (.equals c, rest))
    | some (name, _) =>
      if name.isEmpty then .error "missing equivalence class character '[==]'"
      else if looksCounted marks then .ok none
      else .error (String.ofList (name.map (·.1)) ++
        ": equivalence class operand must be a single character")
  | _ => .ok none

/-- The parts of a set. Each step passes over a character at least, so the number of them is fuel
    enough. -/
def partsOf : Nat → List Mark → Except String (List SetPart)
  | 0, _ | _, [] => .ok []
  | fuel + 1, mark :: rest => do
    let inBrackets ←
      if mark == ('[', false) && rest.length ≥ 2 then
        match ← classAt rest with
        | some found => pure (some found)
        | none => countedAt rest
      else pure none
    match inBrackets, rest with
    | some (part, rest), _ => return part :: (← partsOf fuel rest)
    | none, ('-', false) :: (high, _) :: rest =>
      if high.toNat < mark.1.toNat then
        throw ("range-endpoints of '" ++ String.ofList [mark.1, '-', high] ++
          "' are in reverse collating sequence order")
      return .chars (ofRanges [(mark.1.toNat, high.toNat)]) :: (← partsOf fuel rest)
    | none, rest => return .chars [mark.1] :: (← partsOf fuel rest)

/-- The characters of a part, if it fills as much room as given. -/
def SetPart.expand (room : Nat) : SetPart → List Char
  | .chars cs | .named cs => cs
  | .filled c count => List.replicate (count.getD room) c
  | .cases true => ofRanges [(65, 90)]
  | .cases false => ofRanges [(97, 122)]
  | .equals c => [c]

def SetPart.fills : SetPart → Bool
  | .filled _ none => true
  | _ => false

def SetPart.isCase : SetPart → Bool
  | .cases _ => true
  | _ => false

def SetPart.isNamed : SetPart → Bool
  | .named _ => true
  | _ => false

def SetPart.isEquals : SetPart → Bool
  | .equals _ => true
  | _ => false

/-- The characters of a set, filled up to a length. -/
def expandAll (length : Nat) (parts : List SetPart) : List Char :=
  let known := (parts.map fun part => (part.expand 0).length).foldl (· + ·) 0
  parts.flatMap (·.expand (length - known))

/-- The places at which the two classes that are changed into each other begin. -/
def caseStarts (length : Nat) (parts : List SetPart) : List Nat :=
  let known := (parts.map fun part => (part.expand 0).length).foldl (· + ·) 0
  (parts.foldl (fun (found, place) part =>
    (if part.isCase then found ++ [place] else found,
      place + (part.expand (length - known)).length)) (([] : List Nat), 0)).1

/-- A list made as long as another one by repeating its last character. -/
def lengthened (length : Nat) (cs : List Char) : List Char :=
  match cs.getLast? with
  | none => cs
  | some c => cs ++ List.replicate (length - cs.length) c

/-- Takes characters of a set together where they follow themselves. -/
def squeeze (isIn : Char → Bool) (last : Option Char) : List Char → List Char
  | [] => []
  | c :: rest =>
    if last == some c && isIn c then squeeze isIn last rest
    else c :: squeeze isIn (some c) rest

/-- The last character that stands at the place of another one. -/
def changed (places : List (Char × Char)) (c : Char) : Char :=
  ((places.reverse.find? (·.1 == c)).map (·.2)).getD c

/-- What the utility does. -/
structure Wish where
  complement : Bool
  deletes : Bool
  squeezes : Bool
  truncates : Bool

/-- The characters that are changed, and those that they become. -/
def Wish.places (wish : Wish) (first second : List SetPart) :
    Except String (List Char × List Char) := do
  let given := expandAll 0 first
  let sources :=
    if wish.complement then (ofRanges [(0, 255)]).filter (!given.contains ·) else given
  if (second.filter SetPart.fills).length > 1 then
    throw "only one [c*] repeat construct may appear in string2"
  if second.any SetPart.isEquals then
    throw "[=c=] expressions may not appear in string2 when translating"
  if second.any SetPart.isNamed then
    throw ("when translating, the only character classes that may appear in\n" ++
      "string2 are 'upper' and 'lower'")
  let targets := expandAll sources.length second
  let starts := caseStarts 0 first
  if !wish.complement && (caseStarts sources.length second).any fun place =>
      place ≤ sources.length && !starts.contains place then
    throw "misaligned [:upper:] and/or [:lower:] construct"
  if sources.length > targets.length && !wish.truncates then
    if targets.isEmpty then throw "when not truncating set1, string2 must be non-empty"
    if (second.getLast?.map SetPart.isCase).getD false then
      throw ("when translating with string1 longer than string2,\n" ++
        "the latter string must not end with a character class")
  let lengths := if wish.truncates then targets else lengthened sources.length targets
  if wish.complement && first.any (fun part => part.isCase || part.isNamed) &&
      !(lengths.length == sources.length && lengths.all (· == lengths.headD ' ')) then
    throw ("when translating with complemented character classes,\n" ++
      "string2 must map all characters in the domain to one")
  return (sources, lengths)

/-- A text as a wish and its sets make it. -/
def Wish.apply (wish : Wish) (first : List SetPart) (second : Option (List SetPart)) :
    Except String (List Char → List Char) := do
  if first.any SetPart.fills then
    throw "the [c*] repeat construct may not appear in string1"
  let given := expandAll 0 first
  let isFirst (c : Char) : Bool := given.contains c != wish.complement
  match second with
  | none =>
    if wish.deletes then return fun text => text.filter (!isFirst ·)
    else return squeeze isFirst none
  | some second =>
    if wish.deletes then
      if second.any SetPart.fills then
        throw "the [c*] construct may appear in string2 only when translating"
      let squeezed := expandAll 0 second
      return fun text => squeeze (squeezed.contains ·) none (text.filter (!isFirst ·))
    else
      let (sources, targets) ← wish.places first second
      let places := sources.zip targets
      let table := ((ofRanges [(0, 255)]).map (changed places)).toArray
      return fun text =>
        let found := text.map fun c => (table[c.toNat]?).getD c
        if wish.squeezes then squeeze (targets.contains ·) none found else found

def change : Program :=
  Usage.program {
    switches := [⟨'c', ["complement"], .never⟩, ⟨'C', [], .never⟩, ⟨'d', ["delete"], .never⟩,
      ⟨'s', ["squeeze-repeats"], .never⟩, ⟨'t', ["truncate-set1"], .never⟩], mixed := false }
    fun name options => do
    let wish : Wish := {
      complement := options.has 'c' || options.has 'C', deletes := options.has 'd'
      squeezes := options.has 's', truncates := options.has 't' }
    let fail (message : String) (more : String) : Run Nat := do
      report name message
      emit 2 (Raw.toBytes (more ++ "Try '" ++ name ++ " --help' for more information.\n"))
      return 1
    match options.operands with
    | [] => fail "missing operand" ""
    | _ :: _ :: extra :: _ => fail ("extra operand " ++ quotedWord extra) ""
    | [one] =>
      if wish.deletes == wish.squeezes then
        fail ("missing operand after " ++ quotedWord one)
          (if wish.deletes then
            "Two strings must be given when both deleting and squeezing repeats.\n"
          else "Two strings must be given when translating.\n")
      else run name wish one none
    | [one, two] =>
      if wish.deletes && !wish.squeezes then
        fail ("extra operand " ++ quotedWord two)
          "Only one string may be given when deleting without squeezing repeats.\n"
      else run name wish one (some two)
where
  run (name : String) (wish : Wish) (one : String) (two : Option String) : Run Nat := do
    let partsIn (text : String) : Run (Option (List SetPart)) := do
      let (marks, warnings) := marksOf text.toList
      warnings.forM (report name)
      match partsOf marks.length marks with
      | .ok parts => return some parts
      | .error message =>
        report name message
        return none
    let some first ← partsIn one | return 1
    let second ← two.mapM partsIn
    if second.any Option.isNone then return 1
    match wish.apply first (second.bind id) with
    | .error message =>
      report name message
      return 1
    | .ok change =>
      say (String.ofList (change (Raw.ofBytes (← readStream 0)).toList))
      return 0

end InfoFlow.Sandbox.Letters
