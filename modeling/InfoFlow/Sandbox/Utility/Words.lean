import InfoFlow.Sandbox.Condition
import InfoFlow.Sandbox.Escape
import InfoFlow.Sandbox.Regex
import InfoFlow.Sandbox.Utility.Files

namespace InfoFlow.Sandbox

/-- Whether an argument is switches of a message. -/
def isMessageSwitch (arg : String) : Bool :=
  match arg.toList with
  | '-' :: c :: rest => (c :: rest).all ['n', 'e', 'E'].contains
  | _ => false

def echoWords : Program := fun _ args => do
  let switches := (args.takeWhile isMessageSwitch).flatMap (·.toList.drop 1)
  let text := (" ".intercalate (args.dropWhile isMessageSwitch)).toList
  let last := switches.foldl (fun last c => if c == 'n' then last else c) 'E'
  let (found, isStopped) :=
    if last == 'e' then
      let text := Escape.withOctal text.length text
      Escape.message text.length text
    else (text, false)
  say (String.ofList (if switches.contains 'n' || isStopped then found else found ++ ['\n']))
  return 0

def printWords : Program := fun name args => do
  let args := if args.head? == some "--" then args.drop 1 else args
  match args with
  | [] => lacking name "missing operand"
  | format :: values =>
    let chars := format.toList
    let format := String.ofList (Escape.withOctal chars.length chars)
    let written := Written.ofFormat .extended format values
    written.complaints.forM fun complaint =>
      report name (quotedName complaint.value ++ ": " ++
        match complaint.fault with
        | .notNumber => "expected a numeric value"
        | .partly => "value not completely converted"
        | .tooLarge => "Numerical result out of range")
    say (String.ofList written.text)
    if let some value := written.unused then
      report name ("warning: ignoring excess arguments, starting with " ++ quotedName value)
    match written.flaw with
    | some (directive, _) =>
      report name (directive ++ ": invalid conversion specification")
      return 1
    | none => return if written.complaints.isEmpty then 0 else 1

/-- Writes a line again and again, for as long as it can be read by any other utility. -/
def repeatLine : Program := fun _ args => do
  let args := if args.head? == some "--" then args.drop 1 else args
  let line := if args.isEmpty then "y" else " ".intercalate args
  say (String.join (List.replicate 4096 (line ++ "\n")))
  return 0

namespace Trial

/-- The words that are left, behind the last one that was read. -/
structure Reading where
  done : List String := []
  words : List String

abbrev Trying := StateT Reading (Except String)

def peek (n : Nat) : Trying (Option String) :=
  return (← get).words[n]?

def left : Trying Nat :=
  return (← get).words.length

def fail {α : Type} (message : String) : Trying α :=
  throw message

/-- Nothing is left though something should be. -/
def beyond {α : Type} : Trying α := do
  let reading ← get
  let last := (reading.words.getLast? <|> reading.done.head?).getD ""
  fail ("missing argument after " ++ quotedName last)

def next : Trying String := do
  let reading ← get
  match reading.words with
  | [] => beyond
  | word :: rest =>
    set ({ done := word :: reading.done, words := rest } : Reading)
    return word

def isBinary (word : Option String) : Bool :=
  word.any fun word => word == "==" || Condition.binary.contains word

def isUnary (word : String) : Bool :=
  match word.toList with
  | ['-', _] => true
  | _ => false

def integer (s : String) : Trying Int :=
  match Condition.integer? s with
  | some n => return n
  | none => fail ("invalid integer " ++ quotedName s)

/-- A condition on two words. -/
def between (machine : Machine) : Trying Bool := do
  let a ← next
  let test ← next
  let b ← next
  if (Condition.holdsOfNumbers? test 0 0).isSome then
    let a ← integer a
    let b ← integer b
    return (Condition.holdsOfNumbers? test a b).getD false
  else if test == "-nt" then return machine.leadsToNode a && !machine.leadsToNode b
  else if test == "-ot" then return !machine.leadsToNode a && machine.leadsToNode b
  else
    match Condition.holdsBetween machine (if test == "==" then "=" else test) a b with
    | .ok holds => return holds
    | .error message => fail message

/-- A condition on one word. -/
def ofOne (machine : Machine) : Trying Bool := do
  let test ← next
  if Condition.unary.contains test then
    if (← left) == 0 then beyond
    return Condition.holdsOf machine test (← next)
  else fail (quotedName test ++ ": unary operator expected")

def oneWord : Trying Bool :=
  return !(← next).isEmpty

def twoWords (machine : Machine) : Trying Bool := do
  match ← peek 0 with
  | some "!" =>
    let _ ← next
    return !(← oneWord)
  | some word => if isUnary word then ofOne machine else beyond
  | none => beyond

mutual

def threeWords (machine : Machine) : Nat → Trying Bool
  | 0 => return false
  | fuel + 1 => do
    let first ← peek 0
    let second ← peek 1
    let third ← peek 2
    if isBinary second then between machine
    else if first == some "!" then
      let _ ← next
      return !(← twoWords machine)
    else if first == some "(" && third == some ")" then
      let _ ← next
      let holds ← oneWord
      let _ ← next
      return holds
    else if second == some "-a" || second == some "-o" then either machine fuel
    else fail (quotedName (second.getD "") ++ ": binary operator expected")

def fourWords (machine : Machine) : Nat → Trying Bool
  | 0 => return false
  | fuel + 1 => do
    let first ← peek 0
    let last ← peek 3
    if first == some "!" then
      let _ ← next
      return !(← threeWords machine fuel)
    else if first == some "(" && last == some ")" then
      let _ ← next
      let holds ← twoWords machine
      let _ ← next
      return holds
    else either machine fuel

/-- A condition that is so many words. -/
def ofCount (machine : Machine) (count : Nat) : Nat → Trying Bool
  | 0 => return false
  | fuel + 1 =>
    match count with
    | 1 => oneWord
    | 2 => twoWords machine
    | 3 => threeWords machine fuel
    | 4 => fourWords machine fuel
    | _ => either machine fuel

/-- A single condition. -/
def term (machine : Machine) : Nat → Trying Bool
  | 0 => return false
  | fuel + 1 => do
    match ← peek 0 with
    | none => beyond
    | some "!" =>
      let _ ← next
      if (← left) == 0 then beyond
      return !(← term machine fuel)
    | some "(" =>
      let _ ← next
      let words := (← get).words
      if words.isEmpty then beyond
      let count := 1 + ((words.drop 1).takeWhile (· != ")")).length
      let count := if count ≥ 4 then words.length else count
      let holds ← ofCount machine count fuel
      match ← peek 0 with
      | some ")" =>
        let _ ← next
        return holds
      | none => fail "')' expected"
      | some word => fail ("')' expected, found " ++ word)
    | some word =>
      if isBinary (← peek 1) && (← left) ≥ 3 then between machine
      else if isUnary word then ofOne machine
      else oneWord

def both (machine : Machine) : Nat → Trying Bool
  | 0 => return false
  | fuel + 1 => do
    let first ← term machine fuel
    match ← peek 0 with
    | some "-a" =>
      let _ ← next
      let second ← both machine fuel
      return first && second
    | _ => return first

def either (machine : Machine) : Nat → Trying Bool
  | 0 => return false
  | fuel + 1 => do
    let first ← both machine fuel
    match ← peek 0 with
    | some "-o" =>
      let _ ← next
      let second ← either machine fuel
      return first || second
    | _ => return first

end

/-- Whether a condition holds. No word may be left over. -/
def evaluate (machine : Machine) (words : List String) : Except String Bool :=
  if words.isEmpty then .ok false
  else
    let body : Trying Bool := do
      let holds ← ofCount machine words.length (8 * words.length + 8)
      match ← peek 0 with
      | some word => fail ("extra argument " ++ quotedName word)
      | none => return holds
    (body.run { words }).map Prod.fst

/-- The status that tells whether a condition holds. -/
def answer (name : String) (words : List String) : Run Nat := do
  match evaluate (← get) words with
  | .ok true => return 0
  | .ok false => return 1
  | .error message =>
    report name message
    return 2

end Trial

def testWords : Program := fun name args => Trial.answer name args

def bracketWords : Program := fun name args => do
  if args.getLast? == some "]" then Trial.answer name args.dropLast
  else
    report name "missing ']'"
    return 2

namespace Sum

/-- Why some words are no expression. -/
abbrev Summing := StateT (List String × String) (Except String)

def isNull (s : String) : Bool :=
  let digits := if s.toList.head? == some '-' then s.toList.drop 1 else s.toList
  s.isEmpty || (!digits.isEmpty && digits.all (· == '0'))

def integer? (s : String) : Option Int :=
  let (isNegative, digits) :=
    match s.toList with
    | '-' :: rest => (true, rest)
    | chars => (false, chars)
  if digits.isEmpty || !digits.all Char.isDigit then none
  else
    let n : Int := Decimal.digitsValue 10 digits
    some (if isNegative then -n else n)

def integer (s : String) : Summing Int :=
  match integer? s with
  | some n => return n
  | none => throw "non-integer argument"

def peek : Summing (Option String) :=
  return (← get).1.head?

def next : Summing String := do
  match ← get with
  | ([], last) => throw ("syntax error: missing argument after " ++ quotedName last)
  | (word :: rest, _) =>
    set (rest, word)
    return word

/-- What an expression matches at the front of a text: the part in its brackets, or how much. -/
def matched (text pattern : String) : Summing String := do
  match Regex.ofText .plain pattern.toList with
  | .error flaw => throw flaw.message
  | .ok regex =>
    let found := Regex.matchAt? (.ofText text.toList) regex 0
    if regex.groupCount == 0 then
      return toString (((found.bind (·.lookup 0)).map fun (first, last) => last - first).getD 0)
    else
      return (((found.bind (·.lookup 1)).map fun (first, last) =>
        String.ofList ((text.toList.drop first).take (last - first))).getD "")

def compared (test a b : String) : Bool :=
  let order :=
    match integer? a, integer? b with
    | some m, some n => compare m n
    | _, _ => compare a b
  match test with
  | "<" => order.isLT
  | "<=" => order.isLE
  | ">" => order.isGT
  | ">=" => order.isGE
  | "!=" => order.isNe
  | _ => order.isEq

def arithmetic (sign a b : String) : Summing String := do
  let m ← integer a
  let n ← integer b
  match sign with
  | "+" => return toString (m + n)
  | "-" => return toString (m - n)
  | "*" => return toString (m * n)
  | _ =>
    if n == 0 then throw "division by zero"
    return toString (if sign == "/" then m.tdiv n else m.tmod n)

/-- The signs that join two values, the loosest first. -/
def levels : List (List String) :=
  [["|"], ["&"], ["<", "<=", "=", "==", "!=", ">=", ">"], ["+", "-"], ["*", "/", "%"], [":"]]

def join (sign a b : String) : Summing String := do
  match sign with
  | "|" => return if !isNull a then a else if !isNull b then b else "0"
  | "&" => return if isNull a || isNull b then "0" else a
  | ":" => matched a b
  | "+" | "-" | "*" | "/" | "%" => arithmetic sign a b
  | _ => return if compared sign a b then "1" else "0"

mutual

/-- Reads values that are joined by signs of some levels. -/
def level : Nat → List (List String) → Summing String
  | 0, _ => return ""
  | fuel + 1, [] => primary fuel
  | fuel + 1, signs :: inner => do
    let first ← level fuel inner
    joined fuel signs inner first

def joined : Nat → List String → List (List String) → String → Summing String
  | 0, _, _, first => return first
  | fuel + 1, signs, inner, first => do
    match ← peek with
    | none => return first
    | some sign =>
      if signs.contains sign then
        let _ ← next
        let second ← level fuel inner
        joined fuel signs inner (← join sign first second)
      else return first

def primary : Nat → Summing String
  | 0 => return ""
  | fuel + 1 => do
    let word ← next
    match word with
    | "(" =>
      let value ← level fuel levels
      match ← peek with
      | some ")" =>
        let _ ← next
        return value
      | none => throw ("syntax error: expecting ')' after " ++ quotedName (← get).2)
      | some other => throw ("syntax error: expecting ')' instead of " ++ quotedName other)
    | ")" => throw "syntax error: unexpected ')'"
    | "+" => next
    | "length" => return toString (← primary fuel).length
    | "match" =>
      let text ← primary fuel
      matched text (← primary fuel)
    | "index" =>
      let text ← primary fuel
      let chars := (← primary fuel).toList
      return toString (((text.toList.findIdx? chars.contains).map (· + 1)).getD 0)
    | "substr" =>
      let text ← primary fuel
      let position ← primary fuel
      let length ← primary fuel
      match integer? position, integer? length with
      | some first, some count =>
        if first ≤ 0 || count ≤ 0 then return ""
        return String.ofList ((text.toList.drop (first.toNat - 1)).take count.toNat)
      | _, _ => return ""
    | word => return word

end

end Sum

def sumWords : Program := fun name args => do
  let args := if args.head? == some "--" then args.drop 1 else args
  if args.isEmpty then
    misused name "missing operand"
    return 2
  else
    let body : Sum.Summing String := do
      let value ← Sum.level (16 * args.length + 16) Sum.levels
      match ← Sum.peek with
      | some word => throw ("syntax error: unexpected argument " ++ quotedName word)
      | none => return value
    match body.run (args, "") with
    | .error message =>
      report name message
      return 2
    | .ok (value, _) =>
      say (value ++ "\n")
      return if Sum.isNull value then 1 else 0

namespace Sequence

/-- A decimal number: a whole number and how many of its digits are decimals. -/
structure Fixed where
  digits : Int
  places : Nat

/-- The number that a text writes: in digits with decimals and an exponent, or to the base of
    sixteen. -/
def read (s : String) : Option Fixed :=
  let (isNegative, chars) := Decimal.signAt (s.toList.dropWhile Decimal.isSpace)
  let signed (n : Nat) : Int := if isNegative then -n else n
  match chars with
  | '0' :: x :: digits =>
    if x == 'x' || x == 'X' then
      if !digits.isEmpty && digits.all fun c => (Decimal.digitValue? 16 c).isSome then
        some ⟨signed (Decimal.digitsValue 16 digits), 0⟩
      else none
    else decimal signed chars
  | _ => decimal signed chars
where
  decimal (signed : Nat → Int) (chars : List Char) : Option Fixed :=
    let whole := chars.takeWhile Char.isDigit
    let after := chars.drop whole.length
    let (decimals, after) :=
      match after with
      | '.' :: rest =>
        let decimals := rest.takeWhile Char.isDigit
        (decimals, rest.drop decimals.length)
      | rest => ([], rest)
    let exponent : Option Int :=
      match after with
      | [] => some 0
      | e :: rest =>
        if e == 'e' || e == 'E' then
          let (isBelow, digits) := Decimal.signAt rest
          if !digits.isEmpty && digits.all Char.isDigit then
            let n : Int := Decimal.digitsValue 10 digits
            some (if isBelow then -n else n)
          else none
        else none
    match exponent with
    | none => none
    | some exponent =>
      if whole.isEmpty && decimals.isEmpty then none
      else
        let n := Decimal.digitsValue 10 (whole ++ decimals)
        let places : Int := decimals.length - exponent
        some (if places ≥ 0 then ⟨signed n, places.toNat⟩
          else ⟨signed (n * Nat.pow 10 (-places).toNat), 0⟩)

/-- What is wrong with the format of a sequence: it is to have one directive, which writes a
    number. -/
def formatFlaw? (format : String) : Option String :=
  look format.toList
where
  quoted : String := quotedWord format
  look : List Char → Option String
    | [] => some ("format " ++ quoted ++ " has no % directive")
    | '%' :: '%' :: rest => look rest
    | '%' :: rest =>
      let rest := rest.dropWhile fun c => "-+#0 '".toList.contains c
      let rest := rest.dropWhile Char.isDigit
      let rest :=
        match rest with
        | '.' :: more => more.dropWhile Char.isDigit
        | rest => rest
      match rest with
      | [] => some ("format " ++ quoted ++ " ends in %")
      | c :: more =>
        if "efgaEFGA".toList.contains c then last more
        else some ("format " ++ quoted ++ " has unknown %" ++ String.singleton c ++ " directive")
    | _ :: rest => look rest
  /-- What is wrong with what follows the directive. -/
  last : List Char → Option String
    | '%' :: '%' :: rest => last rest
    | '%' :: _ => some ("format " ++ quoted ++ " has too many % directives")
    | _ :: rest => last rest
    | [] => none

/-- The number with at least so many decimals. -/
def Fixed.scaledTo (x : Fixed) (places : Nat) : Int :=
  x.digits * (Nat.pow 10 (places - x.places) : Nat)

/-- A whole number as a text with decimals. -/
def textOf (places : Nat) (n : Int) : String :=
  (if n < 0 then "-" else "") ++ String.ofList (Decimal.withPoint places n.natAbs false)

/-- The numbers from one to another in steps. -/
def numbers (step last : Int) : Nat → Int → List Int
  | 0, _ => []
  | fuel + 1, n =>
    if (step > 0 && n > last) || (step < 0 && n < last) then []
    else n :: numbers step last fuel (n + step)

/-- A number with zeros in front of it. -/
def widened (width : Nat) (text : String) : String :=
  let chars := text.toList
  let (sign, digits) := if chars.head? == some '-' then (['-'], chars.drop 1) else ([], chars)
  String.ofList (sign ++ List.replicate (width - chars.length) '0' ++ digits)

/-- A bound that is not reached. -/
def endless : Fixed := ⟨10000, 0⟩

/-- The arguments with those that are negative numbers told from switches. -/
def isNumber (arg : String) : Bool :=
  match arg.toList with
  | '-' :: c :: _ => c.isDigit || c == '.'
  | _ => false

end Sequence

def countUp : Program := fun name args => do
  let switches : List Switch := [⟨'s', ["separator"], .always⟩, ⟨'f', ["format"], .always⟩,
    ⟨'w', ["equal-width"], .never⟩] ++ explanations
  let front := args.takeWhile (!Sequence.isNumber ·)
  let read := (Options.readFrom switches false front).map fun options =>
    { options with operands := options.operands ++ args.drop front.length }
  match read with
  | .error message =>
    misused name message
    return 1
  | .ok options =>
    if explanations.any fun switch => options.has switch.letter then return 0
    if let some flaw := (options.value? 'f').bind Sequence.formatFlaw? then
      report name flaw
      return 1
    let given := options.operands.map fun s =>
      (s, if s == "inf" || s == "infinity" then some Sequence.endless else Sequence.read s)
    match given with
    | [] => lacking name "missing operand"
    | _ :: _ :: _ :: (extra, _) :: _ => lacking name ("extra operand " ++ quotedName extra)
    | given =>
      match given.find? (·.2.isNone) with
      | some (s, _) => lacking name ("invalid floating point argument: " ++ quotedName s)
      | none =>
        let one : Sequence.Fixed := ⟨1, 0⟩
        let (first, step, last) : Sequence.Fixed × Sequence.Fixed × Sequence.Fixed :=
          match given.filterMap Prod.snd with
          | [last] => (one, one, last)
          | [first, last] => (first, one, last)
          | [first, step, last] => (first, step, last)
          | _ => (one, one, one)
        if step.digits == 0 then
          lacking name ("invalid Zero increment value: " ++
            quotedName (((given[1]?).map Prod.fst).getD ""))
        else
          let shown := max first.places step.places
          let places := max shown last.places
          let stride := step.scaledTo places
          let from' := first.scaledTo places
          let to' := last.scaledTo places
          let count := ((to' - from').natAbs / stride.natAbs) + 1
          let found := Sequence.numbers stride to' (min count 1000000) from'
          let cut := (Nat.pow 10 (places - shown) : Nat)
          let texts := found.map fun n =>
            match options.value? 'f' with
            | some format =>
              String.ofList (Written.ofFormat .extended format [Sequence.textOf places n]).text
            | none => Sequence.textOf shown (n.tdiv cut)
          let ends := [from'.tdiv cut, to'.tdiv cut].map fun n =>
            (Sequence.textOf shown n).length
          let texts :=
            if options.has 'w' then
              texts.map (Sequence.widened (ends.foldl max 0))
            else texts
          let separator := (options.value? 's').getD "\n"
          if !texts.isEmpty then say (separator.intercalate texts ++ "\n")
          return 0

def printEnvironment : Program :=
  Usage.program { switches := [⟨'0', ["null"], .never⟩], failure := 2 } fun _ options => do
    let environment := (← get).environment
    if options.operands.isEmpty then
      say (unlines (environment.map fun (name, value) => name ++ "=" ++ value))
      return 0
    else
      let found := options.operands.map fun name => environment.lookup name
      say (unlines (found.filterMap id))
      return if found.all (·.isSome) then 0 else 1

/-- Utilities that write a line, and take no operands. -/
def fixedLine (line : String) (switches : List Switch := []) : Program :=
  Usage.program { switches } fun name options => do
    match options.operands with
    | extra :: _ =>
      misused name ("extra operand " ++ quotedWord extra)
      return 1
    | [] =>
      say (line ++ "\n")
      return 0

def printDirectoryName : Program :=
  Usage.program { switches := letters "LP" } fun _ _ => do
    say (pathOf (← get).workDir ++ "\n")
    return 0

def nameSystem : Program :=
  Usage.program {
    switches := [⟨'a', ["all"], .never⟩, ⟨'s', ["kernel-name"], .never⟩,
      ⟨'n', ["nodename"], .never⟩, ⟨'r', ["kernel-release"], .never⟩,
      ⟨'v', ["kernel-version"], .never⟩, ⟨'m', ["machine"], .never⟩,
      ⟨'p', ["processor"], .never⟩, ⟨'i', ["hardware-platform"], .never⟩,
      ⟨'o', ["operating-system"], .never⟩] } fun name options => do
    match options.operands with
    | extra :: _ => lacking name ("extra operand " ++ quotedName extra)
    | [] =>
      let parts := [('s', "Linux"), ('n', "localhost"), ('r', "6.0.0"), ('v', "#1 SMP"),
        ('m', "x86_64"), ('o', "GNU/Linux")]
      let isBare := options.switches.isEmpty
      let found := parts.filter fun (c, _) =>
        options.has 'a' || options.has c || (isBare && c == 's')
      say (" ".intercalate (found.map Prod.snd) ++ "\n")
      return 0

/-- Reports the operands that name no user; whether there are any. -/
def reportStrangers (name : String) (operands : List String) : Run Bool := do
  let strangers := operands.filter fun user => user != "root" && user != "0"
  strangers.forM fun user => report name (quotedWord user ++ ": no such user")
  return !strangers.isEmpty

def nameUser : Program :=
  Usage.program { switches := [⟨'u', ["user"], .never⟩, ⟨'g', ["group"], .never⟩,
    ⟨'G', ["groups"], .never⟩, ⟨'n', ["name"], .never⟩, ⟨'r', ["real"], .never⟩] }
    fun name options => do
    if ← reportStrangers name options.operands then return 1
    if options.has 'u' || options.has 'g' || options.has 'G' then
      say (if options.has 'n' then "root\n" else "0\n")
    else say "uid=0(root) gid=0(root) groups=0(root)\n"
    return 0

def nameGroups : Program :=
  Usage.program {} fun name options => do
    if ← reportStrangers name options.operands then return 1
    if options.operands.isEmpty then say "root\n"
    else say (unlines (options.operands.map (· ++ " : root")))
    return 0

def nameLogin : Program :=
  Usage.program {} fun name options => do
    match options.operands with
    | extra :: _ =>
      misused name ("extra operand " ++ quotedWord extra)
      return 1
    | [] =>
      report name "no login name"
      return 1

/-- Whether a text is a time to wait. -/
def isInterval (s : String) : Bool :=
  let chars := s.toList
  let digits := if chars.getLast?.any ['s', 'm', 'h', 'd'].contains then chars.dropLast else chars
  !digits.isEmpty && digits.all (fun c => c.isDigit || c == '.') && digits.any Char.isDigit &&
    digits.count '.' ≤ 1

/-- Waits, which takes no time here. -/
def waitFor : Program :=
  Usage.program {} fun name options => do
    match options.operands, options.operands.filter (!isInterval ·) with
    | [], _ => lacking name "missing operand"
    | _, [] => return 0
    | _, flawed =>
      let last := flawed.getLast?.getD ""
      flawed.dropLast.forM fun s => report name ("invalid time interval " ++ quotedName s)
      lacking name ("invalid time interval " ++ quotedName last)

/-- The utilities of this module. -/
def wordUtilities : List (String × Program) := [
  ("echo", echoWords),
  ("printf", printWords),
  ("yes", repeatLine),
  ("true", fun _ _ => return 0),
  ("false", fun _ _ => return 1),
  ("test", testWords),
  ("[", bracketWords),
  ("expr", sumWords),
  ("seq", countUp),
  ("printenv", printEnvironment),
  ("pwd", printDirectoryName),
  ("uname", nameSystem),
  ("id", nameUser),
  ("whoami", fixedLine "root"),
  ("groups", nameGroups),
  ("hostname", fixedLine "localhost"),
  ("hostid", fixedLine "007f0100"),
  ("arch", fixedLine "x86_64"),
  ("nproc", fixedLine "1" [⟨'\x03', ["all"], .never⟩, ⟨'\x04', ["ignore"], .always⟩]),
  ("date", fixedLine "Thu Jan  1 00:00:00 UTC 1970"),
  ("sleep", waitFor),
  ("tty", fun _ _ => do
    say "not a tty\n"
    return 1),
  ("logname", nameLogin)]

end InfoFlow.Sandbox
