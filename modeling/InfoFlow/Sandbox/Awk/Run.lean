import InfoFlow.Sandbox.Awk.Grammar
import InfoFlow.Sandbox.Awk.Session

namespace InfoFlow.Awk

open Sandbox

/-- How often a loop may go round. -/
def loopFuel : Nat := 1000000

/-- How deep expressions, statements and calls may stand in each other. -/
def nestingFuel : Nat := 20000

/-- Repeats a step for as long as it asks for that. -/
def repeatStep (step : Action Bool) : Nat → Action Unit
  | 0 => return
  | fuel + 1 => do
    if ← step then repeatStep step fuel else return

/-- Goes through keys for as long as that is asked for. -/
def forKeys (step : String → Action Bool) : List String → Action Unit
  | [] => return
  | key :: rest => do
    if ← step key then forKeys step rest else return

/-- Runs the body of a loop. Whether the loop goes on is told. -/
def insideLoop (body : Action Unit) : Action Bool := do
  let outcome ← ExceptT.lift (ExceptT.run body)
  match outcome with
  | .ok () | .error .continue => return true
  | .error .break => return false
  | .error leave => throw leave

def arithmetic (sign : BinarySign) (a b : Float) : Float :=
  match sign with
  | .add => a + b
  | .subtract => a - b
  | .multiply => a * b
  | .divide => a / b
  | .remainder =>
    match Value.wholePart? (a / b) with
    | some n => a - b * Float.ofInt n
    | none => 0.0 / 0.0
  | .power => a.pow b

def Comparison.holds (test : Comparison) (order : Ordering) : Bool :=
  match test with
  | .less => order.isLT
  | .atMost => order.isLE
  | .equal => order.isEq
  | .different => order.isNe
  | .more => order.isGT
  | .atLeast => order.isGE

/-- How two values are ordered: as numbers if both are, and else as texts. -/
def orderOf (a b : Value) : Action Ordering := do
  if a.isNumeric && b.isNumeric then
    let x := a.toNumber
    let y := b.toNumber
    return if x < y then .lt else if x == y then .eq else .gt
  else return compare (← asText a) (← asText b)

/-- Values written by a format, up to the first directive for which there is none. Whether there is
    a value for each directive is told too. -/
def formatted : List FormatPart → List Value → Action (List Char × Bool)
  | [], _ => return ([], true)
  | .text s :: rest, values | .unfinished s :: rest, values => do
    let (text, isComplete) ← formatted rest values
    return (s ++ text, isComplete)
  | .directive d :: rest, values => do
    let extent (given : Option Extent) (values : List Value) : Option Int × List Value :=
      match given, values with
      | some .byValue, value :: values => (some ((Value.wholePart? value.toNumber).getD 0), values)
      | _, values => (none, values)
    let (width, values) := extent d.width values
    let (precision, values) := extent d.precision values
    let d := d.resolved width precision
    match values with
    | [] => return ([], false)
    | value :: values =>
      let text ←
        match d.conversion with
        | 'd' | 'i' | 'o' | 'x' | 'X' | 'u' =>
          match Value.wholePart? value.toNumber with
          | some n => pure (d.writeInteger n)
          | none => pure (d.writeFloat value.toNumber)
        | 'e' | 'E' | 'f' | 'F' | 'g' | 'G' => pure (d.writeFloat value.toNumber)
        | 'c' =>
          match value with
          | .number x =>
            let n := ((Value.wholePart? x).getD 0).emod 256
            pure (d.writeText [Char.ofNat n.toNat])
          | value => pure (d.writeText ((← asText value).toList.take 1))
        | _ => pure (d.writeText (← asText value).toList)
      let (more, isComplete) ← formatted rest values
      return (text ++ more, isComplete)

/-- The first of some values as a format, and what it writes of the others. -/
def formattedBy (values : List Value) : Action (String × String × Bool) := do
  let format ← asText (values.headD .none)
  let (text, isComplete) ← formatted (Format.ofText format.toList) (values.drop 1)
  return (format, String.ofList text, isComplete)

/-- Fails since a format has more directives than values. -/
def lacksValues {α : Type} (name format : String) : Action α :=
  failRunning ("not enough arguments passed to " ++ name ++ "(\"" ++ format ++ "\")")

/-- What takes the place of a match: an ampersand stands for the match itself. -/
def replacement (pattern matched : List Char) : List Char :=
  match pattern with
  | '\\' :: '\\' :: '&' :: rest => '\\' :: matched ++ replacement rest matched
  | '\\' :: '&' :: rest => '&' :: replacement rest matched
  | '&' :: rest => matched ++ replacement rest matched
  | c :: rest => c :: replacement rest matched
  | [] => []

/-- Replaces matches from a position on: the first one, or all. The new text and how many were
    replaced are given. -/
def replaceFrom (regex : Regex) (subject : Regex.Subject) (text pattern : List Char)
    (isGlobal : Bool) : Nat → Nat → Bool → List Char × Nat
  | 0, position, _ => (text.drop position, 0)
  | fuel + 1, position, afterMatch =>
    match (Regex.search subject regex position).bind (·.lookup 0) with
    | none => (text.drop position, 0)
    | some (first, last) =>
      let before := (text.drop position).take (first - position)
      if first == last && afterMatch && first == position then
        -- Nothing is put right behind a match.
        match text.drop position with
        | [] => ([], 0)
        | c :: _ =>
          let (rest, n) :=
            replaceFrom regex subject text pattern isGlobal fuel (position + 1) false
          (c :: rest, n)
      else
        let matched := (text.drop first).take (last - first)
        let new := before ++ replacement pattern matched
        if !isGlobal then (new ++ text.drop last, 1)
        else if first == last then
          match text.drop last with
          | [] => (new, 1)
          | c :: _ =>
            let (rest, n) :=
              replaceFrom regex subject text pattern isGlobal fuel (last + 1) false
            (new ++ c :: rest, n + 1)
        else
          let (rest, n) := replaceFrom regex subject text pattern isGlobal fuel last true
          (new ++ rest, n + 1)

/-- The part of a text from a position on, of a length. A position before the text lengthens what is
    taken by as much. -/
def substring (text : String) (position : Float) (length : Option Float) : String :=
  let whole (x : Float) : Int := (Value.wholePart? x).getD 0
  let first := whole position
  let rest := text.toList.drop (first.toNat - 1)
  let taken (n : Float) : List Char := rest.take ((whole n).toNat + (-first).toNat)
  String.ofList (match length with | none => rest | some n => taken n)

/-- The value of a function of numbers. -/
def mathematical (name : String) (x y : Float) : Option Float :=
  match name with
  | "sin" => some x.sin
  | "cos" => some x.cos
  | "atan2" => some (Float.atan2 x y)
  | "exp" => some x.exp
  | "log" => some x.log
  | "sqrt" => some x.sqrt
  | "int" => some (if x < 0 then x.ceil else x.floor)
  | _ => none

/-- The next number of a sequence that looks random. -/
def nextRandom (seed : Nat) : Nat :=
  (seed * 1103515245 + 12345) % 2147483648

section

variable (launch : Launch)

mutual

/-- The value of an expression. -/
def eval : Nat → Expr → Action Value
  | 0, _ => fail "function call nesting too deep"
  | fuel + 1, e => do
    match e with
    | .number x => return .number x
    | .text s => return .text s
    | .regex regex => return .ofBool (Regex.occurs (.ofText (← get).record.toList) regex)
    | .global name => valueOf name
    | .field index => do
      let n := (← eval fuel index).toNumber
      fieldAt ((Value.wholePart? n).getD 0)
    | .element array indices => do
      let key ← keyOf fuel indices
      let n ← tableOf array
      match (← tableAt n).get? key with
      | some value => return value
      | none =>
        changeTable n (·.put key .none)
        return .none
    | .assign target value => do
      let value ← eval fuel value
      store fuel target value
      return value
    | .update sign target value => do
      let b := (← eval fuel value).toNumber
      let a := (← eval fuel target).toNumber
      let value := Value.number (arithmetic sign a b)
      store fuel target value
      return value
    | .step target isUp isBefore => do
      let x := (← eval fuel target).toNumber
      let y := if isUp then x + 1 else x - 1
      store fuel target (.number y)
      return .number (if isBefore then y else x)
    | .binary sign a b => do
      let x := (← eval fuel a).toNumber
      let y := (← eval fuel b).toNumber
      return .number (arithmetic sign x y)
    | .compare test a b => do
      let x ← eval fuel a
      let y ← eval fuel b
      return .ofBool (test.holds (← orderOf x y))
    | .concat a b => do
      let x ← eval fuel a
      let y ← eval fuel b
      return .text ((← asText x) ++ (← asText y))
    | .and a b => do
      if (← eval fuel a).isTrue then return .ofBool (← eval fuel b).isTrue
      else return .ofBool false
    | .or a b => do
      if (← eval fuel a).isTrue then return .ofBool true
      else return .ofBool (← eval fuel b).isTrue
    | .not a => return .ofBool (!(← eval fuel a).isTrue)
    | .negate a => return .number (-(← eval fuel a).toNumber)
    | .plus a => return .number (← eval fuel a).toNumber
    | .choice condition a b => do
      if (← eval fuel condition).isTrue then eval fuel a else eval fuel b
    | .isMatch isNegated a regex => do
      let text ← asText (← eval fuel a)
      let regex ← regexFrom fuel regex
      return .ofBool (Regex.occurs (.ofText text.toList) regex != isNegated)
    | .member indices array => do
      let key ← keyOf fuel indices
      let n ← tableOf array
      return .ofBool ((← tableAt n).contains key)
    | .group [inner] => eval fuel inner
    | .group items => return .text (← keyOf fuel items)
    | .call name args => call fuel name args
    | .builtin name args => callBuiltin fuel name args
    | .readLine target file command => readLineInto fuel target file command

/-- The key that some indices make together. -/
def keyOf : Nat → List Expr → Action String
  | 0, _ => fail "function call nesting too deep"
  | _, [] => return ""
  | fuel + 1, [index] => do
    match index with
    | .group items => keyOf fuel items
    | index => asText (← eval fuel index)
  | fuel + 1, index :: rest => do
    let first ← asText (← eval fuel index)
    return first ++ (← get).text "SUBSEP" ++ (← keyOf fuel rest)

/-- The expression that a value is to be matched with. -/
def regexFrom : Nat → Expr → Action Regex
  | 0, _ => fail "function call nesting too deep"
  | fuel + 1, e => do
    match e with
    | .regex regex => return regex
    | .group [inner] => regexFrom fuel inner
    | e => regexOf (← asText (← eval fuel e))

/-- Gives what an expression names a value. -/
def store : Nat → Expr → Value → Action Unit
  | 0, _, _ => fail "function call nesting too deep"
  | fuel + 1, target, value => do
    match target with
    | .global name => setVariable name value
    | .field index =>
      let n := (← eval fuel index).toNumber
      setField ((Value.wholePart? n).getD 0) value
    | .element array indices =>
      let key ← keyOf fuel indices
      let n ← tableOf array
      changeTable n (·.put key value)
    | .group [inner] => store fuel inner value
    | _ => fail "syntax error"

/-- Calls a function of the program. Names that stand for arrays are handed on as they are, and the
    parameters without an argument are not used yet. -/
def call : Nat → String → List Expr → Action Value
  | 0, _, _ => fail "function call nesting too deep"
  | fuel + 1, name, args => do
    match (← get).functions.lookup name with
    | none => fail ("function " ++ name ++ " never defined")
    | some function =>
      let given ← argumentCells fuel args
      if given.length > function.parameters.length then
        fail ("too many arguments in call to " ++ name)
      let fresh (n : Nat) : Action (List Cell) :=
        (List.range n).mapM fun _ => do
          let session ← get
          set { session with tables := session.tables.push {} }
          return .unused session.tables.size
      let more ← fresh (function.parameters.length - given.length)
      let before := (← get).locals
      modify fun session =>
        { session with locals := function.parameters.zip (given ++ more) }
      let outcome ← ExceptT.lift (ExceptT.run (exec fuel function.body))
      modify fun session => { session with locals := before }
      match outcome with
      | .ok () => return .none
      | .error (.return value) => return value
      | .error leave => throw leave

/-- What the arguments of a call stand for. -/
def argumentCells : Nat → List Expr → Action (List Cell)
  | 0, _ => fail "function call nesting too deep"
  | _, [] => return []
  | fuel + 1, arg :: rest => do
    let first ←
      match arg with
      | .global name => cell name
      | arg => do pure (Cell.value (← eval fuel arg))
    return first :: (← argumentCells fuel rest)

/-- The values of some expressions, from left to right. -/
def values : Nat → List Expr → Action (List Value)
  | 0, _ => fail "function call nesting too deep"
  | _, [] => return []
  | fuel + 1, e :: rest => do
    let value ← eval fuel e
    return value :: (← values fuel rest)

def callBuiltin : Nat → String → List Expr → Action Value
  | 0, _, _ => fail "function call nesting too deep"
  | fuel + 1, name, args => do
    let text (e : Expr) : Action String := do asText (← eval fuel e)
    match name, args with
    | "length", [] => return .ofNat (← get).record.length
    | "length", [.global array] => do
      match ← cell array with
      | .table n => return .ofNat (← tableAt n).size
      | .unused _ => return .number 0
      | .value value => return .ofNat (← asText value).length
    | "length", [e] => return .ofNat (← text e).length
    | "substr", [s, position] => do
      let s ← text s
      return .text (substring s (← eval fuel position).toNumber none)
    | "substr", [s, position, length] => do
      let s ← text s
      let position := (← eval fuel position).toNumber
      return .text (substring s position (some (← eval fuel length).toNumber))
    | "index", [s, part] => do
      let s := (← text s).toList
      let part := (← text part).toList
      let found := (List.range (s.length + 1)).find? fun n => part.isPrefixOf (s.drop n)
      return .ofNat ((found.map (· + 1)).getD 0)
    | "split", s :: .global array :: rest => do
      let s ← text s
      let separator ←
        match rest with
        | [] => separatorOf ((← get).text "FS")
        | .regex regex :: _ => pure (.regex regex)
        | e :: _ => do separatorOf (← text e)
      let parts := separator.split false s
      let n ← tableOf array
      setTable n (.ofList (parts.mapIdx fun i part => (toString (i + 1), .seen part)))
      return .ofNat parts.length
    | "sub", regex :: new :: target => replaceIn fuel false regex new target
    | "gsub", regex :: new :: target => replaceIn fuel true regex new target
    | "match", [s, regex] => do
      let s ← text s
      let regex ← regexFrom fuel regex
      let found := (Regex.search (.ofText s.toList) regex 0).bind (·.lookup 0)
      let (position, length) : Float × Float :=
        match found with
        | some (first, last) => (Float.ofNat (first + 1), Float.ofNat (last - first))
        | none => (0, -1)
      modify fun session =>
        (session.setGlobal "RSTART" (.number position)).setGlobal "RLENGTH" (.number length)
      return .number position
    | "sprintf", args => do
      let (format, text, isComplete) ← formattedBy (← values fuel args)
      if !isComplete then lacksValues name format
      return .text text
    | "tolower", [s] => return .text ((← text s).map Char.toLower)
    | "toupper", [s] => return .text ((← text s).map Char.toUpper)
    | "system", [command] => do
      let command ← text command
      flush
      return .ofNat (← onMachine (runCommand launch command))
    | "close", name :: _ => return .number (Float.ofInt (← close launch (← text name)))
    | "fflush", _ => do
      flush
      return .number 0
    | "rand", _ => do
      let session ← get
      let seed := nextRandom session.seed
      set { session with seed }
      return .number (Float.ofNat seed / 2147483648)
    | "srand", args => do
      let session ← get
      let seed ←
        match args with
        | [] => pure 1
        | e :: _ => do pure ((Value.wholePart? (← eval fuel e).toNumber).getD 0).toNat
      modify fun session => { session with seed }
      return .ofNat session.seed
    | name, args => do
      let numbers := (← values fuel args).map Value.toNumber
      match mathematical name (numbers.headD 0) ((numbers[1]?).getD 0) with
      | some x => return .number x
      | none => return .none

/-- Replaces matches in a variable, or in the record. -/
def replaceIn : Nat → Bool → Expr → Expr → List Expr → Action Value
  | 0, _, _, _, _ => fail "function call nesting too deep"
  | fuel + 1, isGlobal, regex, new, target => do
    let regex ← regexFrom fuel regex
    let new ← asText (← eval fuel new)
    let target := target.headD (.field (.number 0))
    let text := (← asText (← eval fuel target)).toList
    let (found, n) := replaceFrom regex (.ofText text) text new.toList isGlobal
      (2 * text.length + 2) 0 false
    if n > 0 then store fuel target (.text (String.ofList found))
    return .ofNat n

/-- Reads a record into a variable, or as the record. -/
def readLineInto : Nat → Option Expr → Option Expr → Option Expr → Action Value
  | 0, _, _, _ => fail "function call nesting too deep"
  | fuel + 1, target, file, command => do
    let take (name : String) (read : Run (Option ByteArray)) (counts : Bool) : Action Value := do
      match ← sourceOf name read with
      | none => return .number (-1)
      | some source =>
        match ← takeRecord source with
        | none =>
          modify fun session => { session with sources := session.sources.put name source }
          return .number 0
        | some (record, source) =>
          modify fun session => { session with sources := session.sources.put name source }
          if counts then countUp "NR"
          match target with
          | some target => store fuel target (.seen record)
          | none => setRecord record
          return .number 1
    match file, command with
    | some file, _ => do
      let name ← asText (← eval fuel file)
      take name (do
        let read ← if name == "-" then pure (.ok (← readStream 0)) else contents name
        return read.toOption) false
    | none, some command => do
      let name ← asText (← eval fuel command)
      flush
      take name (do
        let (_, written) ← piped none (runCommand launch name)
        return some written) true
    | none, none => do
      match ← nextRecord (← get).documentFuel with
      | none => return .number 0
      | some record =>
        match target with
        | some target => store fuel target (.seen record)
        | none => setRecord record
        return .number 1

/-- Writes a text to where a statement says. -/
def writeTo : Nat → Destination → String → Action Unit
  | 0, _, _ => fail "function call nesting too deep"
  | fuel + 1, destination, text => do
    match destination with
    | .output => write text
    | .file name atEnd => do
      let name ← asText (← eval fuel name)
      writeFile name text atEnd
    | .command words => do
      let words ← asText (← eval fuel words)
      writeCommand words text

/-- Runs a statement. -/
def exec : Nat → Statement → Action Unit
  | 0, _ => fail "function call nesting too deep"
  | fuel + 1, statement => do
    match statement with
    | .expr e =>
      let _ ← eval fuel e
    | .print items destination =>
      let session ← get
      let texts ←
        if items.isEmpty then pure [session.record]
        else do (← values fuel items).mapM asOutput
      writeTo fuel destination
        ((session.text "OFS").intercalate texts ++ session.text "ORS")
    | .printFormatted items destination =>
      let (format, text, isComplete) ← formattedBy (← values fuel items)
      writeTo fuel destination text
      if !isComplete then lacksValues "printf" format
    | .cond condition yes no =>
      if (← eval fuel condition).isTrue then exec fuel yes else exec fuel no
    | .while condition body =>
      repeatStep (do
        if (← eval fuel condition).isTrue then insideLoop (exec fuel body)
        else return false) loopFuel
    | .doWhile body condition =>
      repeatStep (do
        if ← insideLoop (exec fuel body) then return (← eval fuel condition).isTrue
        else return false) loopFuel
    | .for first condition step body =>
      exec fuel first
      let holds : Action Bool :=
        match condition with
        | none => return true
        | some condition => return (← eval fuel condition).isTrue
      repeatStep (do
        if ← holds then
          if ← insideLoop (exec fuel body) then
            exec fuel step
            return true
          else return false
        else return false) loopFuel
    | .forEach name array body =>
      let keys := (← tableAt (← tableOf array)).keys
      forKeys (fun key => do
        setVariable name (.seen key)
        insideLoop (exec fuel body)) keys
    | .block body => execAll fuel body
    | .next => throw .next
    | .nextFile => throw .nextFile
    | .exit status =>
      if let some status := status then
        let n := ((Value.wholePart? (← eval fuel status).toNumber).getD 0).emod 256
        modify fun session => { session with status := n.toNat }
      throw .exit
    | .return value =>
      match value with
      | none => throw (.return .none)
      | some e => throw (.return (← eval fuel e))
    | .break => throw .break
    | .continue => throw .continue
    | .delete array indices =>
      let n ← tableOf array
      match indices with
      | none => setTable n {}
      | some indices =>
        let key ← keyOf fuel indices
        changeTable n (·.remove key)

/-- Runs statements one after the other. -/
def execAll : Nat → List Statement → Action Unit
  | 0, _ => fail "function call nesting too deep"
  | _, [] => return
  | fuel + 1, statement :: rest => do
    exec fuel statement
    execAll fuel rest

end

/-- Does what a rule says. -/
def act (body : Option Statement) : Action Unit := do
  match body with
  | some body => exec launch nestingFuel body
  | none =>
    let session ← get
    write (session.record ++ session.text "ORS")

/-- Whether the record is one of those that a rule is about. -/
def applies (n : Nat) : Condition → Action Bool
  | .begin | .ending => return false
  | .always => return true
  | .holds e => return (← eval launch nestingFuel e).isTrue
  | .range first last => do
    let isActive ←
      if (← get).active.contains n then pure true
      else do pure (← eval launch nestingFuel first).isTrue
    if !isActive then return false
    let isLast := (← eval launch nestingFuel last).isTrue
    modify fun session =>
      let others := session.active.filter (· != n)
      { session with active := if isLast then others else n :: others }
    return true

/-- Deals with one record. Whether there was one is told. -/
def step (rules : List (Nat × Rule)) : Action Bool := do
  match ← nextRecord (← get).documentFuel with
  | none => return false
  | some record =>
    setRecord record
    let outcome ← ExceptT.lift (ExceptT.run (rules.forM fun (n, rule) => do
      if ← applies launch n rule.condition then act launch rule.body))
    match outcome with
    | .ok () | .error .next => return true
    | .error .nextFile =>
      modify fun session => { session with main := none }
      return true
    | .error leave => throw leave

/-- Runs what may be left by an exit, and tells whether it was. -/
def leaving (body : Action Unit) : Action Bool := do
  let outcome ← ExceptT.lift (ExceptT.run body)
  match outcome with
  | .ok () => return false
  | .error .exit => return true
  | .error leave => throw leave

/-- Runs a program: what comes first, the records, and what comes last, which is also run after an
    exit. -/
def runProgram (program : Program) : Action Unit := do
  let isOf (condition : Condition → Bool) : List Rule :=
    program.rules.filter fun rule => condition rule.condition
  let first := isOf fun | .begin => true | _ => false
  let last := isOf fun | .ending => true | _ => false
  let main := ((program.rules.mapIdx fun n rule => (n, rule)).filter fun (_, rule) =>
    match rule.condition with | .begin | .ending => false | _ => true)
  let isLeft ← leaving (first.forM fun rule => act launch rule.body)
  if !isLeft && !(main.isEmpty && last.isEmpty) then
    let _ ← leaving (repeatStep (step launch main) loopFuel)
  let _ ← leaving (last.forM fun rule => act launch rule.body)

end

/-- What the command line asks for. -/
structure Invoked where
  separator : Option String := none
  assignments : List String := []
  files : List String := []
  rest : List String := []

/-- Reads the command line. A word that is not known is the flaw. -/
def Invoked.ofArgs : Nat → List String → Except String Invoked
  | 0, _ => .ok {}
  | fuel + 1, args => do
    let valued (c : Char) (more : List Char) (rest : List String) : Except String Invoked := do
      let (value, rest) ←
        match more, rest with
        | [], [] => throw ("option requires an argument -- " ++ String.singleton c)
        | [], value :: rest => pure (value, rest)
        | more, rest => pure (String.ofList more, rest)
      let invoked ← ofArgs fuel rest
      return match c with
        | 'F' => { invoked with separator := invoked.separator <|> some value }
        | 'v' => { invoked with assignments := value :: invoked.assignments }
        | 'f' => { invoked with files := value :: invoked.files }
        | _ => invoked
    match args with
    | [] => return {}
    | arg :: rest =>
      match arg.toList with
      | ['-', '-'] => return { rest }
      | '-' :: c :: more =>
        if ['F', 'v', 'f', 'W'].contains c then valued c more rest
        else if c == '-' then ofArgs fuel rest
        else throw ("not an option: " ++ arg)
      | _ => return { rest := args }

/-- The state in which a program begins. -/
def firstSession (program : Program) (machine : Machine) (name : String) (invoked : Invoked)
    (operands : List String) : Session :=
  let words := name :: operands
  let args : Table := .ofList (words.mapIdx fun n word => (toString n, .seen word))
  let environment : Table :=
    .ofList (machine.environment.map fun (name, value) => (name, .seen value))
  let separator : List (String × Cell) :=
    match invoked.separator with
    | none => []
    | some s => [("FS", .value (.text (givenText s)))]
  let assigned : List (String × Cell) := invoked.assignments.filterMap fun arg =>
    (assignmentOf? arg).map fun (name, value) => (name, .value (.seen (givenText value)))
  let known : List (String × Cell) :=
    firstVariables.map (fun (name, value) => (name, .value value)) ++ separator ++ assigned ++
      [("ARGC", .value (.ofNat words.length)), ("ARGV", .table 0), ("ENVIRON", .table 1)]
  { functions := program.functions
    globals := known.foldl (fun (entries : Entries Cell) (name, cell) => entries.put name cell) []
    tables := #[args, environment]
    arguments := operands }

/-- The text of a program: of the files that hold it, or the first operand. -/
def programText (invoked : Invoked) : Run (Except String (Option (String × List String))) := do
  if invoked.files.isEmpty then
    match invoked.rest with
    | [] => return .ok none
    | text :: operands => return .ok (some (text, operands))
  else
    let texts ← invoked.files.mapM fun path => do
      let read ← if path == "-" then pure (.ok (← readStream 0)) else contents path
      match read with
      | .ok document => return Except.ok (Raw.ofBytes document)
      | .error fault => return .error ("cannot open \"" ++ path ++ "\" (" ++ fault.description.1 ++
        ")")
    match texts.mapM id with
    | .ok texts => return .ok (some ("\n".intercalate texts, invoked.rest))
    | .error message => return .error message

/-- The functions that are called and not there. -/
def firstMissing (program : Program) (tokens : List Token.Placed) : Option String :=
  tokens.findSome? fun
    | (_, .called name) => if (program.functions.lookup name).isSome then none else some name
    | _ => none

/-- The utility that runs such programs. -/
def program (launch : Launch) : Sandbox.Program := fun _ args => do
  let name := "awk"
  match Invoked.ofArgs (args.length + 1) args with
  | .error message =>
    report name message
    return 2
  | .ok invoked =>
    match ← programText invoked with
    | .error message =>
      report name message
      return 2
    | .ok none => return 0
    | .ok (some (text, operands)) =>
      let read := do
        let tokens ← Token.ofText text
        let program ← Program.ofText text
        match firstMissing program tokens with
        | some missing =>
          throw (⟨(tokens.getLast?.map Prod.fst).getD 1 + 1,
            "function " ++ missing ++ " never defined"⟩ : Token.Flaw)
        | none => return program
      match read with
      | .error flaw =>
        report name (if flaw.line == 0 then flaw.message
          else "line " ++ toString flaw.line ++ ": " ++ flaw.message)
        return 2
      | .ok program =>
        let session := firstSession program (← get) name invoked operands
        let (outcome, session) ← ((runProgram launch program).run).run session
        let (_, session) ← ((finishAll launch).run).run session
        match outcome with
        | .error (.failure message) =>
          report name message
          return 2
        | _ => return session.status

end InfoFlow.Awk
