import InfoFlow.Sandbox.Utility.Reading

namespace InfoFlow.Sandbox

namespace Join

/-- A field of a joined line: the key, or a field of one of the lines, counted from zero. -/
inductive Field where
  | key
  | of (isSecond : Bool) (place : Nat)

/-- How lines are joined. -/
structure Wish where
  /-- What stands between fields; blanks if nothing is said. -/
  separator : Option Char
  /-- The places of the keys, counted from zero. -/
  firstKey : Nat
  secondKey : Nat
  /-- What stands for a field that is missing or empty. -/
  filler : String
  fields : Option (List Field)
  /-- Whether lines are shown that are not joined, of each file. -/
  showsFirst : Bool
  showsSecond : Bool
  showsJoined : Bool
  isFolded : Bool

/-- A line with its number, and its fields. -/
structure Row where
  number : Nat
  line : String
  fields : List String

/-- The fields of a line. -/
def rowOf (separator : Option Char) (number : Nat) (line : String) : Row :=
  match separator with
  | some '\n' => ⟨number, line, [line]⟩
  | some c => ⟨number, line, if line.isEmpty then [] else Raw.parts (· == c) line⟩
  | none =>
    let isBlank (c : Char) : Bool := c == ' ' || c == '\t'
    let body := String.ofList (line.toList.dropWhile isBlank)
    let parts := Raw.parts isBlank body
    let words := parts.dropLast.filter (!·.isEmpty) ++
      (if body.isEmpty then [] else [parts.getLast?.getD ""])
    ⟨number, line, words⟩

def Row.at (row : Row) (place : Nat) : String :=
  (row.fields[place]?).getD ""

/-- A key as it is compared. -/
def Wish.prepared (wish : Wish) (key : String) : List Nat :=
  key.toList.map fun c => (if wish.isFolded then c.toLower else c).toNat

def Wish.compareKeys (wish : Wish) (a b : Row) : Ordering :=
  compare (wish.prepared (a.at wish.firstKey)) (wish.prepared (b.at wish.secondKey))

def Wish.gap (wish : Wish) : String :=
  match wish.separator with
  | some '\n' | none => " "
  | some c => String.singleton c

def Wish.filled (wish : Wish) (text : String) : String :=
  if text.isEmpty then wish.filler else text

/-- The fields of a row but its key. -/
def others (row : Row) (key : Nat) : List String :=
  row.fields.take key ++ row.fields.drop (key + 1)

/-- A joined line of one row or two. -/
def Wish.text (wish : Wish) (first second : Option Row) : String :=
  let key :=
    match first, second with
    | some row, _ => row.at wish.firstKey
    | none, some row => row.at wish.secondKey
    | none, none => ""
  let texts : List String :=
    match wish.fields with
    | some fields =>
      fields.map fun
        | .key => key
        | .of false place => (first.map (·.at place)).getD ""
        | .of true place => (second.map (·.at place)).getD ""
    | none =>
      key :: (first.map (others · wish.firstKey)).getD [] ++
        (second.map (others · wish.secondKey)).getD []
  wish.gap.intercalate (texts.map wish.filled)

/-- The rows at the start that have the key of the first one, and the others. -/
def group (same : Row → Row → Bool) : List Row → List Row × List Row
  | [] => ([], [])
  | row :: rest =>
    let equals := rest.takeWhile (same row)
    (row :: equals, rest.drop equals.length)

/-- What comes of joining two files: a line, or the news that a row comes before the one in front of
    it. -/
inductive Event where
  | line (text : String)
  | disorder (isSecond : Bool) (row : Row)

/-- What comes of going on from a row, if the order is watched. -/
def Wish.next (wish : Wish) (isWatched isSecond : Bool) (row : Row) : List Row → List Event
  | [] => []
  | other :: _ =>
    let place := if isSecond then wish.secondKey else wish.firstKey
    if isWatched &&
        compare (wish.prepared (other.at place)) (wish.prepared (row.at place)) == .lt then
      [.disorder isSecond other]
    else []

/-- What comes of the rows of one file when the other one is at its end. -/
def Wish.tail (wish : Wish) (isWatched isSecond : Bool) : List Row → List Event
  | [] => []
  | row :: rest =>
    let shows := if isSecond then wish.showsSecond else wish.showsFirst
    let text := if isSecond then wish.text none (some row) else wish.text (some row) none
    (if shows then [.line text] else []) ++ wish.next isWatched isSecond row rest ++
      wish.tail isWatched isSecond rest

/-- What comes of joining two files. The order is watched from the start, or from the first row on
    that has no partner. Each step passes over a row at least. -/
def Wish.events (wish : Wish) : Nat → Bool → List Row → List Row → List Event
  | 0, _, _, _ => []
  | fuel + 1, isWatched, first, second =>
    match first, second with
    | [], rows => wish.tail isWatched true rows
    | rows, [] => wish.tail isWatched false rows
    | a :: as, b :: bs =>
      match wish.compareKeys a b with
      | .lt =>
        (if wish.showsFirst then [.line (wish.text (some a) none)] else []) ++
          wish.next isWatched false a as ++ wish.events fuel true as (b :: bs)
      | .gt =>
        (if wish.showsSecond then [.line (wish.text none (some b))] else []) ++
          wish.next isWatched true b bs ++ wish.events fuel true (a :: as) bs
      | .eq =>
        let sameIn (place : Nat) (x y : Row) : Bool :=
          wish.prepared (x.at place) == wish.prepared (y.at place)
        let (firsts, as) := group (sameIn wish.firstKey) (a :: as)
        let (seconds, bs) := group (sameIn wish.secondKey) (b :: bs)
        let joined := if wish.showsJoined then
            firsts.flatMap fun x => seconds.map fun y =>
              Event.line (wish.text (some x) (some y))
          else []
        wish.next isWatched false a as ++ wish.next isWatched true b bs ++ joined ++
          wish.events fuel isWatched as bs

/-- The first time that a file is out of order. -/
def disorder? (isSecond : Bool) (events : List Event) : Option Row :=
  events.findSome? fun
    | .disorder known row => if known == isSecond then some row else none
    | .line _ => none

/-- The events up to the first one that tells of disorder. -/
def untilDisorder (events : List Event) : List Event :=
  events.takeWhile fun
    | .line _ => true
    | .disorder .. => false

def Event.text? : Event → Option String
  | .line text => some text
  | .disorder .. => none

/-- Reads the fields that joined lines have. -/
def fieldsOf (text : String) : Except String (List Field) :=
  ((Raw.parts (fun c => c == ',' || c == ' ' || c == '\t') text).filter (!·.isEmpty)).mapM
    fun item =>
    match item.toList with
    | ['0'] => .ok .key
    | '1' :: '.' :: digits | '2' :: '.' :: digits =>
      match (String.ofList digits).toNat? with
      | some (n + 1) => .ok (.of (item.toList.head? == some '2') n)
      | _ => .error ("invalid field number: '" ++ String.ofList digits ++ "'")
    | '0' :: _ | '1' :: _ | '2' :: _ => .error ("invalid field specifier: '" ++ item ++ "'")
    | _ => .error ("invalid file number in field spec: '" ++ item ++ "'")

/-- The place of a key. -/
def keyOf (options : Options) (letter : Char) : Except String Nat := do
  let given := options.switches.filterMap fun (c, text) =>
    if c == letter || c == 'j' then some text else none
  let places ← given.mapM fun text =>
    match text.toNat? with
    | some (n + 1) => .ok n
    | _ => .error ("invalid field number: '" ++ text ++ "'")
  match places with
  | [] => return 0
  | place :: rest =>
    match rest.find? (· != place) with
    | some other =>
      throw ("incompatible join fields " ++ toString place ++ ", " ++ toString other)
    | none => return place

/-- What stands between fields. -/
def separatorOf (text : String) : Except String Char :=
  match text.toList with
  | [] => .ok '\n'
  | [c] => .ok c
  | ['\\', '0'] => .ok '\x00'
  | _ => .error ("multi-character tab '" ++ text ++ "'")

/-- Reads how lines are joined. -/
def Wish.ofOptions (options : Options) : Except String Wish := do
  let shown := options.values 'a' ++ options.values 'v'
  if let some text := shown.find? fun text => text != "1" && text != "2" then
    throw ("invalid field number: '" ++ text ++ "'")
  let separator ← (options.value? 't').mapM separatorOf
  let given := (options.values 'o').filter (· != "auto")
  let fields ← given.mapM fieldsOf
  let firstKey ← keyOf options '1'
  let secondKey ← keyOf options '2'
  return {
    separator, firstKey, secondKey
    filler := (options.value? 'e').getD ""
    fields := if given.isEmpty then none else some fields.flatten
    showsFirst := shown.contains "1"
    showsSecond := shown.contains "2"
    showsJoined := !options.has 'v'
    isFolded := options.has 'i' }

/-- The fields of joined lines that have as many of each file as its first line has. -/
def Wish.likeFirst (wish : Wish) (first second : List Row) : Wish :=
  let places (rows : List Row) (key : Nat) (isSecond : Bool) : List Field :=
    let count := ((rows.head?).map (·.fields.length)).getD 0
    ((List.range count).filter (· != key)).map (Field.of isSecond)
  { wish with
    fields := some (.key :: places first wish.firstKey false ++ places second wish.secondKey true) }

/-- Whether an argument is a field of joined lines. -/
def isField (arg : String) : Bool :=
  match arg.toList with
  | ['0'] => true
  | c :: '.' :: digits => (c == '1' || c == '2') && digits.all Char.isDigit
  | _ => false

/-- The arguments with those that belong to a switch in front of them joined to it: the fields of
    joined lines may be several arguments. -/
def gathered : Bool → List String → List String
  | _, [] => []
  | _, [arg] => [arg]
  | afterFields, arg :: next :: rest =>
    let more := gathered false rest
    if arg == "-o" then arg :: next :: gathered true rest
    else if arg == "-j1" && next.toNat?.isSome then ("-1" ++ next) :: more
    else if arg == "-j2" && next.toNat?.isSome then ("-2" ++ next) :: more
    else if afterFields && isField arg && !rest.isEmpty then
      ("-o" ++ arg) :: gathered true (next :: rest)
    else arg :: gathered false (next :: rest)

end Join

open Join in
def joinLines : Program := fun name args =>
  Usage.program {
    switches := letters "iz" "12jaevot" ++ [
      ⟨'i', ["ignore-case"], .never⟩, ⟨'\x03', ["check-order"], .never⟩,
      ⟨'\x04', ["nocheck-order"], .never⟩, ⟨'\x05', ["header"], .never⟩,
      ⟨'z', ["zero-terminated"], .never⟩] } (fun name options => do
    let failed (message : String) : Run Nat := do
      report name message
      return 1
    match Wish.ofOptions options with
    | .error message => failed message
    | .ok wish =>
      match options.operands with
      | [] =>
        misused name "missing operand"
        return 1
      | [first] =>
        misused name ("missing operand after '" ++ first ++ "'")
        return 1
      | first :: second :: extra :: _ =>
        let _ := first ++ second
        misused name ("extra operand '" ++ extra ++ "'")
        return 1
      | ["-", "-"] => failed "both files cannot be standard input"
      | [first, second] =>
        let read (path : String) : Run (Except IoFault ByteArray) := do
          if path == "-" then return .ok (← readStream 0) else contents path
        let faultOf (path : String) (fault : IoFault) : String :=
          match fault with
          | .isADirectory => "read error: " ++ faultText fault
          | fault => shownName path ++ ": " ++ faultText fault
        match ← read first with
        | .error fault => failed (faultOf first fault)
        | .ok a =>
          match ← read second with
          | .error fault => failed (faultOf second fault)
          | .ok b =>
            let stop := if options.has 'z' then '\x00' else '\n'
            let linesOf (document : ByteArray) : List String :=
              let parts := Raw.parts (· == stop) (Raw.ofBytes document)
              if parts.getLast? == some "" then parts.dropLast else parts
            let firsts := (linesOf a).mapIdx fun n => rowOf wish.separator (n + 1)
            let seconds := (linesOf b).mapIdx fun n => rowOf wish.separator (n + 1)
            let wish :=
              if options.values 'o' |>.contains "auto" then wish.likeFirst firsts seconds
              else wish
            let (title, firstRows, secondRows) :=
              if options.has '\x05' then
                (if firsts.isEmpty && seconds.isEmpty then []
                  else [wish.text firsts.head? seconds.head?], firsts.drop 1, seconds.drop 1)
              else ([], firsts, seconds)
            let isStrict := options.has '\x03'
            let events :=
              wish.events (firstRows.length + secondRows.length + 1) isStrict firstRows secondRows
            let shown := if isStrict then untilDisorder events else events
            say (String.join ((title ++ shown.filterMap Event.text?).map fun line =>
              line ++ String.singleton stop))
            if options.has '\x04' then return 0
            let disorders := [false, true].filterMap fun isSecond =>
              (disorder? isSecond events).map (isSecond, ·)
            let disorders := if isStrict then disorders.take 1 else disorders
            disorders.forM fun (isSecond, row) =>
              report name ((if isSecond then second else first) ++ ":" ++ toString row.number ++
                ": is not sorted: " ++ row.line)
            if disorders.isEmpty then return 0
            if !isStrict then report name "input is not in sorted order"
            return 1) name (gathered false args)

/-- The utilities of this module. -/
def joinUtilities : List (String × Program) := [("join", joinLines)]

end InfoFlow.Sandbox
