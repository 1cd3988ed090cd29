import InfoFlow.Sandbox.Decimal
import InfoFlow.Sandbox.Utility.Reading

namespace InfoFlow.Sandbox

/-- How two keys are compared. -/
structure KeyOrder where
  isReversed : Bool := false
  isNumeric : Bool := false
  /-- By the value of a number with an exponent. -/
  isGeneral : Bool := false
  /-- By numbers with letters for powers of a thousand. -/
  isHuman : Bool := false
  isVersion : Bool := false
  /-- By the month that the first letters name. -/
  isMonthly : Bool := false
  isFolded : Bool := false
  isDictionary : Bool := false
  /-- Without what cannot be seen. -/
  isVisible : Bool := false
  skipsBlanks : Bool := false
deriving DecidableEq, Repr

def KeyOrder.add (order : KeyOrder) (c : Char) : Option KeyOrder :=
  match c with
  | 'r' => some { order with isReversed := true }
  | 'n' => some { order with isNumeric := true }
  | 'g' => some { order with isGeneral := true }
  | 'h' => some { order with isHuman := true }
  | 'V' => some { order with isVersion := true }
  | 'f' => some { order with isFolded := true }
  | 'd' => some { order with isDictionary := true }
  | 'M' => some { order with isMonthly := true }
  | 'b' => some { order with skipsBlanks := true }
  | 'i' => some { order with isVisible := true }
  | _ => none

/-- The letters of ways to compare that exclude each other, if there are several. -/
def KeyOrder.conflict? (order : KeyOrder) : Option String :=
  let ignores := order.isDictionary || order.isVisible
  let kinds := [order.isNumeric, order.isGeneral, order.isHuman, order.isMonthly,
    order.isVersion || ignores]
  if (kinds.filter id).length ≤ 1 then none
  else
    let letters := [('d', order.isDictionary), ('f', order.isFolded), ('g', order.isGeneral),
      ('h', order.isHuman), ('i', order.isVisible && !order.isDictionary), ('M', order.isMonthly),
      ('n', order.isNumeric), ('V', order.isVersion)]
    some (String.ofList ((letters.filter (·.2)).map (·.1)))

/-- A part of a line: where it begins and ends, by fields and characters in them. -/
structure SortKey where
  firstField : Nat
  firstChar : Nat
  last : Option (Nat × Nat)
  order : KeyOrder := {}
deriving Repr

/-- A number with decimals: whether it is negative, its digits as one number, and how many of them
    are decimals. -/
def decimalKey (text : List Char) : Bool × Nat × Nat :=
  let text := text.dropWhile fun c => c == ' ' || c == '\t'
  let (isNegative, text) :=
    match text with
    | '-' :: rest => (true, rest)
    | text => (false, text)
  let whole := text.takeWhile Char.isDigit
  let fraction :=
    match text.drop whole.length with
    | '.' :: rest => rest.takeWhile Char.isDigit
    | _ => []
  (isNegative, Decimal.digitsValue 10 (whole ++ fraction), fraction.length)

def compareDecimals (a b : Bool × Nat × Nat) : Ordering :=
  let signed (x : Bool × Nat × Nat) (scale : Nat) : Int :=
    let n : Int := x.2.1 * Nat.pow 10 scale
    if x.1 then -n else n
  compare (signed a b.2.2) (signed b a.2.2)

/-- The power of a thousand that a letter stands for. -/
def multiple (text : List Char) : Nat :=
  let rest := (text.dropWhile fun c => c == ' ' || c == '\t' || c == '-').dropWhile fun c =>
    c.isDigit || c == '.'
  match rest with
  | c :: _ => ([('k', 1), ('K', 1), ('M', 2), ('G', 3), ('T', 4)].lookup c).getD 0
  | [] => 0

/-- What a character weighs among those that are no digits: a tilde comes before the end of a text,
    and letters before all others. -/
def versionWeight : List Char → Int
  | [] => -1
  | c :: _ =>
    if c.isDigit then 0
    else if c.isAlpha then c.toNat
    else if c == '~' then -2
    else c.toNat + 256

/-- Compares texts with numbers in them by the numbers. Each step passes over a character at least,
    so the length of the texts is fuel enough. -/
def compareVersionParts : Nat → List Char → List Char → Ordering
  | 0, _, _ => .eq
  | _, [], [] => .eq
  | fuel + 1, a, b =>
    let isNoDigit (text : List Char) : Bool := text.head?.any (!·.isDigit)
    if isNoDigit a || isNoDigit b then
      (compare (versionWeight a) (versionWeight b)).then
        (compareVersionParts fuel (a.drop 1) (b.drop 1))
    else
      let m := a.takeWhile Char.isDigit
      let n := b.takeWhile Char.isDigit
      (compare (Decimal.digitsValue 10 m) (Decimal.digitsValue 10 n)).then
        (compareVersionParts fuel (a.drop m.length) (b.drop n.length))

/-- The length of a name without the parts at its end that begin with a point and a letter. -/
def stemLength (text : List Char) : Nat :=
  let isInner (c : Char) : Bool := c.isAlphanum || c == '~'
  let step (found : Nat × Nat × Option Nat) (c : Char) : Nat × Nat × Option Nat :=
    -- The length so far, that of the stem, and the start of a part at the end.
    let (length, stem, start) := found
    if c == '.' then (length + 1, stem, some (start.getD length))
    else
      let afterPoint := (text.drop (length - 1)).head? == some '.' && length > 0
      let stays := start.isSome && (if afterPoint then c.isAlpha || c == '~' else isInner c)
      (length + 1, if stays then stem else length + 1, if stays then start else none)
  let (length, stem, start) := text.foldl step (0, 0, none)
  if start.isSome && text.getLast? != some '.' then start.getD stem else max stem length

/-- Compares names of versions. Names that begin with a point come first, and what follows the stem
    of a name counts last. -/
def compareVersions (a b : List Char) : Ordering :=
  let rank (text : List Char) : Nat :=
    if text.isEmpty then 0
    else if text == ['.'] then 1
    else if text == ['.', '.'] then 2
    else if text.head? == some '.' then 3
    else 4
  let fuel := a.length + b.length + 1
  (compare (rank a) (rank b)).then
    ((compareVersionParts fuel (a.take (stemLength a)) (b.take (stemLength b))).then
      (compareVersionParts fuel a b))

/-- The number of a month, by its first letters; zero if there is none. -/
def monthOf (text : List Char) : Nat :=
  let word := ((text.dropWhile fun c => c == ' ' || c == '\t').take 3).map Char.toUpper
  let months := ["JAN", "FEB", "MAR", "APR", "MAY", "JUN", "JUL", "AUG", "SEP", "OCT", "NOV", "DEC"]
  match months.idxOf? (String.ofList word) with
  | some n => n + 1
  | none => 0

def compareChars (a b : List Char) : Ordering :=
  compare (a.map Char.toNat) (b.map Char.toNat)

def KeyOrder.compareKeys (order : KeyOrder) (a b : List Char) : Ordering :=
  let result :=
    if order.isNumeric then compareDecimals (decimalKey a) (decimalKey b)
    else if order.isHuman then
      (compare (multiple a) (multiple b)).then (compareDecimals (decimalKey a) (decimalKey b))
    else if order.isGeneral then
      let value (text : List Char) : Float := ((Decimal.numberAt? text).map (·.1)).getD (0.0 / 0.0)
      let (x, y) := (value a, value b)
      if x < y then .lt else if y < x then .gt
      else if x.isNaN && !y.isNaN then .lt else if y.isNaN && !x.isNaN then .gt else .eq
    else if order.isMonthly then compare (monthOf a) (monthOf b)
    else if order.isVersion then compareVersions a b
    else
      let prepared (text : List Char) : List Char :=
        let text := if order.isDictionary then text.filter fun c =>
          c.isAlphanum || c == ' ' || c == '\t' else text
        let text := if order.isVisible then text.filter fun c =>
          32 ≤ c.toNat && c.toNat < 127 else text
        if order.isFolded then text.map Char.toUpper else text
      compareChars (prepared a) (prepared b)
  if order.isReversed then result.swap else result

def isBlankChar (c : Char) : Bool :=
  c == ' ' || c == '\t'

/-- What follows some fields of a line; a field begins with the blanks before it, or ends at a
    separator. -/
def afterFields (separator : Option Char) (keepsEnd : Bool) : Nat → List Char → List Char
  | 0, text => text
  | n + 1, text =>
    match separator with
    | none =>
      afterFields none keepsEnd n
        ((text.dropWhile isBlankChar).dropWhile (!isBlankChar ·))
    | some c =>
      let rest := text.dropWhile (· != c)
      if n == 0 && keepsEnd then rest else afterFields (some c) keepsEnd n (rest.drop 1)

/-- The part of a line that a key is. -/
def SortKey.part (key : SortKey) (separator : Option Char) (line : List Char) : List Char :=
  let start := afterFields separator false (key.firstField - 1) line
  let start := if key.order.skipsBlanks then start.dropWhile isBlankChar else start
  let start := start.drop (key.firstChar - 1)
  match key.last with
  | none => start
  | some (field, 0) =>
    let rest := afterFields separator true field line
    start.take (start.length - rest.length)
  | some (field, n) =>
    let rest := afterFields separator false (field - 1) line
    let rest := if key.order.skipsBlanks then rest.dropWhile isBlankChar else rest
    start.take (start.length - (rest.drop n).length)

/-- A number of a key, and what follows it. -/
def keyNumber (text : List Char) : Option Nat × List Char :=
  let digits := text.takeWhile Char.isDigit
  ((String.ofList digits).toNat?, text.drop digits.length)

/-- Letters of a key, each of which says how it is compared. -/
def keyLetters (order : KeyOrder) : List Char → KeyOrder × List Char
  | [] => (order, [])
  | c :: rest =>
    match order.add c with
    | some order => keyLetters order rest
    | none => (order, c :: rest)

/-- The key that a text writes, or what is wrong with it. -/
def SortKey.ofText (s : String) : Except String SortKey := do
  match keyNumber s.toList with
  | (none, _) => throw ("invalid number at field start: invalid count at start of '" ++ s ++ "'")
  | (some 0, _) => throw ("field number is zero: invalid field specification '" ++ s ++ "'")
  | (some field, rest) =>
    let (char, rest) :=
      match rest with
      | '.' :: rest => keyNumber rest
      | rest => (some 1, rest)
    let (order, rest) := keyLetters {} rest
    match rest with
    | [] => return ⟨field, char.getD 1, none, order⟩
    | ',' :: rest =>
      match keyNumber rest with
      | (none, _) => throw ("invalid number after ',': invalid count at start of '" ++
          String.ofList rest ++ "'")
      | (some last, rest) =>
        let (lastChar, rest) :=
          match rest with
          | '.' :: rest => keyNumber rest
          | rest => (some 0, rest)
        let (order, rest) := keyLetters order rest
        if rest.isEmpty then return ⟨field, char.getD 1, some (last, lastChar.getD 0), order⟩
        else throw ("stray character in field spec: invalid field specification '" ++ s ++ "'")
    | _ => throw ("stray character in field spec: invalid field specification '" ++ s ++ "'")

def sortUsage : Usage where
  switches := [⟨'b', ["ignore-leading-blanks"], .never⟩, ⟨'c', ["check"], .maybe⟩,
    ⟨'C', [], .never⟩, ⟨'d', ["dictionary-order"], .never⟩, ⟨'f', ["ignore-case"], .never⟩,
    ⟨'g', ["general-numeric-sort"], .never⟩, ⟨'i', ["ignore-nonprinting"], .never⟩,
    ⟨'k', ["key"], .always⟩, ⟨'m', ["merge"], .never⟩, ⟨'M', ["month-sort"], .never⟩,
    ⟨'n', ["numeric-sort"], .never⟩, ⟨'h', ["human-numeric-sort"], .never⟩,
    ⟨'V', ["version-sort"], .never⟩, ⟨'R', ["random-sort"], .never⟩,
    ⟨'o', ["output"], .always⟩, ⟨'r', ["reverse"], .never⟩, ⟨'s', ["stable"], .never⟩,
    ⟨'S', ["buffer-size"], .always⟩, ⟨'t', ["field-separator"], .always⟩,
    ⟨'T', ["temporary-directory"], .always⟩, ⟨'u', ["unique"], .never⟩,
    ⟨'z', ["zero-terminated"], .never⟩, ⟨'\x03', ["sort"], .always⟩,
    ⟨'\x04', ["parallel", "batch-size", "compress-program", "random-source"], .always⟩]
  failure := 2

/-- The arguments with letters that have no value split off from a check, and keys of the old kind
    made new. -/
def sortArguments : List String → List String
  | [] => []
  | arg :: rest =>
    let field (chars : List Char) (isEnd : Bool) : Option (String × List Char) :=
      let digits := chars.takeWhile Char.isDigit
      let n := ((String.ofList digits).toNat?).getD 0
      let after := chars.drop digits.length
      if digits.isEmpty then none
      else
        let (place, after) :=
          match after with
          | '.' :: more =>
            let places := more.takeWhile Char.isDigit
            (((String.ofList places).toNat?).getD 0, more.drop places.length)
          | _ => (0, after)
        if isEnd then
          some (if place == 0 then toString n else toString (n + 1) ++ "." ++ toString place, after)
        else some (toString (n + 1) ++ "." ++ toString (place + 1), after)
    match arg.toList with
    | '+' :: chars =>
      match field chars false with
      | some (start, letters) =>
        let key := start ++ String.ofList letters
        match rest with
        | next :: more =>
          match next.toList with
          | '-' :: chars =>
            match field chars true with
            | some (stop, letters) =>
              ("-k" ++ key ++ "," ++ stop ++ String.ofList letters) :: sortArguments more
            | none => ("-k" ++ key) :: sortArguments (next :: more)
          | _ => ("-k" ++ key) :: sortArguments (next :: more)
        | [] => ["-k" ++ key]
      | none => arg :: sortArguments rest
    | ['-', '-'] => arg :: rest
    | '-' :: 'c' :: c :: more =>
      if c == '-' then arg :: sortArguments rest
      else "-c" :: ("-" ++ String.ofList (c :: more)) :: sortArguments rest
    | _ => arg :: sortArguments rest

/-- The first of some lines that comes before its neighbour, with its number. -/
def disorder? (isBefore : String → String → Bool) : Nat → List String → Option (Nat × String)
  | n, a :: b :: rest =>
    if isBefore b a then some (n + 1, b) else disorder? isBefore (n + 1) (b :: rest)
  | _, _ => none

/-- One line of each run of lines that are alike. -/
def distinct (same : String → String → Bool) : List String → List String
  | a :: b :: rest =>
    if same a b then distinct same (a :: rest) else a :: distinct same (b :: rest)
  | lines => lines
termination_by lines => lines.length

/-- Merges two lists: of two first lines the smaller one comes first, the one of the first list if
    none is smaller. -/
def mergedLines (isLE : String → String → Bool) : List String → List String → List String
  | [], bs => bs
  | as, [] => as
  | a :: as, b :: bs =>
    if isLE a b then a :: mergedLines isLE as (b :: bs) else b :: mergedLines isLE (a :: as) bs
termination_by as bs => as.length + bs.length

/-- The orders that a word stands for. -/
def orderWords : List (String × Char) :=
  [("general-numeric", 'g'), ("human-numeric", 'h'), ("month", 'M'), ("numeric", 'n'),
    ("random", 'R'), ("version", 'V')]

/-- How a utility that sorts reports that it cannot read. It gives up at the first fault, and
    whether there is a file is found out before any is read. -/
def sortDocuments (name : String) (operands : List String) : Run (Option (List String)) := do
  let machine ← get
  let missing := operands.find? fun path =>
    path != "-" && (streamOf? path).isNone && !machine.leadsToNode path
  if let some path := missing then
    match ← contents path with
    | .error fault => report name ("cannot read: " ++ shownName path ++ ": " ++ faultText fault)
    | .ok _ => pure ()
    return none
  let operands := if operands.isEmpty then ["-"] else operands
  operands.foldlM (fun found path => do
    match found with
    | none => return none
    | some texts =>
      let read ← if path == "-" then pure (.ok (← readStream 0)) else contents path
      match read with
      | .ok document => return some (texts ++ [Raw.ofBytes document])
      | .error fault =>
        report name ("read failed: " ++ shownName path ++ ": " ++ faultText fault)
        return none) (some [])

def sortLines : Program := fun name args =>
  sortUsage.program (fun name options => do
    let failed (message : String) : Run Nat := do
      report name message
      return 2
    let asked := (options.values '\x03').filterMap fun word => orderWords.lookup word
    let options := asked.foldl (fun options c => options.addSwitch c "") options
    let global := ['r', 'n', 'g', 'h', 'V', 'M', 'f', 'd', 'i', 'b'].foldl
      (fun (order : KeyOrder) c =>
        if options.has c then (order.add c).getD order else order) {}
    let separator : Except String (Option Char) :=
      match options.value? 't' with
      | none => .ok none
      | some s =>
        match s.toList with
        | [c] => .ok (some c)
        | ['\\', '0'] => .ok (some '\x00')
        | [] => .error "empty tab"
        | _ => .error ("multi-character tab " ++ quotedWord s)
    match separator, (options.values 'k').mapM SortKey.ofText with
    | .error message, _ | _, .error message => failed message
    | .ok separator, .ok keys =>
      let keys := keys.map fun key =>
        if key.order == {} then { key with order := global } else key
      let orders := if keys.isEmpty then [global] else keys.map (·.order)
      if let some letters := orders.findSome? KeyOrder.conflict? then
        return ← failed ("options '-" ++ letters ++ "' are incompatible")
      let checks := options.has 'c' || options.has 'C'
      let isSilent := options.has 'C' ||
        ((options.value? 'c').any fun text => text == "quiet" || text == "silent")
      if checks && options.operands.length > 1 then
        return ← failed ("extra operand " ++ quotedWord ((options.operands[1]?).getD "") ++
          " not allowed with -" ++ if isSilent then "C" else "c")
      let compareLines (a b : String) : Ordering :=
        if keys.isEmpty then
          let trimmed (s : String) : List Char :=
            if global.skipsBlanks then s.toList.dropWhile isBlankChar else s.toList
          global.compareKeys (trimmed a) (trimmed b)
        else
          keys.foldl (fun result key =>
            result.then (key.order.compareKeys (key.part separator a.toList)
              (key.part separator b.toList))) .eq
      let isPlain := options.has 's' || options.has 'u'
      let full (a b : String) : Ordering :=
        let last := compareChars a.toList b.toList
        (compareLines a b).then
          (if isPlain then .eq else if global.isReversed then last.swap else last)
      match ← sortDocuments name options.operands with
      | none => return 2
      | some texts =>
        let stop := if options.has 'z' then '\x00' else '\n'
        let linesOf (text : String) : List String :=
          let parts := Raw.parts (· == stop) text
          if parts.getLast? == some "" then parts.dropLast else parts
        if checks then
          let isWrong (b a : String) : Bool :=
            let result := full a b
            result == .gt || (options.has 'u' && result == .eq)
          match disorder? isWrong 1 (texts.flatMap linesOf) with
          | none => return 0
          | some (n, line) =>
            if !isSilent then
              report name (options.operands.headD "-" ++ ":" ++ toString n ++ ": disorder: " ++
                line)
            return 1
        else
          let isLE (a b : String) : Bool := (full a b).isLE
          let sorted :=
            if options.has 'm' then
              (texts.map linesOf).foldl (fun merged lines => mergedLines isLE merged lines) []
            else (texts.flatMap linesOf).mergeSort isLE
          let sorted :=
            if options.has 'u' then distinct (fun a b => compareLines a b == .eq) sorted
            else sorted
          let text := String.join (sorted.map (· ++ String.singleton stop))
          match options.value? 'o' with
          | none =>
            say text
            return 0
          | some path =>
            match (← get).openForOutput 3 .emptied path with
            | .ok machine =>
              set machine
              emit 3 (Raw.toBytes text)
              modify (·.detach 3)
              return 0
            | .error fault =>
              failed ("open failed: " ++ shownName path ++ ": " ++ faultText fault))
    name (sortArguments args)

/-- The lines of each run of lines that are alike. -/
def runs (same : String → String → Bool) : List String → List (List String)
  | [] => []
  | line :: rest =>
    match runs same rest with
    | (next :: more) :: others =>
      if same line next then (line :: next :: more) :: others
      else [line] :: (next :: more) :: others
    | others => [line] :: others

/-- How runs of lines are shown. -/
inductive RunMark where
  | none
  | before
  | between
  | around

/-- The arguments with numbers of the old kind made switches. -/
def uniqueArguments (args : List String) : List String :=
  args.map fun arg =>
    match arg.toList with
    | '-' :: c :: rest =>
      if c.isDigit && rest.all Char.isDigit then "-f" ++ String.ofList (c :: rest) else arg
    | '+' :: c :: rest =>
      if c.isDigit && rest.all Char.isDigit then "-s" ++ String.ofList (c :: rest) else arg
    | _ => arg

def uniqueLines : Program := fun name args =>
  Usage.program {
    switches := [⟨'c', ["count"], .never⟩, ⟨'d', ["repeated"], .never⟩, ⟨'D', [], .never⟩,
      ⟨'A', ["all-repeated"], .maybe⟩, ⟨'G', ["group"], .maybe⟩, ⟨'u', ["unique"], .never⟩,
      ⟨'i', ["ignore-case"], .never⟩, ⟨'f', ["skip-fields"], .always⟩,
      ⟨'s', ["skip-chars"], .always⟩, ⟨'w', ["check-chars"], .always⟩,
      ⟨'z', ["zero-terminated"], .never⟩] } (fun name options => do
    let what (letter : Char) : String :=
      if letter == 'f' then "fields to skip"
      else if letter == 's' then "bytes to skip" else "bytes to compare"
    let flawed := options.switches.find? fun (c, text) =>
      (c == 'f' || c == 's' || c == 'w') && text.toNat?.isNone
    if let some (c, text) := flawed then
      report name (text ++ ": invalid number of " ++ what c)
      return 1
    let number (letter : Char) : Option Nat := (options.value? letter).bind String.toNat?
    let showsAll := options.has 'D' || options.has 'A'
    let mark? (word : String) : Option RunMark :=
      [("", RunMark.none), ("none", .none), ("prepend", .before), ("separate", .between),
        ("append", .around), ("both", .around)].lookup word
    if options.has 'G' && (options.has 'c' || options.has 'd' || showsAll || options.has 'u') then
      misused name "--group is mutually exclusive with -c/-d/-D/-u"
      return 1
    if showsAll && options.has 'c' then
      misused name "printing all duplicated lines and repeat counts is meaningless"
      return 1
    match options.operands with
    | _ :: _ :: extra :: _ =>
      misused name ("extra operand " ++ quotedWord extra)
      return 1
    | operands =>
      let key (line : String) : List Char :=
        let text := afterFields none false ((number 'f').getD 0) line.toList
        let text := text.drop ((number 's').getD 0)
        let text := match number 'w' with | some n => text.take n | none => text
        if options.has 'i' then text.map Char.toLower else text
      let (texts, isGood) ← readAll name {
        directory := fun path fault =>
          "error reading " ++ quotedName path ++ ": " ++ faultText fault } (operands.take 1)
      if !isGood then return 1
      let stop := if options.has 'z' then '\x00' else '\n'
      let lines := texts.flatMap fun (_, document) =>
        let parts := Raw.parts (· == stop) (Raw.ofBytes document)
        if parts.getLast? == some "" then parts.dropLast else parts
      let all := runs (fun a b => key a == key b) lines
      let found := all.filter fun run =>
        let isRepeated := run.length > 1
        !((options.has 'd' || showsAll) && !isRepeated) && !(options.has 'u' && isRepeated)
      let ended (line : String) : String := line ++ String.singleton stop
      let blank := String.singleton stop
      let blocks := found.map fun run =>
        if showsAll || options.has 'G' then String.join (run.map ended)
        else (if options.has 'c' then column 7 run.length ++ " " else "") ++ ended (run.headD "")
      let mark := (mark? ((options.value? 'A').getD "")).getD .none
      let text :=
        if options.has 'G' then
          match (options.value? 'G').getD "" with
          | "prepend" => String.join (blocks.map (blank ++ ·))
          | "append" => String.join (blocks.map (· ++ blank))
          | "both" =>
            if blocks.isEmpty then "" else blank ++ blank.intercalate blocks ++ blank
          | _ => blank.intercalate blocks
        else
          match mark with
          | .before => String.join (blocks.map (blank ++ ·))
          | .between => blank.intercalate blocks
          | _ => String.join blocks
      match operands with
      | [_, target] =>
        if target == "-" then
          say text
          return 0
        match ← changeTree fun tree workDir =>
          tree.writeFile workDir (Raw.toText target) (Raw.toBytes text) with
        | none => return 0
        | some fault =>
          report name (shownName target ++ ": " ++ faultText fault)
          return 1
      | _ =>
        say text
        return 0) name (uniqueArguments args)

/-- What comes of comparing two sorted files: a line in a column, or the news that a file is not in
    order. -/
inductive Merged where
  | line (column : Nat) (text : String)
  | disorder (file : Nat)

/-- What comes of going on in a file, if its order is watched. At the end of a file the last two
    lines are looked at once more, since its order may not have been watched before. -/
def stepIn (isWatched : Bool) (file : Nat) (before : Option String) (line : String)
    (rest : List String) : List Merged :=
  let isWrong (a b : String) : Bool := (compareChars a.toList b.toList).isGT
  let found :=
    match rest.head?, before with
    | some next, _ => isWrong line next
    | none, some before => isWrong before line
    | none, none => false
  if isWatched && found then [.disorder file] else []

/-- What comes of comparing two sorted files. Each step takes a line at least. -/
def mergedColumns (isStrict : Bool) :
    Nat → Bool → Option String → Option String → List String → List String → List Merged
  | 0, _, _, _, _, _ => []
  | fuel + 1, isWatched, lastA, lastB, as, bs =>
    match as, bs with
    | [], [] => []
    | a :: as, [] =>
      .line 0 a :: stepIn true 1 lastA a as ++
        mergedColumns isStrict fuel true (some a) lastB as []
    | [], b :: bs =>
      .line 1 b :: stepIn true 2 lastB b bs ++
        mergedColumns isStrict fuel true lastA (some b) [] bs
    | a :: as, b :: bs =>
      match compareChars a.toList b.toList with
      | .lt =>
        .line 0 a :: stepIn true 1 lastA a as ++
          mergedColumns isStrict fuel true (some a) lastB as (b :: bs)
      | .gt =>
        .line 1 b :: stepIn true 2 lastB b bs ++
          mergedColumns isStrict fuel true lastA (some b) (a :: as) bs
      | .eq =>
        let watches := isWatched || isStrict
        .line 2 a :: stepIn watches 1 lastA a as ++ stepIn watches 2 lastB b bs ++
          mergedColumns isStrict fuel isWatched (some a) (some b) as bs

/-- The events without the news that a file is not in order after the first time. -/
def withoutRepeats (known : List Nat) : List Merged → List Merged
  | [] => []
  | .line column text :: rest => .line column text :: withoutRepeats known rest
  | .disorder file :: rest =>
    if known.contains file then withoutRepeats known rest
    else .disorder file :: withoutRepeats (file :: known) rest

/-- The events up to the first one that tells of disorder. -/
def untilDisorder : List Merged → List Merged
  | [] => []
  | .disorder file :: _ => [.disorder file]
  | event :: rest => event :: untilDisorder rest

def compareSorted : Program :=
  Usage.program {
    switches := [⟨'1', [], .never⟩, ⟨'2', [], .never⟩, ⟨'3', [], .never⟩,
      ⟨'z', ["zero-terminated"], .never⟩, ⟨'\x03', ["check-order"], .never⟩,
      ⟨'\x04', ["nocheck-order"], .never⟩, ⟨'\x05', ["output-delimiter"], .always⟩,
      ⟨'\x06', ["total"], .never⟩] } fun name options => do
    match options.operands with
    | [] =>
      misused name "missing operand"
      return 1
    | [one] =>
      misused name ("missing operand after " ++ quotedWord one)
      return 1
    | _ :: _ :: extra :: _ =>
      misused name ("extra operand " ++ quotedWord extra)
      return 1
    | [first, second] =>
      let read (path : String) : Run (Option String) := do
        let read ← if path == "-" then pure (.ok (← readStream 0)) else contents path
        match read with
        | .ok document => return some (Raw.ofBytes document)
        | .error fault =>
          report name (shownName path ++ ": " ++ faultText fault)
          return none
      let some a ← read first | return 1
      let some b ← read second | return 1
      let stop := if options.has 'z' then '\x00' else '\n'
      let linesOf (text : String) : List String :=
        let parts := Raw.parts (· == stop) text
        if parts.getLast? == some "" then parts.dropLast else parts
      let (as, bs) := (linesOf a, linesOf b)
      let isStrict := options.has '\x03'
      let events := withoutRepeats [] (mergedColumns isStrict (as.length + bs.length + 1) false
        none none as bs)
      let events := if isStrict then untilDisorder events else events
      let shows (n : Nat) : Bool :=
        !options.has (if n == 0 then '1' else if n == 1 then '2' else '3')
      let gap := match options.value? '\x05' with
        | some text => if text.isEmpty then "\x00" else text
        | none => "\t"
      let indent (n : Nat) : String :=
        String.join (((List.range n).filter shows).map fun _ => gap)
      let watches := !options.has '\x04'
      events.forM fun
        | .line n line => do
          if shows n then say (indent n ++ line ++ String.singleton stop)
        | .disorder file => do
          if watches then report name ("file " ++ toString file ++ " is not in sorted order")
      let isWrong := watches && events.any fun
        | .disorder _ => true
        | .line .. => false
      if isStrict && isWrong then return 1
      if options.has '\x06' then
        let count (n : Nat) : String := toString (events.filter fun
          | .line column _ => column == n
          | .disorder _ => false).length
        say (count 0 ++ gap ++ count 1 ++ gap ++ count 2 ++ gap ++ "total" ++
          String.singleton stop)
      if isWrong then
        report name "input is not in sorted order"
        return 1
      return 0

/-- The utilities of this module. -/
def orderUtilities : List (String × Program) := [
  ("sort", sortLines),
  ("uniq", uniqueLines),
  ("comm", compareSorted)]

end InfoFlow.Sandbox
