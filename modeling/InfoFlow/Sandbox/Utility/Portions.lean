import InfoFlow.Sandbox.Utility.Reading

namespace InfoFlow.Sandbox

namespace Portions

/-- How much is shown. -/
structure Amount where
  count : Nat := 10
  ofBytes : Bool := false
  /-- Whether all but so much is shown, or what follows so much. -/
  isRest : Bool := false

/-- The items of a text: its bytes, or its lines with their ends. -/
def itemsOf (amount : Amount) (stop : Char) (text : String) : List String :=
  if amount.ofBytes then text.toList.map String.singleton
  else go [] text.toList
where
  go (held : List Char) : List Char → List String
    | [] => if held.isEmpty then [] else [String.ofList held.reverse]
    | c :: rest =>
      if c == stop then String.ofList (c :: held).reverse :: go [] rest else go (c :: held) rest

/-- The portion at the start of a text. -/
def front (amount : Amount) (stop : Char) (text : String) : String :=
  let items := itemsOf amount stop text
  String.join (items.take (if amount.isRest then items.length - amount.count else amount.count))

/-- The portion at the end of a text. -/
def back (amount : Amount) (stop : Char) (text : String) : String :=
  let items := itemsOf amount stop text
  String.join (items.drop
    (if amount.isRest then amount.count - 1 else items.length - amount.count))

/-- The switches that a number with letters after it stands for, in arguments of the old kind. What
    letter is not known is given back. -/
def oldSwitches (sign : Char) (letters : List Char) (chars : List Char) :
    Except Char (List String) :=
  let digits := chars.takeWhile Char.isDigit
  let number := String.ofList (if sign == '+' then '+' :: digits else digits)
  let marks := chars.drop digits.length
  match marks.find? fun c => !letters.contains c with
  | some c => .error c
  | none =>
    let size := marks.find? fun c => c == 'b' || c == 'k' || c == 'm'
    let plain := marks.filter fun c => c == 'q' || c == 'v' || c == 'z'
    let amount :=
      match size with
      | some c => ["-c", number ++ String.singleton c]
      | none => [if marks.contains 'c' then "-c" else "-n", number]
    .ok (amount ++ plain.map fun c => "-" ++ String.singleton c)

/-- The arguments with one of the old kind at their start made new. -/
def renewed (signs letters : List Char) (args : List String) : Except Char (List String) :=
  match args with
  | arg :: rest =>
    match arg.toList with
    | sign :: c :: chars =>
      if signs.contains sign && c.isDigit then
        (oldSwitches sign letters (c :: chars)).map (· ++ rest)
      else .ok args
    | _ => .ok args
  | [] => .ok []

/-- A utility that shows a portion of each document. The sign before a number stands for the rest.
    -/
def program (restSign : Char) (signs letters : List Char)
    (portion : Amount → Char → String → String) (returns : Bool) : Program := fun name args =>
  match renewed signs letters args with
  | .error c => do
    misused name ("invalid trailing option -- " ++ String.singleton c)
    return 1
  | .ok args =>
    Usage.program {
      switches := [⟨'c', ["bytes"], .always⟩, ⟨'n', ["lines"], .always⟩,
        ⟨'q', ["quiet", "silent"], .never⟩, ⟨'v', ["verbose"], .never⟩,
        ⟨'z', ["zero-terminated"], .never⟩] ++
        if returns then [] else [⟨'f', ["follow"], .maybe⟩, ⟨'F', [], .never⟩,
          ⟨'s', ["sleep-interval"], .always⟩] }
      (fun name options => do
      let given := options.switches.filter fun (c, _) => c == 'n' || c == 'c'
      let amounts : Except String (List Amount) := given.mapM fun (c, text) =>
        let chars := text.toList
        let isSigned := chars.head? == some '-' || chars.head? == some '+'
        match sizeOf? (String.ofList (if isSigned then chars.drop 1 else chars)) with
        | some n => .ok ⟨n, c == 'c', chars.head? == some restSign⟩
        | none => .error ("invalid number of " ++ (if c == 'c' then "bytes" else "lines") ++
            ": " ++ quotedWord (if restSign == '-' && chars.head? == some '-' then
              String.ofList (chars.drop 1) else text))
      match amounts with
      | .error message =>
        report name message
        return 1
      | .ok amounts =>
        let amount := amounts.getLast?.getD {}
        let stop := if options.has 'z' then '\x00' else '\n'
        let operands := if options.operands.isEmpty then ["-"] else options.operands
        let last := options.switches.reverse.find? fun (c, _) => c == 'q' || c == 'v'
        let shows :=
          match last with
          | some (c, _) => c == 'v'
          | none => operands.length > 1
        let title (isFirst : Bool) (path : String) : Run Unit := do
          if shows then
            say ((if isFirst then "" else "\n") ++ "==> " ++
              (if path == "-" then "standard input" else path) ++ " <==\n")
        let (_, isGood) ← operands.foldlM (fun (isFirst, isGood) path => do
          let read ← if path == "-" then pure (.ok (← readStream 0)) else contents path
          match read with
          | .ok document =>
            title isFirst path
            let part := portion amount stop (Raw.ofBytes document)
            if returns && path == "-" then giveBack 0 (document.size - part.length)
            say part
            return (false, isGood)
          | .error .isADirectory =>
            title isFirst path
            report name ("error reading " ++ quotedName path ++ ": " ++ faultText .isADirectory)
            return (false, false)
          | .error fault =>
            report name ("cannot open " ++ quotedName path ++ " for reading: " ++
              faultText fault)
            return (isFirst, false)) (true, true)
        return statusOf isGood) name args

end Portions

def showFront : Program :=
  Portions.program '-' ['-'] "bckmlqvz".toList Portions.front true

def showBack : Program :=
  Portions.program '+' ['-', '+'] "bclf".toList Portions.back false

namespace Columns

/-- A closed interval of numbers from one on. One without an end goes on. -/
abbrev Interval := Nat × Option Nat

/-- How lines are cut. -/
inductive Kind where
  | fields
  | places

/-- What is wrong with a list of intervals. -/
def Kind.zeroText : Kind → String
  | .fields => "fields are numbered from 1"
  | .places => "byte/character positions are numbered from 1"

def Kind.rangeText : Kind → String
  | .fields => "invalid field range"
  | .places => "invalid byte or character range"

def Kind.valueText : Kind → String
  | .fields => "invalid field value "
  | .places => "invalid byte/character position "

/-- What has been read of an interval: the number before the hyphen and the one after it. -/
structure Draft where
  low : Option Nat := none
  isRange : Bool := false
  high : Option Nat := none

/-- The interval that a draft stands for. -/
def Draft.interval (kind : Kind) (draft : Draft) : Except String Interval :=
  if draft.isRange then
    match draft.low, draft.high with
    | none, none => .error "invalid range with no endpoint: -"
    | low, none => .ok (low.getD 1, none)
    | low, some high =>
      if high < low.getD 1 then .error "invalid decreasing range" else .ok (low.getD 1, some high)
  else
    match draft.low with
    | none | some 0 => .error kind.zeroText
    | some n => .ok (n, some n)

/-- Reads a list of intervals. -/
def intervals (kind : Kind) (draft : Draft) : List Char → Except String (List Interval)
  | [] => return [← draft.interval kind]
  | '-' :: rest =>
    if draft.isRange then .error kind.rangeText
    else if draft.low == some 0 then .error kind.zeroText
    else intervals kind { draft with isRange := true } rest
  | c :: rest =>
    if c == ',' || c == ' ' || c == '\t' then do
      return (← draft.interval kind) :: (← intervals kind {} rest)
    else if c.isDigit then
      let add (n : Option Nat) : Option Nat := some (n.getD 0 * 10 + (c.toNat - 48))
      intervals kind (if draft.isRange then { draft with high := add draft.high }
        else { draft with low := add draft.low }) rest
    else .error (kind.valueText ++ quotedWord (String.ofList (c :: rest)))

/-- Joins intervals, in the order of their starts, that have numbers in common. -/
def merged : List Interval → List Interval
  | [] => []
  | (low, high) :: rest =>
    match merged rest with
    | (next, stop) :: more =>
      if high.all (next ≤ ·) then
        (low, match high, stop with
          | some a, some b => some (max a b)
          | _, _ => none) :: more
      else (low, high) :: (next, stop) :: more
    | [] => [(low, high)]

/-- The intervals between intervals, from a number on. -/
def outside : Nat → List Interval → List Interval
  | n, [] => [(n, none)]
  | n, (low, high) :: rest =>
    let before := if n < low then [(n, some (low - 1))] else []
    match high with
    | none => before
    | some high => before ++ outside (high + 1) rest

def isIn (intervals : List Interval) (n : Nat) : Bool :=
  intervals.any fun (low, high) => low ≤ n && high.all (n ≤ ·)

/-- The items with numbers in some intervals. -/
def chosen (intervals : List Interval) (items : List String) : List String :=
  (items.mapIdx fun n item => (n + 1, item)).filterMap fun (n, item) =>
    if isIn intervals n then some item else none

/-- The characters with numbers in some intervals. Between the intervals stands a text. -/
def places (intervals : List Interval) (joiner : String) (line : List Char) : String :=
  let parts := intervals.map fun (low, high) =>
    ((high.map line.take).getD line).drop (low - 1)
  joiner.intercalate ((parts.filter (!·.isEmpty)).map String.ofList)

end Columns

open Columns in
def cutColumns : Program :=
  Usage.program {
    switches := [⟨'b', ["bytes"], .always⟩, ⟨'c', ["characters"], .always⟩,
      ⟨'f', ["fields"], .always⟩, ⟨'d', ["delimiter"], .always⟩, ⟨'n', [], .never⟩,
      ⟨'s', ["only-delimited"], .never⟩, ⟨'o', ["output-delimiter"], .always⟩,
      ⟨'C', ["complement"], .never⟩, ⟨'z', ["zero-terminated"], .never⟩] } fun name options => do
    let failed (message : String) : Run Nat := do
      misused name message
      return 1
    let lists := options.switches.filter fun (c, _) => c == 'b' || c == 'c' || c == 'f'
    let delimiters := options.values 'd'
    if delimiters.any (·.length > 1) then
      return ← failed "the delimiter must be a single character"
    match lists with
    | [] => failed "you must specify a list of bytes, characters, or fields"
    | _ :: _ :: _ => failed "only one list may be specified"
    | [(letter, list)] =>
      let isFields := letter == 'f'
      if !isFields && !delimiters.isEmpty then
        return ← failed "an input delimiter may be specified only when operating on fields"
      if !isFields && options.has 's' then
        return ← failed
          "suppressing non-delimited lines makes sense\n\tonly when operating on fields"
      match intervals (if isFields then .fields else .places) {} list.toList with
      | .error message => failed message
      | .ok found =>
        let found := merged (found.mergeSort fun a b => a.1 ≤ b.1)
        let found := if options.has 'C' then outside 1 found else found
        let delimiter := ((delimiters.getLast?.getD "\t").toList.head?).getD '\x00'
        let stop := if options.has 'z' then '\x00' else '\n'
        let (texts, isGood) ← readTexts name options.operands
        let lines := texts.flatMap fun (_, text) =>
          let parts := Raw.parts (· == stop) text
          if parts.getLast? == some "" then parts.dropLast else parts
        let cut := lines.filterMap fun line =>
          if isFields then
            if line.toList.contains delimiter then
              some (((options.value? 'o').getD (String.singleton delimiter)).intercalate
                (chosen found (Raw.parts (· == delimiter) line)))
            else if options.has 's' then none
            else some line
          else some (places found ((options.value? 'o').getD "") line.toList)
        say (String.join (cut.map (· ++ String.singleton stop)))
        return statusOf isGood

/-- The delimiters that a text lists, or nothing if it ends within an escape. -/
def delimitersOf : List Char → Option (List String)
  | [] => some []
  | ['\\'] => none
  | '\\' :: c :: rest =>
    let text := ([('n', "\n"), ('t', "\t"), ('0', ""), ('b', "\x08"), ('f', "\x0c"), ('r', "\r"),
      ('v', "\x0b")].lookup c).getD (String.singleton c)
    (delimitersOf rest).map (text :: ·)
  | c :: rest => (delimitersOf rest).map (String.singleton c :: ·)

/-- Joins texts by the delimiters of a list, which starts again at its end. -/
def joinedBy (delimiters : List String) : Nat → List String → String
  | _, [] => ""
  | _, [s] => s
  | n, s :: rest =>
    s ++ (delimiters[n % delimiters.length]?).getD "" ++ joinedBy delimiters (n + 1) rest

/-- The rows of columns, as long as one of them has a line. -/
def rows : Nat → List (List String) → List (List String)
  | 0, _ => []
  | fuel + 1, columns =>
    if columns.all (·.isEmpty) then []
    else columns.map (·.headD "") :: rows fuel (columns.map (·.drop 1))

/-- Every so-manieth item from a place on. -/
def everyNth (count place : Nat) (items : List String) : List String :=
  (items.mapIdx fun n item => (n, item)).filterMap fun (n, item) =>
    if n % count == place then some item else none

/-- The places of the input among some operands. -/
def inputPlaces (operands : List String) : List Nat :=
  (operands.mapIdx fun n operand => (n, operand)).filterMap fun (n, operand) =>
    if operand == "-" then some n else none

def pasteLines : Program :=
  Usage.program {
    switches := [⟨'s', ["serial"], .never⟩, ⟨'d', ["delimiters"], .always⟩,
      ⟨'z', ["zero-terminated"], .never⟩] } fun name options => do
    let given := (options.value? 'd').getD "\t"
    match delimitersOf given.toList with
    | none =>
      report name ("delimiter list ends with an unescaped backslash: " ++ given)
      return 1
    | some delimiters =>
      let stop := if options.has 'z' then '\x00' else '\n'
      let linesOf (document : ByteArray) : List String :=
        let parts := Raw.parts (· == stop) (Raw.ofBytes document)
        if parts.getLast? == some "" then parts.dropLast else parts
      let operands := if options.operands.isEmpty then ["-"] else options.operands
      let isSerial := options.has 's'
      let input := inputPlaces operands
      let inputLines ← if input.isEmpty then pure [] else linesOf <$> readStream 0
      let columns ← (operands.mapIdx fun n operand => (n, operand)).foldlM
        (fun (found : List (Option (List String)) × Bool × Bool) (n, operand) => do
        let (columns, isGood, isOver) := found
        if isOver then return found
        if operand == "-" then
          let lines :=
            if isSerial then (if input.head? == some n then inputLines else [])
            else everyNth input.length (input.idxOf n) inputLines
          return (columns ++ [some lines], isGood, false)
        match ← contents operand with
        | .ok document => return (columns ++ [some (linesOf document)], isGood, false)
        | .error fault =>
          report name (shownName operand ++ ": " ++ faultText fault)
          if fault == .isADirectory then return (columns ++ [some []], false, false)
          else return (columns ++ [none], false, !isSerial)) ([], true, false)
      let (columns, isGood, isOver) := columns
      if isOver then return 1
      let found := columns.filterMap id
      let texts :=
        if isSerial then found.map (joinedBy delimiters 0)
        else
          let height := found.foldl (fun n column => max n column.length) 0
          (rows height found).map (joinedBy delimiters 0)
      say (String.join (texts.map (· ++ String.singleton stop)))
      return statusOf isGood

/-- The column after a character that stands in a column. -/
def columnAfter (ofBytes : Bool) (column : Nat) (c : Char) : Nat :=
  if ofBytes then column + 1
  else if c == '\x08' then column - 1
  else if c == '\r' then 0
  else if c == '\t' then column + (8 - column % 8)
  else column + 1

/-- Cuts a line into pieces of a width, after blanks if that is asked for. `held` is the piece so
    far, backwards. Each step takes a character, or shortens a piece that does not start a line. -/
def folded (width : Nat) (ofBytes atBlanks : Bool) :
    Nat → List Char → Nat → List Char → List (List Char)
  | 0, held, _, rest => [held.reverse ++ rest]
  | _, held, _, [] => if held.isEmpty then [] else [held.reverse]
  | fuel + 1, held, column, c :: rest =>
    if c == '\n' then (c :: held).reverse :: folded width ofBytes atBlanks fuel [] 0 rest
    else
      let next := columnAfter ofBytes column c
      if next > width then
        let after := held.takeWhile fun c => c != ' ' && c != '\t'
        if atBlanks && after.length < held.length then
          let piece := (held.drop after.length).reverse
          (piece ++ ['\n']) ::
            folded width ofBytes atBlanks fuel after
              (after.reverse.foldl (columnAfter ofBytes) 0) (c :: rest)
        else if held.isEmpty then folded width ofBytes atBlanks fuel [c] next rest
        else (held.reverse ++ ['\n']) :: folded width ofBytes atBlanks fuel [] 0 (c :: rest)
      else folded width ofBytes atBlanks fuel (c :: held) next rest

/-- The arguments with a number that stands for a width made a switch. -/
def withWidth (args : List String) : List String :=
  args.map fun arg =>
    match arg.toList with
    | '-' :: c :: rest =>
      if c.isDigit && rest.all Char.isDigit then "-w" ++ String.ofList (c :: rest) else arg
    | _ => arg

def foldLines : Program := fun name args =>
  Usage.program {
    switches := [⟨'b', ["bytes"], .never⟩, ⟨'s', ["spaces"], .never⟩,
      ⟨'w', ["width"], .always⟩] } (fun name options => do
    match (options.values 'w').find? fun text => (text.toNat?.getD 0) == 0 with
    | some text =>
      report name ("invalid number of columns: " ++ quotedWord text ++
        if text.toNat?.isSome then ": Numerical result out of range" else "")
      return 1
    | none =>
      let width := ((options.value? 'w').bind String.toNat?).getD 80
      let (texts, isGood) ← readTexts name options.operands
      texts.forM fun (_, text) =>
        let chars := text.toList
        say (String.join ((folded width (options.has 'b') (options.has 's')
          (3 * chars.length + 1) [] 0 chars).map String.ofList))
      return statusOf isGood) name (withWidth args)

/-- The utilities of this module. -/
def portionUtilities : List (String × Program) := [
  ("head", showFront),
  ("tail", showBack),
  ("cut", cutColumns),
  ("paste", pasteLines),
  ("fold", foldLines)]

end InfoFlow.Sandbox
