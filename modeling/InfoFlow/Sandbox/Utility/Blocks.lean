import InfoFlow.Sandbox.Utility.Reading

namespace InfoFlow.Sandbox

namespace BlockCopy

/-- A number that is a product of sizes. -/
def number? (text : String) : Option Nat :=
  let factor? (text : String) : Option Nat :=
    let chars := text.toList
    match chars.reverse with
    | 'c' :: front => (String.ofList front.reverse).toNat?
    | 'w' :: front => (String.ofList front.reverse).toNat?.map (· * 2)
    | 'B' :: front =>
      match front with
      | d :: _ => if d.isDigit then (String.ofList front.reverse).toNat? else sizeOf? text
      | [] => none
    | _ => sizeOf? text
  (Raw.parts (· == 'x') text).foldl (fun n part =>
    match n, factor? part with
    | some n, some m => some (n * m)
    | _, _ => none) (some 1)

/-- Whether a number counts bytes. -/
def isOfBytes (text : String) : Bool :=
  text.toList.getLast? == some 'B'

/-- What is to be copied and how. -/
structure Wish where
  input : Option String := none
  output : Option String := none
  inputSize : Nat := 512
  outputSize : Nat := 512
  /-- The size of blocks that are handed on as they come. -/
  commonSize : Option Nat := none
  skip : Nat := 0
  skipsBytes : Bool := false
  seek : Nat := 0
  seeksBytes : Bool := false
  count : Option Nat := none
  countsBytes : Bool := false
  conversions : List String := []
  status : String := ""
  isAppending : Bool := false

/-- The conversions that are known. -/
def conversionNames : List String :=
  ["ascii", "block", "ebcdic", "excl", "fdatasync", "fsync", "ibm", "lcase", "nocreat", "noerror",
    "notrunc", "sparse", "swab", "sync", "ucase", "unblock"]

/-- The flags that are known, beside those that tell what numbers count. -/
def flagNames : List String :=
  ["append", "binary", "cio", "direct", "directory", "dsync", "fullblock", "noatime", "nocache",
    "noctty", "nofollow", "nolinks", "nonblock", "sync", "text", "skip_bytes", "count_bytes",
    "seek_bytes"]

/-- Why an operand cannot be used. The first kind asks for an explanation. -/
inductive OperandFault where
  | unclear (message : String)
  | wrong (message : String)

def flagsOf (kind text : String) : Except OperandFault (List String) :=
  let names := Raw.parts (· == ',') text
  match names.find? fun name => !flagNames.contains name with
  | some name => .error (.unclear ("invalid " ++ kind ++ " flag: '" ++ name ++ "'"))
  | none => .ok names

/-- A wish with an operand. -/
def Wish.add (wish : Wish) (operand : String) : Except OperandFault Wish := do
  let name := operand.toList.takeWhile (· != '=')
  let value := String.ofList (operand.toList.drop (name.length + 1))
  if name.length == operand.length then
    throw (.unclear ("unrecognized operand '" ++ operand ++ "'"))
  let size : Except OperandFault Nat :=
    match number? value with
    | some 0 | none => .error (.wrong ("invalid number: '" ++ value ++ "'"))
    | some n => .ok n
  let number : Except OperandFault Nat :=
    match number? value with
    | some n => .ok n
    | none => .error (.wrong ("invalid number: '" ++ value ++ "'"))
  match String.ofList name with
  | "if" => return { wish with input := some value }
  | "of" => return { wish with output := some value }
  | "bs" => return { wish with commonSize := some (← size) }
  | "ibs" => return { wish with inputSize := ← size }
  | "obs" => return { wish with outputSize := ← size }
  | "cbs" =>
    let _ ← size
    return wish
  | "skip" | "iseek" =>
    return { wish with skip := ← number, skipsBytes := wish.skipsBytes || isOfBytes value }
  | "seek" | "oseek" =>
    return { wish with seek := ← number, seeksBytes := wish.seeksBytes || isOfBytes value }
  | "count" =>
    return { wish with
      count := some (← number), countsBytes := wish.countsBytes || isOfBytes value }
  | "conv" =>
    let names := Raw.parts (· == ',') value
    match names.find? fun name => !conversionNames.contains name with
    | some name => throw (.unclear ("invalid conversion: '" ++ name ++ "'"))
    | none => return { wish with conversions := wish.conversions ++ names }
  | "iflag" =>
    let names ← flagsOf "input" value
    return { wish with
      skipsBytes := wish.skipsBytes || names.contains "skip_bytes"
      countsBytes := wish.countsBytes || names.contains "count_bytes" }
  | "oflag" =>
    let names ← flagsOf "output" value
    return { wish with
      seeksBytes := wish.seeksBytes || names.contains "seek_bytes"
      isAppending := wish.isAppending || names.contains "append" }
  | "status" =>
    if ["none", "noxfer", "progress"].contains value then return { wish with status := value }
    else throw (.unclear ("invalid status level: '" ++ value ++ "'"))
  | _ => throw (.unclear ("unrecognized operand '" ++ operand ++ "'"))

/-- Conversions that exclude each other. -/
def rivals : List (String × String) :=
  [("lcase", "ucase"), ("block", "unblock"), ("excl", "nocreat")]

/-- Cuts bytes into blocks of a size. -/
def blocks (size : Nat) : Nat → List UInt8 → List (List UInt8)
  | 0, _ => []
  | fuel + 1, bytes =>
    if bytes.isEmpty then [] else bytes.take size :: blocks size fuel (bytes.drop size)

/-- Swaps the bytes of each pair. -/
def swapped : List UInt8 → List UInt8
  | a :: b :: rest => b :: a :: swapped rest
  | rest => rest

/-- A block as the conversions make it. -/
def Wish.convert (wish : Wish) (size : Nat) (block : List UInt8) : List UInt8 :=
  let asks (name : String) : Bool := wish.conversions.contains name
  let block :=
    if asks "sync" then block ++ List.replicate (size - block.length) 0 else block
  let block := if asks "swab" then swapped block else block
  let mapped (change : Char → Char) : List UInt8 :=
    block.map fun b => UInt8.ofNat (change (Char.ofNat b.toNat)).toNat
  if asks "lcase" then mapped Char.toLower
  else if asks "ucase" then mapped Char.toUpper
  else block

/-- How many of some blocks are whole, and how many are not. -/
def tally (size : Nat) (blocks : List (List UInt8)) : String :=
  let whole := (blocks.filter (·.length == size)).length
  toString whole ++ "+" ++ toString (blocks.length - whole)

/-- Opens what is written to: as it is, or emptied from where the writing starts. -/
def openOutput (wish : Wish) (start : Nat) (path : String) : Run (Option IoFault) := do
  let machine ← get
  let opening : Opening := if wish.isAppending then .atEnd else .kept
  match machine.openForOutput 3 opening path with
  | .error fault => return some fault
  | .ok opened =>
    set opened
    if let some (.file place _ atEnd) := opened.channel? 3 then
      if let some (.file document _) := opened.tree.node? place then
        let kept :=
          if wish.conversions.contains "notrunc" then document
          else overwrite (document.extract 0 start) .empty start
        let n := (opened.streams.lookup 3).getD 0
        set { opened with
          tree := opened.tree.putDocument place kept
          channels := opened.channels.setIfInBounds n (.file place start atEnd) }
    return none

end BlockCopy

open BlockCopy in
/-- Copies blocks from a file or the input to a file or the output. -/
def copyBlocks : Program :=
  Usage.program {} fun name options => do
    let failed (message : String) : Run Nat := do
      report name message
      return 1
    match options.operands.foldlM Wish.add ({} : Wish) with
    | .error (.wrong message) => failed message
    | .error (.unclear message) =>
      misused name message
      return 1
    | .ok wish =>
      if let some (a, b) := rivals.find? fun (a, b) =>
          wish.conversions.contains a && wish.conversions.contains b then
        return ← failed ("cannot combine " ++ a ++ " and " ++ b)
      let inputSize := wish.commonSize.getD wish.inputSize
      let outputSize := wish.commonSize.getD wish.outputSize
      let opened ← get
      let input ←
        match wish.input with
        | none => pure (.ok opened)
        | some path => pure (opened.openForInput 0 path)
      match input with
      | .error fault =>
        failed ("failed to open '" ++ wish.input.getD "" ++ "': " ++ faultText fault)
      | .ok machine =>
        set machine
        let isDirectory := (wish.input.map machine.leadsToDirectory).getD false
        let start := if wish.seeksBytes then wish.seek else wish.seek * outputSize
        let outputFault ←
          match wish.output with
          | none => pure none
          | some path =>
            let known := machine.leadsToNode path
            if wish.conversions.contains "nocreat" && !known then pure (some .notFound)
            else if wish.conversions.contains "excl" && known then pure (some .alreadyExists)
            else openOutput wish start path
        if let some fault := outputFault then
          return ← failed ("failed to open '" ++ wish.output.getD "" ++ "': " ++ faultText fault)
        let isTold := wish.status != "none"
        let skip := if wish.skipsBytes then wish.skip else wish.skip * inputSize
        let passed ← readBytes 0 skip
        if passed.size < skip && isTold && !isDirectory then
          report name ((wish.input.map shownName).getD "'standard input'" ++
            ": cannot skip to specified offset")
        let bytes ←
          match wish.count with
          | none => readStream 0
          | some n => readBytes 0 (if wish.countsBytes then n else n * inputSize)
        if isDirectory then
          report name ("error reading '" ++ wish.input.getD "" ++ "': " ++
            faultText .isADirectory)
        let read := blocks inputSize (bytes.size + 1) bytes.toList
        let converted := read.map (wish.convert inputSize)
        let written :=
          if wish.commonSize.isSome then converted
          else
            let all := converted.flatten
            blocks outputSize (all.length + 1) all
        emit (if wish.output.isSome then 3 else 1) ⟨written.flatten.toArray⟩
        modify (·.detach 3)
        if isTold then
          let records := tally inputSize read ++ " records in\n" ++
            tally outputSize written ++ " records out\n"
          let copied :=
            if wish.status == "noxfer" then ""
            else toString written.flatten.length ++ " bytes copied, 0 s, Infinity B/s\n"
          emit 2 (Raw.toBytes (records ++ copied))
        return if isDirectory then 1 else 0

namespace Splitting

/-- How a document is split. -/
inductive Way where
  | lines (n : Nat)
  | bytes (n : Nat)
  /-- Whole lines, of so many bytes together at most. -/
  | lineBytes (n : Nat)
  | chunks (n : Nat)
  /-- Parts of about one size, each of whole lines. -/
  | lineChunks (n : Nat)
  /-- Lines in turn to each of some parts. -/
  | turns (n : Nat)

/-- Lines, each with its end. The last one may lack it. -/
def linesOf (stop : Char) (chars : List Char) : List (List Char) :=
  let parts := Raw.splitAt (· == stop) [] chars
  (parts.dropLast.map (· ++ [stop])) ++
    (match parts.getLast? with
    | some last => if last.isEmpty then [] else [last]
    | none => [])

/-- Cuts a list into parts of a length. -/
def pieces {α : Type} (length : Nat) : Nat → List α → List (List α)
  | 0, _ => []
  | fuel + 1, items =>
    if items.isEmpty then [] else items.take length :: pieces length fuel (items.drop length)

/-- Puts as many lines into a part as fit. A line that is too long by itself is cut. -/
def packed (size : Nat) : Nat → List Char → List (List Char) → List (List Char)
  | 0, _, _ => []
  | _, held, [] => if held.isEmpty then [] else [held]
  | fuel + 1, held, line :: rest =>
    if held.length + line.length ≤ size then packed size fuel (held ++ line) rest
    else if !held.isEmpty then held :: packed size fuel [] (line :: rest)
    else line.take size :: packed size fuel [] (line.drop size :: rest)

/-- The sizes of parts that are as equal as they can be; the last one takes what is left. -/
def chunkStarts (size count : Nat) : List Nat :=
  (List.range count).map fun n => n * (size / count) + min n (size % count)

/-- The parts of a document. -/
def Way.parts (way : Way) (stop : Char) (chars : List Char) : List (List Char) :=
  let fuel := 2 * chars.length + 2
  match way with
  | .lines n => (pieces n fuel (linesOf stop chars)).map List.flatten
  | .bytes n => pieces n fuel chars
  | .lineBytes n => packed n fuel [] (linesOf stop chars)
  | .chunks count =>
    let starts := chunkStarts chars.length count
    starts.mapIdx fun n start =>
      (chars.take ((starts[n + 1]?).getD chars.length)).drop start
  | .lineChunks count =>
    let starts := chunkStarts chars.length count
    let lines := linesOf stop chars
    let offsets := (lines.foldl (fun (found, place) line =>
      (found ++ [(place, line)], place + line.length)) (([] : List (Nat × List Char)), 0)).1
    starts.mapIdx fun n start =>
      let next := (starts[n + 1]?).getD chars.length
      (offsets.filterMap fun (place, line) =>
        if start ≤ place && place < next then some line else none).flatten
  | .turns count =>
    let lines := linesOf stop chars
    (List.range count).map fun n =>
      ((lines.mapIdx fun i line => (i, line)).filterMap fun (i, line) =>
        if i % count == n then some line else none).flatten

/-- A number in letters of a given set, in a number of columns. -/
def counted (symbols : List Char) : Nat → Nat → List Char
  | 0, _ => []
  | width + 1, n =>
    counted symbols width (n / symbols.length) ++ [(symbols[n % symbols.length]?).getD 'a']

/-- The suffix of a part. Without a width there are more and more columns: each time that all but
    the last suffixes of a width are used up, the last letter stays in front. -/
def grownSuffix (symbols : List Char) : Nat → List Char → Nat → Nat → List Char
  | 0, front, width, n => front ++ counted symbols width n
  | fuel + 1, front, width, n =>
    let limit := symbols.length.pow width - symbols.length.pow (width - 1)
    if n < limit then front ++ counted symbols width n
    else grownSuffix symbols fuel (front ++ [symbols.getLast?.getD 'z']) (width + 1) (n - limit)

/-- The way of splitting that the text of a switch asks for, and the part that is shown alone. -/
def chunkWay? (text : String) : Option (Way × Option Nat) :=
  let number (s : String) : Option Nat := s.toNat?.filter (· != 0)
  match Raw.parts (· == '/') text with
  | [n] => (number n).map fun n => (.chunks n, none)
  | ["l", n] => (number n).map fun n => (.lineChunks n, none)
  | ["r", n] => (number n).map fun n => (.turns n, none)
  | [k, n] => (number k).bind fun k => (number n).map fun n => (.chunks n, some k)
  | ["l", k, n] => (number k).bind fun k => (number n).map fun n => (.lineChunks n, some k)
  | ["r", k, n] => (number k).bind fun k => (number n).map fun n => (.turns n, some k)
  | _ => none

end Splitting

open Splitting in
/-- Splits a document into files with names that count up. -/
def splitFile : Program :=
  fun name args =>
    let usage : Usage := {
      switches := [⟨'a', ["suffix-length"], .always⟩, ⟨'b', ["bytes"], .always⟩,
        ⟨'C', ["line-bytes"], .always⟩, ⟨'d', ["numeric-suffixes"], .maybe⟩,
        ⟨'x', ["hex-suffixes"], .maybe⟩, ⟨'e', ["elide-empty-files"], .never⟩,
        ⟨'l', ["lines"], .always⟩, ⟨'n', ["number"], .always⟩, ⟨'t', ["separator"], .always⟩,
        ⟨'u', ["unbuffered"], .never⟩, ⟨'\x03', ["verbose"], .never⟩,
        ⟨'\x04', ["additional-suffix"], .always⟩] }
    let separated := args.map fun arg =>
      match arg.toList with
      | '-' :: c :: rest => if c.isDigit && rest.all Char.isDigit then
          "-l" ++ String.ofList (c :: rest) else arg
      | _ => arg
    usage.program (fun name options => do
      let failed (message : String) : Run Nat := do
        report name message
        return 1
      let ways := options.switches.filter fun (c, _) => ['b', 'C', 'l', 'n'].contains c
      let size (what text : String) (make : Nat → Way) : Except String (Way × Option Nat) :=
        match sizeOf? text with
        | some (n + 1) => .ok (make (n + 1), none)
        | _ => .error ("invalid number of " ++ what ++ ": '" ++ text ++ "'")
      let way : Except String (Way × Option Nat) :=
        match ways with
        | [] => .ok (.lines 1000, none)
        | (c, text) :: _ =>
          if c == 'b' then size "bytes" text .bytes
          else if c == 'C' then size "bytes" text .lineBytes
          else if c == 'l' then size "lines" text .lines
          else
            match chunkWay? text with
            | some found => .ok found
            | none => .error ("invalid number of chunks: '" ++ text ++ "'")
      if ways.length > 1 then
        misused name "cannot split in more than one way"
        return 1
      match way with
      | .error message => failed message
      | .ok (way, alone) =>
        if let extra :: _ := options.operands.drop 2 then
          misused name ("extra operand '" ++ extra ++ "'")
          return 1
        let path := options.operands.headD "-"
        let front := (options.operands[1]?).getD "x"
        let read ← if path == "-" then pure (.ok (← readStream 0)) else contents path
        match read with
        | .error .isADirectory => failed (shownName path ++ ": read error: " ++
            faultText .isADirectory)
        | .error fault =>
          failed ("cannot open " ++ quotedName path ++ " for reading: " ++ faultText fault)
        | .ok document =>
          let stop := match (options.value? 't').map String.toList with
            | some ['\\', '0'] => '\x00'
            | some [c] => c
            | _ => '\n'
          let parts := way.parts stop (Raw.ofBytes document).toList
          if let some k := alone then
            say (String.ofList ((parts[k - 1]?).getD []))
            return 0
          let parts := if options.has 'e' then parts.filter (!·.isEmpty) else parts
          let symbols :=
            if options.has 'x' then "0123456789abcdef".toList
            else if options.has 'd' then "0123456789".toList
            else "abcdefghijklmnopqrstuvwxyz".toList
          let first := ((options.value? 'd' <|> options.value? 'x').bind String.toNat?).getD 0
          let width? := (options.value? 'a').bind String.toNat? |>.filter (· != 0)
          let tail := (options.value? '\x04').getD ""
          let needed := match way with
            | .chunks n | .lineChunks n | .turns n =>
              (counted symbols 20 (n - 1 + first)).dropWhile (· == symbols.headD 'a') |>.length
            | _ => 0
          if let some width := width? then
            if width < needed then
              return ← failed ("the suffix length needs to be at least " ++ toString needed)
          let suffix (n : Nat) : Option (List Char) :=
            match width? with
            | some width =>
              if n < symbols.length.pow width then some (counted symbols width n) else none
            | none =>
              if needed != 0 then some (counted symbols (max 2 needed) n)
              else some (grownSuffix symbols 20 [] 2 n)
          let good ← (parts.mapIdx fun n part => (n, part)).foldlM (fun isGood (n, part) => do
            if !isGood then return false
            match suffix (n + first) with
            | none =>
              report name "output file suffixes exhausted"
              return false
            | some letters =>
              let made := front ++ String.ofList letters ++ tail
              if options.has '\x03' then say ("creating file '" ++ made ++ "'\n")
              match (← get).openForOutput 3 .emptied made with
              | .ok machine =>
                set machine
                emit 3 (Raw.toBytes (String.ofList part))
                modify (·.detach 3)
                return true
              | .error fault =>
                report name (shownName made ++ ": " ++ faultText fault)
                return false) true
          return statusOf good) name separated

/-- The utilities of this module. -/
def blockUtilities : List (String × Program) := [
  ("dd", copyBlocks),
  ("split", splitFile)]

end InfoFlow.Sandbox
