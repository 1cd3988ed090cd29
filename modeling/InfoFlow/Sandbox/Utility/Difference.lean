import InfoFlow.Sandbox.Edits
import InfoFlow.Sandbox.Utility.Files
import InfoFlow.Sandbox.Utility.Lines

namespace InfoFlow.Sandbox

/-- The bytes that an operand names. A lone hyphen is the input. -/
def documentAt (path : String) : Run (Except IoFault ByteArray) := do
  if path == "-" then return .ok (← readStream 0) else contents path

namespace Bytewise

/-- The digits of a byte to the base of eight, in three columns. -/
def octalColumn (b : Nat) : String :=
  let digits := String.ofList (Nat.toDigits 8 b)
  String.ofList (List.replicate (3 - digits.length) ' ') ++ digits

/-- A text at the left end of four columns. -/
def leftColumn (text : String) : String :=
  text ++ String.ofList (List.replicate (4 - text.length) ' ')

/-- A byte as it is shown. -/
def letter (b : Nat) : String :=
  if b == 9 then "^I" else if b == 10 then "^J" else visible (Char.ofNat b)

/-- The places at which two lists of bytes differ, with the bytes, and the number of bytes that were
    compared. -/
def differences : Nat → List Char → List Char → List (Nat × Nat × Nat) × Nat
  | n, a :: as, b :: bs =>
    let (found, length) := differences (n + 1) as bs
    (if a == b then found else (n, a.toNat, b.toNat) :: found, length)
  | n, _, _ => ([], n)

/-- The numbers of bytes that are passed over: one for both files, or one for each. -/
def skips? (text : String) : Option (Nat × Nat) :=
  match Raw.parts (· == ':') text with
  | [n] => (sizeOf? n).map fun n => (n, n)
  | [m, n] =>
    match sizeOf? m, sizeOf? n with
    | some m, some n => some (m, n)
    | _, _ => none
  | _ => none

/-- How two files are compared: what is passed over, and how much is compared at most. -/
structure Extent where
  first : Nat := 0
  second : Nat := 0
  limit : Option Nat := none

/-- Reads how two files are compared; what cannot be read is given back with its switch. -/
def Extent.ofOptions (options : Options) : Except (String × String) Extent := do
  let (first, second) ←
    match options.value? 'i' with
    | none => pure (0, 0)
    | some text =>
      match skips? text with
      | some skips => pure skips
      | none => throw ("ignore-initial", text)
  let limit ←
    match options.value? 'n' with
    | none => pure none
    | some text =>
      match sizeOf? text with
      | some n => pure (some n)
      | none => throw ("bytes", text)
  let skip (known : Nat) : List String → Except (String × String) Nat
    | [] => pure known
    | text :: _ =>
      match sizeOf? text with
      | some n => pure n
      | none => throw ("ignore-initial", text)
  return ⟨← skip first (options.operands.drop 2), ← skip second (options.operands.drop 3), limit⟩

/-- Compares two documents of some names and says how they differ; whether they are the same. -/
def compareDocuments (name : String) (options : Options) (extent : Extent)
    (first second : String × ByteArray) : Run Bool := do
  let part (skip : Nat) (document : ByteArray) : List Char :=
    let chars := (Raw.ofBytes document).toList.drop skip
    (extent.limit.map chars.take).getD chars
  let a := part extent.first first.2
  let b := part extent.second second.2
  let (found, length) := differences 0 a b
  let line (n : Nat) : Nat := (a.take n).count '\n' + 1
  if options.has 's' then return found.isEmpty && a.length == b.length
  if options.has 'l' then
    let width := (toString (min a.length b.length)).length
    found.forM fun (n, x, y) =>
      say (column width (n + 1) ++ " " ++
        (if options.has 'b' then
          octalColumn x ++ " " ++ leftColumn (letter x) ++ " " ++ octalColumn y ++ " " ++ letter y
        else octalColumn x ++ " " ++ octalColumn y) ++ "\n")
  else if let (n, x, y) :: _ := found then
    let place := first.1 ++ " " ++ second.1 ++ " differ: " ++
      (if options.has 'b' then "byte " else "char ") ++ toString (n + 1) ++ ", line " ++
      toString (line n)
    say (place ++ (if options.has 'b' then " is " ++ octalColumn x ++ " " ++ letter x ++ " " ++
      octalColumn y ++ " " ++ letter y else "") ++ "\n")
    return false
  if a.length == b.length then return found.isEmpty
  let short := if a.length < b.length then first.1 else second.1
  let atEnd := (a.take length).getLast? == some '\n'
  report name ("EOF on " ++ short ++
    (if length == 0 then " which is empty"
    else " after byte " ++ toString length ++
      (if options.has 'l' then ""
      else if atEnd then ", line " ++ toString (line length - 1)
      else ", in line " ++ toString (line length))))
  return false

end Bytewise

/-- Reports a wrong use, with the name on both lines. -/
def misusedTwice (name message : String) : Run Nat := do
  report name message
  report name ("Try '" ++ name ++ " --help' for more information.")
  return 2

/-- A utility whose reports of a wrong use have its name on both lines. -/
def programTwice (switches : List Switch) (body : String → List String → Options → Run Nat) :
    Program :=
  fun name args => do
    match Options.readFrom (switches ++ explanations) true args with
    | .error message => misusedTwice name message
    | .ok options =>
      if explanations.any fun switch => options.has switch.letter then return 0
      else body name args options

def compareBytes : Program :=
  programTwice [⟨'b', ["print-bytes"], .never⟩, ⟨'i', ["ignore-initial"], .always⟩,
      ⟨'l', ["verbose"], .never⟩, ⟨'n', ["bytes"], .always⟩,
      ⟨'s', ["quiet", "silent"], .never⟩, ⟨'v', [], .never⟩] fun name _ options => do
    if options.has 'l' && options.has 's' then
      return ← misusedTwice name "options -l and -s are incompatible"
    match options.operands with
    | [] => misusedTwice name ("missing operand after '" ++ name ++ "'")
    | first :: more =>
      match Bytewise.Extent.ofOptions options with
      | .error (switch, text) =>
        misusedTwice name ("invalid --" ++ switch ++ " value '" ++ text ++ "'")
      | .ok extent =>
        if let extra :: _ := more.drop 3 then
          return ← misusedTwice name ("extra operand '" ++ extra ++ "'")
        let second := more.headD "-"
        let failed (path : String) (fault : IoFault) : Run Nat := do
          if !options.has 's' then report name (path ++ ": " ++ faultText fault)
          return 2
        match ← documentAt first with
        | .error fault => failed first fault
        | .ok a =>
          match ← documentAt second with
          | .error fault => failed second fault
          | .ok b =>
            return statusOf
              (← Bytewise.compareDocuments name options extent (first, a) (second, b))

namespace Linewise

/-- How differences are shown. -/
inductive Style where
  | normal
  /-- Both files in one, with a number of lines around the changes. -/
  | unified (margin : Nat)
  /-- Each file by itself, with a number of lines around the changes. -/
  | parted (margin : Nat)
  /-- Commands of an editor, the last change first. -/
  | commands
  /-- Numbers of lines that are taken away or put in. -/
  | counted

def Style.margin : Style → Nat
  | .unified n | .parted n => n
  | _ => 0

/-- A line after a mark. One that is not ended is told. -/
def marked (mark line : String) : String :=
  if line.toList.getLast? == some '\n' then mark ++ line
  else mark ++ line ++ "\n\\ No newline at end of file\n"

def markedLines (mark : String) (lines : List String) : String :=
  String.join (lines.map (marked mark))

/-- A number of items from a place on. -/
def slice (items : List String) (start count : Nat) : List String :=
  (items.drop start).take count

/-- The numbers of lines of a run; that of the line before it if it is empty. -/
def range (start count : Nat) : String :=
  if count == 0 then toString start
  else if count == 1 then toString (start + 1)
  else toString (start + 1) ++ "," ++ toString (start + count)

/-- The numbers of lines and how many they are. -/
def countedRange (start count : Nat) : String :=
  if count == 0 then toString start ++ ",0"
  else if count == 1 then toString (start + 1)
  else toString (start + 1) ++ "," ++ toString count

/-- The letter of what is done to lines. -/
def Hunk.letter (hunk : Hunk) : String :=
  if hunk.oldCount == 0 then "a" else if hunk.newCount == 0 then "d" else "c"

def normalText (old new : List String) (hunk : Hunk) : String :=
  range hunk.oldStart hunk.oldCount ++ Hunk.letter hunk ++ range hunk.newStart hunk.newCount ++
    "\n" ++ markedLines "< " (slice old hunk.oldStart hunk.oldCount) ++
    (if Hunk.letter hunk == "c" then "---\n" else "") ++
    markedLines "> " (slice new hunk.newStart hunk.newCount)

def commandText (new : List String) (hunk : Hunk) : String :=
  range hunk.oldStart hunk.oldCount ++ Hunk.letter hunk ++ "\n" ++
    (if hunk.newCount == 0 then ""
    else String.join ((slice new hunk.newStart hunk.newCount).map ensureEnd) ++ ".\n")

def countedText (new : List String) (hunk : Hunk) : String :=
  (if hunk.oldCount == 0 then ""
    else "d" ++ toString (hunk.oldStart + 1) ++ " " ++ toString hunk.oldCount ++ "\n") ++
  (if hunk.newCount == 0 then ""
    else "a" ++ toString (hunk.oldStart + hunk.oldCount) ++ " " ++ toString hunk.newCount ++
      "\n" ++ String.join (slice new hunk.newStart hunk.newCount))

/-- Takes runs together whose surroundings meet. -/
def together (margin : Nat) : List Hunk → List (List Hunk)
  | [] => []
  | hunk :: rest =>
    match together margin rest with
    | (next :: more) :: others =>
      if next.oldStart - (hunk.oldStart + hunk.oldCount) ≤ 2 * margin then
        (hunk :: next :: more) :: others
      else [hunk] :: (next :: more) :: others
    | others => [hunk] :: others

/-- The lines from the start of some runs to their end with what is around them, in both files. -/
def surroundings (margin oldSize newSize : Nat) (hunks : List Hunk) : Hunk :=
  match hunks.head?, hunks.getLast? with
  | some first, some last =>
    let front := min margin first.oldStart
    let oldEnd := min oldSize (last.oldStart + last.oldCount + margin)
    let newEnd := min newSize (last.newStart + last.newCount + margin)
    let oldStart := first.oldStart - front
    let newStart := first.newStart - front
    ⟨oldStart, oldEnd - oldStart, newStart, newEnd - newStart⟩
  | _, _ => ⟨0, 0, 0, 0⟩

/-- The lines of one file from a place to another, those of runs with a mark. -/
def markedRuns (lines : List String) (stop : Nat) :
    Nat → List (Nat × Nat × String) → String
  | place, [] => markedLines "  " (slice lines place (stop - place))
  | place, (start, count, mark) :: rest =>
    markedLines "  " (slice lines place (start - place)) ++
      markedLines mark (slice lines start count) ++ markedRuns lines stop (start + count) rest

def partedText (margin : Nat) (old new : List String) (hunks : List Hunk) : String :=
  let around := surroundings margin old.length new.length hunks
  let runs (own other : Hunk → Nat) (start : Hunk → Nat) (mark : String) :=
    hunks.map fun hunk =>
      (start hunk, own hunk, if own hunk != 0 && other hunk != 0 then "! " else mark)
  let oldText :=
    if hunks.all (·.oldCount == 0) then ""
    else markedRuns old (around.oldStart + around.oldCount) around.oldStart
      (runs (·.oldCount) (·.newCount) (·.oldStart) "- ")
  let newText :=
    if hunks.all (·.newCount == 0) then ""
    else markedRuns new (around.newStart + around.newCount) around.newStart
      (runs (·.newCount) (·.oldCount) (·.newStart) "+ ")
  "***************\n*** " ++ range around.oldStart around.oldCount ++ " ****\n" ++ oldText ++
    "--- " ++ range around.newStart around.newCount ++ " ----\n" ++ newText

/-- The lines of both files from a place of the old one on. -/
def unifiedRuns (old new : List String) (stop : Nat) : Nat → List Hunk → String
  | place, [] => markedLines " " (slice old place (stop - place))
  | place, hunk :: rest =>
    markedLines " " (slice old place (hunk.oldStart - place)) ++
      markedLines "-" (slice old hunk.oldStart hunk.oldCount) ++
      markedLines "+" (slice new hunk.newStart hunk.newCount) ++
      unifiedRuns old new stop (hunk.oldStart + hunk.oldCount) rest

def unifiedText (margin : Nat) (old new : List String) (hunks : List Hunk) : String :=
  let around := surroundings margin old.length new.length hunks
  "@@ -" ++ countedRange around.oldStart around.oldCount ++ " +" ++
    countedRange around.newStart around.newCount ++ " @@\n" ++
    unifiedRuns old new (around.oldStart + around.oldCount) around.oldStart hunks

/-- The runs of changes as a style shows them, after the names of the files. -/
def Style.text (style : Style) (labels : String × String) (old new : List String)
    (hunks : List Hunk) : String :=
  match style with
  | .normal => String.join (hunks.map (normalText old new))
  | .commands => String.join (hunks.reverse.map (commandText new))
  | .counted => String.join (hunks.map (countedText new))
  | .unified margin =>
    "--- " ++ labels.1 ++ "\n+++ " ++ labels.2 ++ "\n" ++
      String.join ((together margin hunks).map (unifiedText margin old new))
  | .parted margin =>
    "*** " ++ labels.1 ++ "\n--- " ++ labels.2 ++ "\n" ++
      String.join ((together margin hunks).map (partedText margin old new))

/-- Each run of blanks as one, and none at the end. -/
def squeezed : List Char → List Char
  | [] => []
  | c :: rest =>
    if c == ' ' || ('\t' ≤ c && c ≤ '\r') then
      match squeezed rest with
      | [] => []
      | ' ' :: more => ' ' :: more
      | more => ' ' :: more
    else c :: squeezed rest

/-- What counts of a line. -/
def key (options : Options) (line : String) : String :=
  let isBlank (c : Char) : Bool := c == ' ' || ('\t' ≤ c && c ≤ '\r')
  let chars := line.toList
  let chars :=
    if options.has '\x04' then
      match chars.reverse with
      | '\n' :: '\r' :: front => front.reverse ++ ['\n']
      | _ => chars
    else chars
  let chars :=
    if options.has 'w' then chars.filter (!isBlank ·)
    else if options.has 'b' then squeezed chars
    else if options.has 'Z' then (chars.reverse.dropWhile isBlank).reverse
    else chars
  String.ofList (if options.has 'i' then chars.map Char.toLower else chars)

/-- The style that is asked for; none if two different ones are. -/
def style? (options : Options) : Option (Option Style) :=
  let margin (text : String) : Nat := text.toNat?.getD 3
  let asked := options.switches.filter fun (c, _) =>
    ['u', 'U', 'c', 'C', 'e', 'n', '\x05'].contains c
  let kind (c : Char) : Char :=
    if c == 'U' then 'u' else if c == 'C' then 'c' else c
  match asked with
  | [] => some (some .normal)
  | (first, _) :: _ =>
    if asked.any fun (c, _) => kind c != kind first then none
    else
      let size := asked.foldl (fun n (_, text) => max n (margin text)) 0
      match kind first with
      | 'u' => some (some (.unified size))
      | 'c' => some (some (.parted size))
      | 'e' => some (some .commands)
      | 'n' => some (some .counted)
      | _ => some (some .normal)

/-- What the utility was asked, and how its switches were written. -/
structure Wish where
  name : String
  options : Options
  style : Style
  /-- The switches as they were written, which stand before the names of files in directories. -/
  spelled : List String

/-- The time that stands after a name where nothing else is wished. -/
def timeMark : String :=
  "\t1970-01-01 00:00:00.000000000 +0000"

/-- The names in front of differences. -/
def Wish.labels (wish : Wish) (first second : String) : String × String :=
  match wish.options.values 'L' with
  | a :: b :: _ => (a, b)
  | [a] => (a, second ++ timeMark)
  | [] => (first ++ timeMark, second ++ timeMark)

/-- Whether a line counts as blank. -/
def isBlankLine (line : String) : Bool :=
  line.toList.all (· == '\n')

/-- Compares two documents of some names. -/
def compareDocuments (wish : Wish) (isInner : Bool) (first second : String × ByteArray) :
    Run Nat := do
  let options := wish.options
  let isBinary (document : ByteArray) : Bool := document.toList.contains 0
  let title := String.join (("diff" :: wish.spelled ++ [first.1, second.1]).mapIdx fun n word =>
    (if n == 0 then "" else " ") ++ word) ++ "\n"
  let same : Run Nat := do
    if options.has 's' then
      say ("Files " ++ first.1 ++ " and " ++ second.1 ++ " are identical\n")
    return 0
  if first.2 == second.2 then same
  else if !options.has 'a' && (isBinary first.2 || isBinary second.2) then
    say ((if options.has 'q' then "Files " else "Binary files ") ++ first.1 ++ " and " ++
      second.1 ++ " differ\n")
    return 1
  else
    let old := endedLines (Raw.ofBytes first.2)
    let new := endedLines (Raw.ofBytes second.2)
    let hunks := editsBetween wish.style.margin (key options) old new
    let hunks := if options.has 'B' then
        hunks.filter fun hunk =>
          !((slice old hunk.oldStart hunk.oldCount).all isBlankLine &&
            (slice new hunk.newStart hunk.newCount).all isBlankLine)
      else hunks
    if hunks.isEmpty then same
    else if options.has 'q' then
      say ("Files " ++ first.1 ++ " and " ++ second.1 ++ " differ\n")
      return 1
    else
      if isInner then say title
      say (wish.style.text (wish.labels first.1 second.1) old new hunks)
      return 1

/-- What is at a path: a directory with its place, a document, or a fault. -/
inductive Side where
  | directory (place : Location)
  | document (bytes : ByteArray)
  | fault (fault : IoFault)

def sideAt (path : String) : Run Side := do
  if path == "-" then return .document (← readStream 0)
  match ← nodeAt path with
  | .ok (place, .directory _) => return .directory place
  | _ =>
    match ← contents path with
    | .ok bytes => return .document bytes
    | .error fault => return .fault fault

/-- What a side is called. -/
def Side.kind : Side → String
  | .document bytes => if bytes.isEmpty then "regular empty file" else "regular file"
  | _ => "directory"

/-- Compares what is at two paths. Fuel bounds how deep directories lie in each other. -/
def compareSides (wish : Wish) : Nat → Bool → String → Side → String → Side → Run Nat
  | 0, _, _, _, _, _ => return 2
  | fuel + 1, isInner, first, a, second, b => do
    let options := wish.options
    let missing (side : Side) : Bool :=
      match side with
      | .fault .notFound => options.has 'N'
      | _ => false
    let (a, b) :=
      match a, b with
      | .fault _, .document _ => (if missing a then Side.document .empty else a, b)
      | .document _, .fault _ => (a, if missing b then Side.document .empty else b)
      | _, _ => (a, b)
    match a, b with
    | .document x, .document y => compareDocuments wish isInner (first, x) (second, y)
    | .fault x, .fault y =>
      report wish.name (first ++ ": " ++ faultText x)
      report wish.name (second ++ ": " ++ faultText y)
      return 2
    | .fault x, _ =>
      report wish.name (first ++ ": " ++ faultText x)
      return 2
    | _, .fault y =>
      report wish.name (second ++ ": " ++ faultText y)
      return 2
    | .directory p, .directory q =>
      if isInner && !options.has 'r' then
        say ("Common subdirectories: " ++ first ++ " and " ++ second ++ "\n")
        return 0
      let tree := (← get).tree
      let names := (tree.names p ++ (tree.names q).filter fun name =>
        !(tree.names p).contains name).mergeSort fun x y => (compare x y).isLE
      names.foldlM (fun status name => do
        let inFirst := stepBelow first (Raw.ofText name)
        let inSecond := stepBelow second (Raw.ofText name)
        let only (path : String) : Run Nat := do
          say ("Only in " ++ path ++ ": " ++ Raw.ofText name ++ "\n")
          return max status 1
        let x ← sideAt inFirst
        let y ← sideAt inSecond
        match x, y with
        | .directory _, .fault .notFound => only first
        | .fault .notFound, .directory _ => only second
        | .document _, .fault .notFound =>
          if options.has 'N' then
            return max status (← compareSides wish fuel true inFirst x inSecond y)
          else only first
        | .fault .notFound, .document _ =>
          if options.has 'N' then
            return max status (← compareSides wish fuel true inFirst x inSecond y)
          else only second
        | _, _ => return max status (← compareSides wish fuel true inFirst x inSecond y)) 0
    | _, _ =>
      say ("File " ++ first ++ " is a " ++ a.kind ++ " while file " ++ second ++ " is a " ++
        b.kind ++ "\n")
      return 1

/-- How deep directories may lie in each other. -/
def depth : Nat := 1000

/-- Compares what two operands name. A file is compared with the one of its name in a directory. -/
def compareOperands (wish : Wish) (first second : String) : Run Nat := do
  let a ← sideAt first
  let b ← sideAt second
  match a, b with
  | .document _, .directory _ =>
    if first == "-" then
      report wish.name "cannot compare '-' to a directory"
      return 2
    let path := stepBelow second (lastStep first)
    compareSides wish depth false first a path (← sideAt path)
  | .directory _, .document _ =>
    if second == "-" then
      report wish.name "cannot compare '-' to a directory"
      return 2
    let path := stepBelow first (lastStep second)
    compareSides wish depth false path (← sideAt path) second b
  | _, _ => compareSides wish depth false first a second b

end Linewise

/-- The switches with the numbers of lines that may stand among the letters taken out: each becomes
    a switch of its own. -/
def withMargins (args : List String) : List String :=
  args.map fun arg =>
    match arg.toList with
    | ['-', 'u', d] => if d.isDigit then "-U" ++ String.singleton d else arg
    | ['-', 'c', d] => if d.isDigit then "-C" ++ String.singleton d else arg
    | _ => arg

def compareLines : Program := fun name args =>
  programTwice (letters "abBcdeEilnNpqrstTuvwyZ" "CDFILSUWxX" ++ [
      ⟨'a', ["text"], .never⟩, ⟨'b', ["ignore-space-change"], .never⟩,
      ⟨'B', ["ignore-blank-lines"], .never⟩, ⟨'c', [], .never⟩, ⟨'C', ["context"], .maybe⟩,
      ⟨'U', ["unified"], .maybe⟩, ⟨'e', ["ed"], .never⟩, ⟨'n', ["rcs"], .never⟩,
      ⟨'i', ["ignore-case"], .never⟩, ⟨'w', ["ignore-all-space"], .never⟩,
      ⟨'Z', ["ignore-trailing-space"], .never⟩, ⟨'N', ["new-file"], .never⟩,
      ⟨'q', ["brief"], .never⟩, ⟨'r', ["recursive"], .never⟩,
      ⟨'s', ["report-identical-files"], .never⟩, ⟨'L', ["label"], .always⟩,
      ⟨'d', ["minimal"], .never⟩, ⟨'\x03', ["color"], .maybe⟩,
      ⟨'\x04', ["strip-trailing-cr"], .never⟩, ⟨'\x05', ["normal"], .never⟩,
      ⟨'t', ["expand-tabs"], .never⟩, ⟨'H', ["speed-large-files"], .never⟩])
    (fun name args options => do
    match options.values 'U' ++ options.values 'C' |>.find? fun text =>
        !text.isEmpty && text.toNat?.isNone with
    | some text => misusedTwice name ("invalid context length '" ++ text ++ "'")
    | none =>
      match Linewise.style? options with
      | none => misusedTwice name "conflicting output style options"
      | some style =>
        match options.operands with
        | [first, second] =>
          let spelled := args.filter fun arg => !options.operands.contains arg
          Linewise.compareOperands ⟨name, options, style.getD .normal, spelled⟩ first second
        | _ :: _ :: extra :: _ => misusedTwice name ("extra operand '" ++ extra ++ "'")
        | operands =>
          misusedTwice name ("missing operand after '" ++ operands.headD name ++ "'"))
      name (withMargins args)

/-- The utilities of this module. -/
def comparisonUtilities : List (String × Program) := [
  ("cmp", compareBytes),
  ("diff", compareLines)]

end InfoFlow.Sandbox
