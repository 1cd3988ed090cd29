import InfoFlow.Sandbox.Pattern
import InfoFlow.Sandbox.Utility.Files

namespace InfoFlow.Node

def isDirectory : Node → Bool
  | .directory _ => true
  | _ => false

/-- The size that a node is shown with. -/
def shownSize : Node → Nat
  | .file document _ => document.size
  | .directory _ => 4096
  | .link target => target.utf8ByteSize
  | _ => 0

def mayRun : Node → Bool
  | .file _ mode | .directory mode => runs mode
  | .program _ => true
  | .sink | .link _ => false

/-- The letter of what a node is. -/
def kindLetter : Node → Char
  | .directory _ => 'd'
  | .sink => 'c'
  | .link _ => 'l'
  | _ => '-'

/-- The bits of a mode that tell what a node is. -/
def kindBits : Node → Nat
  | .directory _ => 0x4000
  | .sink => 0x2000
  | .link _ => 0xa000
  | _ => 0x8000

/-- The letters of what may be done with a node. -/
def modeText (node : Node) : String :=
  String.singleton node.kindLetter ++ Sandbox.Mode.letters (Sandbox.modeOf node)

/-- What a node is called. -/
def kindText : Node → String
  | .file document _ => if document.isEmpty then "regular empty file" else "regular file"
  | .directory _ => "directory"
  | .sink => "character special file"
  | .program _ => "regular file"
  | .link _ => "symbolic link"

end InfoFlow.Node

namespace InfoFlow.Sandbox

namespace Listing

/-- The mark of what a node is, after its name. -/
def mark (options : Options) (node : Node) : String :=
  if node.isDirectory then (if options.has 'p' || options.has 'F' then "/" else "")
  else if !options.has 'F' then ""
  else
    match node with
    | .link _ => if options.has 'l' then "" else "@"
    | node => if node.mayRun then "*" else ""

/-- Where a link leads, if that is shown. -/
def leading : Node → String
  | .link target => " -> " ++ Raw.ofText target
  | _ => ""

/-- Something that is shown: its name, what it is, and how many names it has. -/
structure Entry where
  name : String
  node : Node
  links : Nat := 1

/-- How names are laid out. -/
inductive Layout where
  | single
  | long
  | commas
  /-- In several columns, down or across. -/
  | columns (isAcross : Bool)
deriving DecidableEq

/-- The layout that is asked for last. -/
def layoutOf (options : Options) : Layout :=
  options.switches.foldl (fun layout (c, value) =>
    match c, value with
    | 'l', _ | 'g', _ | 'o', _ | 'n', _ | '\x06', "long" | '\x06', "verbose" => .long
    | '1', _ => if layout == .long then .long else .single
    | '\x06', "single-column" => .single
    | 'm', _ | '\x06', "commas" => .commas
    | 'C', _ | '\x06', "vertical" => .columns false
    | 'x', _ | '\x06', "across" | '\x06', "horizontal" => .columns true
    | _, _ => layout) .single

/-- A size in the largest unit of which there is one at least, rounded up. -/
def roundedSize (n : Nat) : String :=
  go 6 n "" ["K", "M", "G", "T", "P", "E"]
where
  go : Nat → Nat → String → List String → String
    | fuel + 1, n, unit, next :: rest =>
      if n < 1024 then toString n ++ unit
      else if n ≤ 10188 then
        -- One digit stands behind the point where there is one before it.
        let tenths := (n * 10 + 1023) / 1024
        if tenths < 100 then toString (tenths / 10) ++ "." ++ toString (tenths % 10) ++ next
        else "10" ++ next
      else go fuel ((n + 1023) / 1024) next rest
    | _, n, unit, _ => toString n ++ unit

/-- The place that each name takes in columns of a number, and the widths of the columns; or nothing
    if they are wider than the line. -/
def columnWidths? (isAcross : Bool) (line : Nat) (widths : List Nat) (count : Nat) :
    Option (List Nat) :=
  let total := widths.length
  let columnOf (n : Nat) : Nat :=
    if isAcross then n % count else n / ((total + count - 1) / count)
  let placed := widths.mapIdx fun n width =>
    (columnOf n, width + if columnOf n + 1 == count then 0 else 2)
  let found := (List.range count).map fun column =>
    placed.foldl (fun widest (other, width) => if other == column then max widest width else widest) 3
  if found.foldl (· + ·) 0 < line then some found else none

/-- What fills a line from one place to another: tabs as far as they reach. -/
def indent (first last : Nat) : Nat → String
  | 0 => ""
  | fuel + 1 =>
    if last ≤ first then ""
    else if (first + 1) / 8 < last / 8 then "\t" ++ indent (first + 8 - first % 8) last fuel
    else " " ++ indent (first + 1) last fuel

/-- Names in columns, as many as fit into a line. -/
def inColumns (isAcross : Bool) (line : Nat) (names : List String) : String :=
  let widths := names.map String.length
  let most := min (line / 3) names.length
  let found := (List.range most).reverse.findSome? fun n =>
    columnWidths? isAcross line widths (n + 1)
  let columns := found.getD [line]
  let count := columns.length
  let rows := (names.length + count - 1) / count
  unlines ((List.range rows).map fun row =>
    let shown := (List.range count).filterMap fun column =>
      names[if isAcross then row * count + column else column * rows + row]?
    let last := shown.length - 1
    (((shown.zip columns).mapIdx fun n (name, width) => (n, name, width)).foldl
      (fun (text, place) (n, name, width) =>
        let space := if n == last then "" else indent (place + name.length) (place + width) width
        (text ++ name ++ space, place + width)) ("", 0)).1)

/-- Names joined by commas in lines that are not too long. -/
def inCommas (line : Nat) (names : List String) : String :=
  let text := (names.foldl (fun (text, place) name =>
    if place == 0 then (text ++ name, name.length)
    else if place + name.length + 2 < line then (text ++ ", " ++ name, place + name.length + 2)
    else (text ++ ",\n" ++ name, name.length)) ("", 0)).1
  if names.isEmpty then "" else text ++ "\n"

/-- Entries that are shown together. -/
def text (options : Options) (entries : List Entry) : String :=
  let shown (name : String) : String :=
    if options.has 'Q' then "\"" ++ name ++ "\""
    else if options.has 'b' then String.ofList (name.toList.flatMap fun c =>
      if c == ' ' || c == '\\' then ['\\', c] else if isUnseen c then escapedChar c else [c])
    else name
  let blocks (entry : Entry) : Nat := (entry.node.shownSize + 4095) / 4096 * 4
  let blockText (entry : Entry) : String :=
    if options.has 'h' then roundedSize (blocks entry * 1024) else toString (blocks entry)
  let sizeText (entry : Entry) : String :=
    if options.has 'h' then roundedSize entry.node.shownSize else toString entry.node.shownSize
  let widest (texts : List String) : Nat := (texts.map String.length).max?.getD 0
  let right (width : Nat) (text : String) : String :=
    String.ofList (List.replicate (width - text.length) ' ') ++ text
  let blockWidth := widest (entries.map blockText)
  let sizeWidth := widest (entries.map sizeText)
  let linkWidth := widest (entries.map fun entry => toString entry.links)
  let owner := if options.has 'n' then "0" else "root"
  let lines := entries.map fun entry =>
    let front := if options.has 's' then right blockWidth (blockText entry) ++ " " else ""
    let mark := mark options entry.node
    if layoutOf options == .long then
      front ++ entry.node.modeText ++ " " ++ right linkWidth (toString entry.links) ++ " " ++
        (if options.has 'g' then "" else owner ++ " ") ++
        (if options.has 'o' || options.has 'G' then "" else owner ++ " ") ++
        right sizeWidth (sizeText entry) ++ " Jan  1 00:00 " ++ shown entry.name ++
        leading entry.node ++ mark
    else front ++ shown entry.name ++ mark
  let line := ((options.value? 'w').bind String.toNat?).getD 80
  match layoutOf options with
  | .columns isAcross => inColumns isAcross (if line == 0 then 1000000 else line) lines
  | .commas => inCommas (if line == 0 then 1000000 else line) lines
  | _ => unlines lines

/-- By what entries are put in order, besides their names. -/
inductive Order where
  | name
  | none
  | size
  | extension
  | version
  | width
deriving DecidableEq

/-- The order that is asked for last. -/
def orderOf (options : Options) : Order :=
  options.switches.foldl (fun order (c, value) =>
    match c, value with
    | 'S', _ | '\x05', "size" => .size
    | 'X', _ | '\x05', "extension" => .extension
    | 'v', _ | '\x05', "version" => .version
    | '\x05', "width" => .width
    | 'U', _ | 'f', _ | '\x05', "none" => .none
    | 't', _ | '\x05', "time" => .name
    | _, _ => order) .name

/-- What follows the last point of a name. -/
def extension (name : String) : String :=
  let chars := name.toList
  if chars.contains '.' then String.ofList ('.' :: (chars.reverse.takeWhile (· != '.')).reverse)
  else ""

/-- A name cut into the numbers in it, each after the text before it. -/
def versionParts : Nat → List Char → List (List Char × Nat)
  | 0, _ | _, [] => []
  | fuel + 1, chars =>
    let text := chars.takeWhile (!Char.isDigit ·)
    let digits := (chars.drop text.length).takeWhile Char.isDigit
    let number := (String.ofList digits).toNat?.getD 0
    (text, number) :: versionParts fuel (chars.drop (text.length + digits.length))

def compareVersions : List (List Char × Nat) → List (List Char × Nat) → Ordering
  | [], [] => .eq
  | [], _ => .lt
  | _, [] => .gt
  | (a, m) :: rest, (b, n) :: others =>
    ((compare (String.ofList a) (String.ofList b)).then (compare m n)).then
      (compareVersions rest others)

/-- How two entries follow each other. -/
def compareEntries (order : Order) (a b : Entry) : Ordering :=
  let names := compare a.name b.name
  match order with
  | .name => names
  | .none => .eq
  | .size => (compare b.node.shownSize a.node.shownSize).then names
  | .extension => (compare (extension a.name) (extension b.name)).then names
  | .version =>
    let parts (name : String) := versionParts (name.length + 1) name.toList
    (compareVersions (parts a.name) (parts b.name)).then names
  | .width => (compare a.name.length b.name.length).then names

/-- Entries in order. -/
def sorted (options : Options) (entries : List Entry) : List Entry :=
  let found := entries.mergeSort fun a b => (compareEntries (orderOf options) a b).isLE
  let found := if options.has 'r' && orderOf options != .none then found.reverse else found
  if options.has '\x04' then
    let (first, rest) := found.partition fun entry => entry.node.isDirectory
    first ++ rest
  else found

/-- The number of names of what is at a place: a directory has one in each directory in it. -/
def linksAt (tree : Tree) (place : Location) : Nat :=
  match tree.node? place with
  | some (.directory _) =>
    2 + ((tree.names place).filter fun name =>
      (tree.node? (place ++ [name])).any (·.isDirectory)).length
  | _ => 1

/-- Whether a name in a directory is shown. -/
def isShown (options : Options) (name : String) : Bool :=
  let isMatch (pattern : String) : Bool := Pattern.isMatch (.ofText pattern) name.toList
  let showsAll := options.has 'a' || options.has 'A' || options.has 'f'
  (showsAll || name.toList.head? != some '.') &&
    !(options.values 'I').any isMatch &&
    !(options.has 'B' && name.toList.getLast? == some '~') &&
    (showsAll || !(options.values '\x0e').any isMatch)

/-- What is shown of a directory. -/
def entries (options : Options) (tree : Tree) (place : Location) : List Entry :=
  let entryAt (place : Location) (name : String) : Option Entry :=
    (tree.node? place).map fun node => { name, node, links := linksAt tree place }
  let found := (tree.names place).filterMap fun name =>
    if isShown options (Raw.ofText name) then entryAt (place ++ [name]) (Raw.ofText name) else none
  let around :=
    if options.has 'a' || options.has 'f' then
      [entryAt place ".", entryAt place.dropLast ".."].filterMap id
    else []
  sorted options (around ++ found)

/-- The sum that stands above a list in which sizes are shown. -/
def total (options : Options) (entries : List Entry) : String :=
  if layoutOf options == .long || options.has 's' then
    let blocks := entries.foldl (fun n entry => n + (entry.node.shownSize + 4095) / 4096 * 4) 0
    "total " ++ (if options.has 'h' then roundedSize (blocks * 1024) else toString blocks) ++ "\n"
  else ""

/-- The parts that show a directory, and the directories in it if that is asked for. -/
def parts (options : Options) (tree : Tree) (titled : Bool) :
    Nat → String → Location → List String
  | 0, _, _ => []
  | fuel + 1, path, place =>
    let found := entries options tree place
    let title := if titled then path ++ ":\n" else ""
    let inner :=
      if options.has 'R' then
        found.flatMap fun entry =>
          if entry.node.isDirectory && entry.name != "." && entry.name != ".." then
            parts options tree titled fuel (stepBelow path entry.name)
              (place ++ [Raw.toText entry.name])
          else []
      else []
    (title ++ total options found ++ text options found) :: inner

def switches : List Switch :=
  letters "aAbBcCdfFgGhHiklLmnNopqQrRsStuUvxXZ1" "ITw" ++ [
    ⟨'a', ["all"], .never⟩, ⟨'A', ["almost-all"], .never⟩, ⟨'d', ["directory"], .never⟩,
    ⟨'R', ["recursive"], .never⟩, ⟨'r', ["reverse"], .never⟩, ⟨'F', ["classify"], .maybe⟩,
    ⟨'\x03', ["color"], .maybe⟩, ⟨'\x04', ["group-directories-first"], .never⟩,
    ⟨'\x05', ["sort"], .always⟩, ⟨'\x06', ["format"], .always⟩,
    ⟨'\x07', ["time-style"], .always⟩, ⟨'p', ["indicator-style"], .always⟩,
    ⟨'h', ["human-readable"], .never⟩, ⟨'Q', ["quote-name"], .never⟩,
    ⟨'s', ["size"], .never⟩, ⟨'i', ["inode"], .never⟩, ⟨'\x08', ["full-time"], .never⟩,
    ⟨'I', ["ignore"], .always⟩, ⟨'\x0e', ["hide"], .always⟩, ⟨'B', ["ignore-backups"], .never⟩,
    ⟨'b', ["escape"], .never⟩, ⟨'n', ["numeric-uid-gid"], .never⟩, ⟨'G', ["no-group"], .never⟩,
    ⟨'L', ["dereference"], .never⟩, ⟨'N', ["literal"], .never⟩, ⟨'w', ["width"], .always⟩,
    ⟨'\x0f', ["time"], .always⟩, ⟨'\x10', ["quoting-style"], .always⟩,
    ⟨'\x11', ["file-type"], .never⟩, ⟨'\x12', ["si"], .never⟩, ⟨'\x13', ["author"], .never⟩]

/-- What is wrong with the values of the switches. -/
def flaw? (options : Options) : Option String :=
  let sorts := ["none", "time", "size", "extension", "version", "width"]
  let formats := ["verbose", "long", "commas", "horizontal", "across", "vertical", "single-column"]
  match options.value? '\x05', options.value? '\x06' with
  | some value, _ =>
    if sorts.contains value then none
    else some (invalidChoice value "--sort" (sorts.map fun word => "'" ++ word ++ "'"))
  | none, some value =>
    if formats.contains value then none
    else some (invalidChoice value "--format"
      ["'verbose', 'long'", "'commas'", "'horizontal', 'across'", "'vertical'",
        "'single-column'"])
  | none, none => none

end Listing

/-- Shows what the operands lead to, the files first, and then what is in each directory. -/
def listNames (isParted : Bool) : Program :=
  Usage.program { switches := Listing.switches, failure := 2 } fun name options => do
    let options : Options :=
      if isParted then
        { options with switches := ('C', "") :: ('b', "") :: options.switches }
      else options
    if let some message := Listing.flaw? options then return ← lacking name message
    let operands := if options.operands.isEmpty then ["."] else options.operands
    let (found, isGood) ← operands.foldlM (fun (found, isGood) path => do
      let reached ← nodeAt path
      let keepsLinks := Listing.layoutOf options == .long || options.has 'd' ||
        options.has 'F' || reached.toOption.isNone
      match ← if keepsLinks && !options.has 'L' then linkAt path else pure reached with
      | .ok (place, node) =>
        let links := Listing.linksAt (← get).tree place
        return (found ++ [(place, ({ name := path, node, links } : Listing.Entry))], isGood)
      | .error fault =>
        report name ("cannot access " ++ quotedName path ++ ": " ++ faultText fault)
        return (found, false)) (([] : List (Location × Listing.Entry)), true)
    let isOpened (entry : Listing.Entry) : Bool := entry.node.isDirectory && !options.has 'd'
    let ordered := Listing.sorted options (found.map (·.2))
    let titled := options.has 'R' || operands.length > 1
    let tree := (← get).tree
    let directories := (ordered.filter isOpened).flatMap fun entry =>
      match found.find? fun (_, other) => other.name == entry.name with
      | some (place, _) => Listing.parts options tree titled Path.maxLength entry.name place
      | none => []
    let plain := ordered.filter (!isOpened ·)
    let front := if plain.isEmpty then [] else [Listing.text options plain]
    say ("\n".intercalate (front ++ directories))
    return if isGood then 0 else 2

/-- The utilities of this module. -/
def contentsUtilities : List (String × Program) := [
  ("ls", listNames false),
  ("dir", listNames true)]

end InfoFlow.Sandbox
