import InfoFlow.Sandbox.Escape
import InfoFlow.Sandbox.Utility.Contents

namespace InfoFlow.Sandbox

/-- The last step of a name, without an ending that it has beyond it. -/
def baseName (ending name : String) : String :=
  let base := lastStep name
  let chars := base.toList
  let tail := ending.toList
  if !tail.isEmpty && tail.length < chars.length &&
      chars.drop (chars.length - tail.length) == tail then
    String.ofList (chars.take (chars.length - tail.length))
  else base

def baseNames : Program :=
  Usage.program {
    switches := [⟨'a', ["multiple"], .never⟩, ⟨'s', ["suffix"], .always⟩,
      ⟨'z', ["zero"], .never⟩], mixed := false } fun name options => do
    let ending := if options.has 'z' then "\x00" else "\n"
    let tell (suffix : String) (names : List String) : Run Nat := do
      names.forM fun name => say (baseName suffix name ++ ending)
      return 0
    match options.operands, options.has 'a' || options.has 's' with
    | [], _ => lacking name "missing operand"
    | names, true => tell ((options.value? 's').getD "") names
    | [only], false => tell "" [only]
    | [only, suffix], false => tell suffix [only]
    | _ :: _ :: extra :: _, false => lacking name ("extra operand " ++ quotedName extra)

def frontNames : Program :=
  Usage.program { switches := [⟨'z', ["zero"], .never⟩] } fun name options => do
    let ending := if options.has 'z' then "\x00" else "\n"
    if options.operands.isEmpty then lacking name "missing operand"
    else
      options.operands.forM fun path => say (frontSteps path ++ ending)
      return 0

/-- The place that a path leads to, though nothing need be there. -/
def placeFor (path : String) : Run (Except IoFault Location) := do
  let machine ← get
  let text := Raw.toText path
  return do
    Tree.refuse text
    machine.tree.walk Path.maxLinks true machine.workDir text

/-- The path that leads from one place to another. -/
def relativePath (base place : Location) : String :=
  let common := ((base.zip place).takeWhile fun (a, b) => a == b).length
  let steps := List.replicate (base.length - common) ".." ++ place.drop common
  if steps.isEmpty then "." else Raw.ofText ("/".intercalate steps)

/-- The place that a path leads to if what is not there were there. -/
def placeThrough (path : String) : Run (Except IoFault Location) := do
  let machine ← get
  let steps := (Raw.parts (· == '/') path).filter fun step => !step.isEmpty && step != "."
  let start := if path.toList.head? == some '/' then [] else machine.workDir
  return .ok (steps.foldl (fun place step =>
    if step == ".." then place.dropLast
    else
      match machine.tree.find place (Raw.toText step) with
      | .ok (reached, _) => reached
      | .error _ => place ++ [Raw.toText step]) start)

def resolvePaths : Program :=
  Usage.program {
    switches := [⟨'e', ["canonicalize-existing"], .never⟩,
      ⟨'m', ["canonicalize-missing"], .never⟩, ⟨'q', ["quiet"], .never⟩,
      ⟨'s', ["strip", "no-symlinks"], .never⟩, ⟨'z', ["zero"], .never⟩,
      ⟨'L', ["logical"], .never⟩, ⟨'P', ["physical"], .never⟩,
      ⟨'r', ["relative-to"], .always⟩, ⟨'b', ["relative-base"], .always⟩] }
    fun name options => do
    if options.operands.isEmpty then lacking name "missing operand"
    else
      let resolve := if options.has 'm' then placeThrough else placeFor
      let inner ← (options.value? 'b').mapM placeFor
      let base ← ((options.value? 'r') <|> options.value? 'b').mapM placeFor
      return statusOf (← forOperands options.operands fun path => do
        let isThere := (← nodeAt path).toOption.isSome
        let ending := if options.has 'z' then "\x00" else "\n"
        match ← resolve path with
        | .ok place =>
          if options.has 'e' && !isThere then
            if options.has 'q' then return false
            fails name (shownName path ++ ": No such file or directory")
          else
            let isInner : Bool :=
              match inner with
              | some (.ok inner) => inner.isPrefixOf place
              | _ => true
            match base with
            | some (.ok base) =>
              say ((if isInner then relativePath base place else pathOf place) ++ ending)
            | _ => say (pathOf place ++ ending)
            return true
        | .error fault =>
          if options.has 'q' then return false
          fails name (shownName path ++ ": " ++ faultText fault))

/-- Shows where links lead, or resolves paths. -/
def readLinks : Program :=
  Usage.program {
    switches := [⟨'f', ["canonicalize"], .never⟩, ⟨'e', ["canonicalize-existing"], .never⟩,
      ⟨'m', ["canonicalize-missing"], .never⟩, ⟨'n', ["no-newline"], .never⟩,
      ⟨'q', ["quiet", "silent"], .never⟩, ⟨'s', [], .never⟩, ⟨'v', ["verbose"], .never⟩,
      ⟨'z', ["zero"], .never⟩] } fun name options => do
    if options.operands.isEmpty then lacking name "missing operand"
    else
      let resolves := options.has 'f' || options.has 'e' || options.has 'm'
      let isMany := options.operands.length > 1
      if options.has 'n' && isMany then
        report name "ignoring --no-newline with multiple arguments"
      return statusOf (← forOperands options.operands fun path => do
        let ending :=
          if options.has 'n' && !isMany then "" else if options.has 'z' then "\x00" else "\n"
        if resolves then
          let isThere := (← nodeAt path).toOption.isSome
          match ← if options.has 'm' then placeThrough path else placeFor path with
          | .ok place =>
            if options.has 'e' && !isThere then return false
            say (pathOf place ++ ending)
            return true
          | .error _ => return false
        else
          match ← linkAt path with
          | .ok (_, .link target) =>
            say (Raw.ofText target ++ ending)
            return true
          | .ok _ =>
            if options.has 'v' then fails name (shownName path ++ ": Invalid argument")
            else return false
          | .error fault =>
            if options.has 'v' then fails name (shownName path ++ ": " ++ faultText fault)
            else return false)

/-- What a format shows of a file. -/
def described (path : String) (links : Nat) (node : Node) : List Char → String
  | '%' :: c :: rest =>
    let text :=
      match c with
      | 'n' => path
      | 'N' =>
        match node with
        | .link target => "'" ++ path ++ "' -> '" ++ Raw.ofText target ++ "'"
        | _ => "'" ++ path ++ "'"
      | 's' => toString node.shownSize
      | 'F' => node.kindText
      | 'a' => Mode.octal (modeOf node)
      | 'A' => node.modeText
      | 'U' | 'G' => "root"
      | 'u' | 'g' => "0"
      | 'h' => toString links
      | 'f' => String.ofList (Nat.toDigits 16 (node.kindBits + modeOf node))
      | 't' => if node.kindLetter == 'c' then "1" else "0"
      | 'T' => if node.kindLetter == 'c' then "3" else "0"
      | 'b' => toString ((node.shownSize + 4095) / 4096 * 8)
      | 'B' => "512"
      | 'o' => "4096"
      | 'm' => "/"
      | '%' => "%"
      | _ => "?"
    text ++ described path links node rest
  | c :: rest => String.singleton c ++ described path links node rest
  | [] => ""

def describeFiles : Program :=
  Usage.program {
    switches := [⟨'c', ["format"], .always⟩, ⟨'L', ["dereference"], .never⟩,
      ⟨'f', ["file-system"], .never⟩, ⟨'t', ["terse"], .never⟩,
      ⟨'p', ["printf"], .always⟩] } fun name options => do
    if options.operands.isEmpty then lacking name "missing operand"
    else
      return statusOf (← forOperands options.operands fun path => do
        match ← if options.has 'L' then nodeAt path else linkAt path with
        | .error fault =>
          let failure :=
            if options.has 'f' then "cannot read file system information for " else "cannot statx "
          fails name (failure ++ quotedName path ++ ": " ++ faultText fault)
        | .ok (place, node) =>
          let links := Listing.linksAt (← get).tree place
          match options.value? 'c', options.value? 'p' with
          | some format, _ => say (described path links node format.toList ++ "\n")
          | none, some format =>
            say (described path links node (Escape.all format.length format.toList))
          | none, none =>
            say ("  File: " ++ path ++ "\n  Size: " ++ toString node.shownSize ++ "\n")
          return true)

/-- The utilities of this module. -/
def listingUtilities : List (String × (Launch → Program)) := [
  ("stat", fun _ => describeFiles),
  ("basename", fun _ => baseNames),
  ("dirname", fun _ => frontNames),
  ("realpath", fun _ => resolvePaths),
  ("readlink", fun _ => readLinks)]

end InfoFlow.Sandbox
