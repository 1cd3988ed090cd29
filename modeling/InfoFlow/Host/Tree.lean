import InfoFlow.Host.Basic

namespace InfoFlow

/-- A place in a tree: the names on the way from the root. -/
abbrev Location := List String

/-- What is at a place. The mode of a file or a directory tells in nine bits who may do what. -/
inductive Node where
  | file (document : ByteArray) (mode : Nat)
  | directory (mode : Nat)
  /-- Takes all that is written to it, and holds nothing. -/
  | sink
  /-- A program of the machine, by its name. -/
  | program (name : String)
  /-- Stands for what is at another path. -/
  | link (target : String)

/-- The mode of a file that is made without further wishes. -/
def Node.fileMode : Nat := 0o644

/-- The mode of a directory that is made without further wishes. -/
def Node.directoryMode : Nat := 0o755

/-- Whether a mode lets somebody run a file. -/
def Node.runs (mode : Nat) : Bool :=
  mode.land 0o111 != 0

/-- The files and directories of a machine, each at its place. The root is always there. -/
structure Tree where
  nodes : List (Location × Node) := []

/-- The longest path that a system takes, in bytes. -/
def Path.maxLength : Nat := 4095

/-- The longest name of a file, in bytes. -/
def Path.maxStep : Nat := 255

/-- How many links a path may lead over. -/
def Path.maxLinks : Nat := 40

namespace Tree

/-- What is at a place. -/
def node? (tree : Tree) (place : Location) : Option Node :=
  if place.isEmpty then some (.directory Node.directoryMode) else tree.nodes.lookup place

/-- Puts something at a place. -/
def put (tree : Tree) (place : Location) (node : Node) : Tree :=
  ⟨(place, node) :: tree.nodes.filter (·.1 != place)⟩

/-- Takes away what is at a place and below it. -/
def remove (tree : Tree) (place : Location) : Tree :=
  ⟨tree.nodes.filter fun entry => !place.isPrefixOf entry.1⟩

/-- The nodes below a place, with the steps that lead from it to them. -/
def below (tree : Tree) (place : Location) : List (Location × Node) :=
  tree.nodes.filterMap fun (other, node) =>
    if place.isPrefixOf other && other != place then some (other.drop place.length, node) else none

/-- The names in a directory, in ascending order. -/
def names (tree : Tree) (place : Location) : List String :=
  ((tree.below place).filterMap fun
    | ([name], _) => some name
    | _ => none).mergeSort fun a b => (compare a b).isLE

/-- Follows steps from a place; `follow` resolves a link from the place that it is in. The last step
    may lead to a place where nothing is, and if it leads to a link the link itself may be meant. -/
def walkSteps (tree : Tree) (follow : Location → String → Except IoFault Location)
    (followsLast : Bool) (place : Location) : List String → Except IoFault Location
  | [] => .ok place
  | step :: rest =>
    match tree.node? place with
    | none => .error .notFound
    | some (.directory _) =>
      if step = "." then walkSteps tree follow followsLast place rest
      else if step = ".." then walkSteps tree follow followsLast place.dropLast rest
      else if step.utf8ByteSize > Path.maxStep then .error .nameTooLong
      else
        match tree.node? (place ++ [step]) with
        | some (.link target) =>
          if rest.isEmpty && !followsLast then .ok (place ++ [step])
          else do walkSteps tree follow followsLast (← follow place target) rest
        | _ => walkSteps tree follow followsLast (place ++ [step]) rest
    | some _ => .error .notADirectory

/-- Where the first step of a path starts. -/
def start (workDir : Location) (path : String) : Location :=
  if Path.isAbsolute path then [] else workDir

/-- The place that a path leads to over a number of links at most. -/
def walk (tree : Tree) : Nat → Bool → Location → String → Except IoFault Location
  | 0, _, _, _ => .error .tooManyLinks
  | links + 1, followsLast, workDir, path =>
    tree.walkSteps (fun place target => walk tree links true place target) followsLast
      (start workDir path) (Path.steps path)

/-- Paths that no operation takes. -/
def refuse (path : String) : Except IoFault Unit :=
  if path.toList.contains '\x00' then .error .zeroInPath
  else if path.isEmpty then .error .notFound
  else if path.utf8ByteSize > Path.maxLength then .error .nameTooLong
  else .ok ()

def endsInSlash (path : String) : Bool :=
  path.toList.getLast? == some '/'

/-- What is at a path that is to exist, and where. A path that ends in a slash leads to a directory.
    A link at its end stands for itself if it is not followed. -/
def look (tree : Tree) (follows : Bool) (workDir : Location) (path : String) :
    Except IoFault (Location × Node) := do
  refuse path
  let place ← tree.walk Path.maxLinks (follows || endsInSlash path) workDir path
  match tree.node? place with
  | none => throw .notFound
  | some (.directory mode) => return (place, .directory mode)
  | some node => if endsInSlash path then throw .notADirectory else return (place, node)

/-- What is at a path, over all links. -/
def find (tree : Tree) (workDir : Location) (path : String) : Except IoFault (Location × Node) :=
  tree.look true workDir path

def readFile (tree : Tree) (workDir : Location) (path : String) : Except IoFault ByteArray := do
  match ← tree.find workDir path with
  | (_, .file document _) => return document
  | (_, .directory _) => throw .isADirectory
  | _ => return .empty

/-- The directory that the last step of a path starts in, and that step. -/
def findParent (tree : Tree) (workDir : Location) (path : String) :
    Except IoFault (Location × Option String) := do
  refuse path
  let steps := Path.steps path
  let place ← tree.walkSteps (tree.walk Path.maxLinks true) true (start workDir path) steps.dropLast
  match tree.node? place with
  | none => throw .notFound
  | some (.directory _) =>
    match steps.getLast? with
    | none => return (place, none)
    | some step =>
      if step = "." || step = ".." then return (place, none)
      else if step.utf8ByteSize > Path.maxStep then throw .nameTooLong
      else return (place, some step)
  | some _ => throw .notADirectory

/-- The place of a file that is to be written. -/
def placeToWrite (tree : Tree) (workDir : Location) (path : String) :
    Except IoFault Location := do
  match ← tree.findParent workDir path with
  | (_, none) => throw .isADirectory
  | (place, some step) =>
    if endsInSlash path then throw .isADirectory
    let place ← tree.walkSteps (tree.walk Path.maxLinks true) true place [step]
    match tree.node? place with
    | some (.directory _) => throw .isADirectory
    | some (.program _) => throw .permissionDenied
    | _ => return place

/-- Puts a document at the place of a file, which keeps its mode. -/
def putDocument (tree : Tree) (place : Location) (document : ByteArray) : Tree :=
  match tree.node? place with
  | some (.file _ mode) => tree.put place (.file document mode)
  | some _ => tree
  | none => tree.put place (.file document Node.fileMode)

def writeFile (tree : Tree) (workDir : Location) (path : String) (document : ByteArray) :
    Except IoFault Tree := do
  return tree.putDocument (← tree.placeToWrite workDir path) document

def makeDir (tree : Tree) (workDir : Location) (path : String) : Except IoFault Tree := do
  match ← tree.findParent workDir path with
  | (_, none) => throw .alreadyExists
  | (place, some step) =>
    match tree.node? (place ++ [step]) with
    | some _ => throw .alreadyExists
    | none => return tree.put (place ++ [step]) (.directory Node.directoryMode)

def isDir (tree : Tree) (workDir : Location) (path : String) : Bool :=
  match tree.find workDir path with
  | .ok (_, .directory _) => true
  | _ => false

def isFile (tree : Tree) (workDir : Location) (path : String) : Bool :=
  match tree.find workDir path with
  | .ok (_, .file ..) | .ok (_, .program _) => true
  | _ => false

/-- The programs of a machine: what one does to the files, and how it ends. -/
abbrev Programs := Invocation → Tree → Except IoFault (Finished × Tree)

/-- Changes the tree, unless the change fails. -/
def change (attempt : Tree → Except IoFault Tree) : StateM Tree (Except IoFault Unit) := do
  match attempt (← get) with
  | .error fault => return .error fault
  | .ok tree =>
    set tree
    return .ok ()

/-- The machine with the files of a tree and the given programs. -/
def host (workDir : Location) (programs : Programs) : Host (StateM Tree) where
  readFile path := return (← get).readFile workDir path
  writeFile path document := change (·.writeFile workDir path document)
  makeDir path := change (·.makeDir workDir path)
  isDir path := return (← get).isDir workDir path
  isFile path := return (← get).isFile workDir path
  run invocation := do
    match programs invocation (← get) with
    | .error fault => return .error fault
    | .ok (finished, tree) =>
      set tree
      return .ok finished

end Tree

end InfoFlow
