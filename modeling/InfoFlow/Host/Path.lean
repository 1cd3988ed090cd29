namespace InfoFlow.Path

def isAbsolute (path : String) : Bool :=
  path.toList.head? == some '/'

/-- A path below a directory. An absolute path stands for itself. The text is kept as it was
    written: nothing is looked up and no step is resolved. -/
def join (directory path : String) : String :=
  if isAbsolute path || directory.isEmpty then path
  else if directory.toList.getLast? == some '/' then directory ++ path
  else directory ++ "/" ++ path

/-- The steps of a path: what stands between its slashes. -/
def splitSteps (held : List Char) : List Char → List String
  | [] => [String.ofList held.reverse]
  | '/' :: rest => String.ofList held.reverse :: splitSteps [] rest
  | c :: rest => splitSteps (c :: held) rest

/-- The steps of a path that lead somewhere: all but the empty ones. -/
def steps (path : String) : List String :=
  (splitSteps [] path.toList).filter (!·.isEmpty)

/-- The part of a path in front of its steps: the root, or a leading dot. -/
def anchor (path : List Char) : List Char :=
  match path with
  | '/' :: _ => ['/']
  | ['.'] => ['.']
  | '.' :: '/' :: _ => ['.']
  | _ => []

/-- Whether a step neither names anything nor goes up. -/
def isIdle (step : List Char) : Bool :=
  step == [] || step == ['.']

/-- Cuts idle steps off the end of a reversed text of steps. -/
def trimIdle : Nat → List Char → List Char
  | 0, reversed => reversed
  | fuel + 1, reversed =>
    let step := reversed.takeWhile (· != '/')
    if reversed.isEmpty || !isIdle step then reversed
    else trimIdle fuel ((reversed.dropWhile (· != '/')).drop 1)

/-- The directory that a path is in, as a text. The root and the empty path are in none. -/
def parent? (path : String) : Option String :=
  let chars := path.toList
  let anchored := anchor chars
  let body := trimIdle path.length ((chars.drop anchored.length).reverse)
  if body.isEmpty then
    if anchored == ['.'] then some "" else none
  else
    let above := trimIdle path.length ((body.dropWhile (· != '/')).drop 1)
    some (String.ofList (anchored ++ above.reverse))

end InfoFlow.Path
