namespace InfoFlow.Command

/-- What is asked for. -/
inductive Task where
  /-- Write the program of a manifest. -/
  | emit (manifest : String) (output scope compiler : Option String)
  /-- List the chains to the leaves of a schema. -/
  | selectors (manifest schema : String)
  /-- Compile a module of authorization logic. -/
  | authorize (name inputDir outputDir : String) (compiler : Option String)
deriving DecidableEq, Repr

structure Request where
  /-- The directory of the settings. -/
  config : Option String
  isVerbose : Bool
  task : Task
deriving DecidableEq, Repr

/-- Why arguments do not ask for a task. -/
inductive Halt where
  | misuse
  | help
  | version
deriving DecidableEq, Repr

/-- What a switch is followed by, or what an operand is. A path is not empty. -/
inductive Demand where
  | nothing
  | text
  | path
deriving DecidableEq, Repr

structure Switch where
  name : String
  letter : Option Char := none
  demand : Demand

/-- The switches and operands that are known at one place of a command line. The switches may stand
    before and after the operands. -/
structure Level where
  switches : List Switch
  operands : List Demand := []
  /-- Whether the first operand is the name of a command, and ends the level. -/
  isTop : Bool := false

/-- What was given at a level. -/
structure Given where
  values : List (String × String) := []
  operands : List String := []

namespace Given

/-- The value of a switch. -/
def value? (given : Given) (name : String) : Option String :=
  given.values.lookup name

/-- The value of a switch that must be given. -/
def needed (given : Given) (name : String) : Except Halt String :=
  match given.value? name with
  | some value => .ok value
  | none => .error .misuse

/-- Takes a switch, which may be given once. -/
def take (given : Given) (switch : Switch) (value : String) : Except Halt Given :=
  if (given.value? switch.name).isSome || (switch.demand == .path && value.isEmpty) then
    .error .misuse
  else .ok { given with values := (switch.name, value) :: given.values }

/-- Takes an operand, of which there may be as many as are demanded. -/
def takeOperand (level : Level) (given : Given) (value : String) : Except Halt Given :=
  match level.operands[given.operands.length]? with
  | none => .error .misuse
  | some demand =>
    if demand == .path && value.isEmpty then .error .misuse
    else .ok { given with operands := given.operands ++ [value] }

end Given

namespace Level

/-- Takes the switches of a group of letters. A switch that demands a value takes the rest of the
    group as its value; it waits for one if nothing is left. -/
def takeLetters (level : Level) : List Char → Given → Except Halt (Given × Option Switch)
  | [], given => .ok (given, none)
  | c :: rest, given =>
    match level.switches.find? (·.letter == some c) with
    | some switch =>
      if switch.demand == .nothing then do
        takeLetters level rest (← given.take switch "")
      else
        match rest with
        | [] => .ok (given, some switch)
        | '=' :: value | value => do
          return (← given.take switch (String.ofList value), none)
    | none =>
      if c == 'h' then .error .help
      else if c == 'V' && level.isTop then .error .version
      else .error .misuse

/-- Takes a switch by its name, which may be followed by its value. -/
def takeName (level : Level) (text : List Char) (given : Given) :
    Except Halt (Given × Option Switch) :=
  let name := String.ofList (text.takeWhile (· != '='))
  let value := (text.dropWhile (· != '=')).tail?
  match level.switches.find? (·.name == name), value with
  | some switch, some value =>
    if switch.demand == .nothing then .error .misuse
    else do return (← given.take switch (String.ofList value), none)
  | some switch, none =>
    if switch.demand == .nothing then do return (← given.take switch "", none)
    else .ok (given, some switch)
  | none, some _ => .error .misuse
  | none, none =>
    if name = "help" then .error .help
    else if name = "version" && level.isTop then .error .version
    else .error .misuse

/-- Whether an argument is read as switches. A lone dash is an operand. -/
def isSwitch (arg : String) : Bool :=
  match arg.toList with
  | '-' :: _ :: _ => true
  | _ => false

def takeSwitch (level : Level) (arg : String) (given : Given) :
    Except Halt (Given × Option Switch) :=
  match arg.toList with
  | '-' :: '-' :: name => level.takeName name given
  | '-' :: letters => level.takeLetters letters given
  | _ => .error .misuse

/-- Goes through arguments; what follows is left where the level ends. -/
def scan (level : Level) : List String → Given → Except Halt (Given × List String)
  | [], given => .ok (given, [])
  | arg :: rest, given =>
    if arg = "--" then do
      return (← rest.foldlM (Given.takeOperand level) given, [])
    else if isSwitch arg then do
      let (given, waiting) ← level.takeSwitch arg given
      match waiting, rest with
      | none, rest => scan level rest given
      | some switch, value :: rest =>
        if isSwitch value then throw .misuse
        scan level rest (← given.take switch value)
      | some _, [] => throw .misuse
    else if level.isTop then .ok (given, arg :: rest)
    else do scan level rest (← given.takeOperand level arg)

end Level

/-- The switches that every level knows. -/
def commonSwitches : List Switch :=
  [⟨"config", none, .path⟩, ⟨"verbose", some 'v', .nothing⟩]

def topLevel : Level :=
  { switches := commonSwitches, isTop := true }

def emitLevel : Level where
  switches := commonSwitches ++
    [⟨"output", some 'o', .path⟩, ⟨"namespace", none, .text⟩, ⟨"compiler", none, .path⟩]
  operands := [.path]

def emitTask (given : Given) : Except Halt Task :=
  match given.operands with
  | [manifest] => .ok (.emit manifest (given.value? "output") (given.value? "namespace")
      (given.value? "compiler"))
  | _ => .error .misuse

def selectorsLevel : Level where
  switches := commonSwitches
  operands := [.path, .text]

def selectorsTask (given : Given) : Except Halt Task :=
  match given.operands with
  | [manifest, schema] => .ok (.selectors manifest schema)
  | _ => .error .misuse

def authorizeLevel : Level where
  switches := commonSwitches ++
    [⟨"module", none, .text⟩, ⟨"input-dir", none, .path⟩, ⟨"output-dir", none, .path⟩,
      ⟨"compiler", none, .path⟩]

def authorizeTask (given : Given) : Except Halt Task := do
  return .authorize (← given.needed "module") (← given.needed "input-dir")
    (← given.needed "output-dir") (given.value? "compiler")

/-- The commands, each under its name. -/
def commands : List (String × Level × (Given → Except Halt Task)) := [
  ("emit", emitLevel, emitTask),
  ("selectors", selectorsLevel, selectorsTask),
  ("authz", authorizeLevel, authorizeTask)]

/-- Reads arguments. A switch after the name of a command counts more than one before it. -/
def parse (args : List String) : Except Halt Request := do
  let (outer, rest) ← topLevel.scan args {}
  match rest with
  | [] => throw .misuse
  | name :: rest =>
    match commands.lookup name with
    | none => throw .misuse
    | some (level, taskOf) =>
      let (inner, _) ← level.scan rest {}
      return {
        config := inner.value? "config" <|> outer.value? "config"
        isVerbose := (inner.value? "verbose" <|> outer.value? "verbose").isSome
        task := ← taskOf inner }

end InfoFlow.Command
