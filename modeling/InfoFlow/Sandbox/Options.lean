import InfoFlow.Sandbox.Machine

namespace InfoFlow.Sandbox

/-- Whether a switch has a value. A value that may be missing stands in the same argument. -/
inductive ValueUse where
  | never
  | always
  | maybe
deriving DecidableEq

/-- A switch: its letter, its words, and whether it has a value. Several switches may have the same
    letter. -/
structure Switch where
  letter : Char
  words : List String := []
  value : ValueUse := .never

/-- The arguments of a utility. -/
structure Options where
  switches : List (Char × String) := []
  operands : List String := []

namespace Options

/-- Whether a switch is given. -/
def has (options : Options) (letter : Char) : Bool :=
  options.switches.any (·.1 == letter)

/-- The last value that is given to a switch. -/
def value? (options : Options) (letter : Char) : Option String :=
  (options.switches.reverse.find? (·.1 == letter)).map (·.2)

/-- All values that are given to a switch. -/
def values (options : Options) (letter : Char) : List String :=
  (options.switches.filter (·.1 == letter)).map (·.2)

def addSwitch (letter : Char) (value : String) (options : Options) : Options :=
  { options with switches := (letter, value) :: options.switches }

def addOperand (operand : String) (options : Options) : Options :=
  { options with operands := operand :: options.operands }

/-- The words that begin with a text, each with its switch; a word itself counts alone. -/
def wordsFrom (known : List Switch) (text : String) : List (String × Switch) :=
  let all := known.flatMap fun switch => switch.words.map (·, switch)
  match all.find? (·.1 == text) with
  | some found => [found]
  | none => all.filter fun (word, _) => text.toList.isPrefixOf word.toList

/-- Reads the arguments; `mixed` tells whether switches may follow operands. -/
def readFrom (known : List Switch) (mixed : Bool) : List String → Except String Options
  | [] => .ok {}
  | arg :: rest => do
    match arg.toList with
    | ['-', '-'] => return { operands := rest }
    | '-' :: '-' :: text =>
      let name := String.ofList (text.takeWhile (· != '='))
      let value := (text.dropWhile (· != '=')).drop 1
      let hasValue := text.contains '='
      match wordsFrom known name with
      | [] => throw ("unrecognized option '" ++ arg ++ "'")
      | (word, switch) :: others =>
        if others.any fun (_, other) => other.letter != switch.letter then
          throw ("option '" ++ arg ++ "' is ambiguous; possibilities:" ++
            String.join (((word, switch) :: others).map fun (word, _) => " '--" ++ word ++ "'"))
        else
          match switch.value, hasValue, rest with
          | .never, true, _ =>
            throw ("option '--" ++ word ++ "' doesn't allow an argument")
          | .always, false, [] => throw ("option '--" ++ word ++ "' requires an argument")
          | .always, false, value :: rest =>
            return (← readFrom known mixed rest).addSwitch switch.letter value
          | _, _, rest =>
            return (← readFrom known mixed rest).addSwitch switch.letter (String.ofList value)
    | '-' :: letter :: letters =>
      let (found, missing) ← readLetters (letter :: letters)
      match missing, rest with
      | none, rest =>
        let options ← readFrom known mixed rest
        return { options with switches := found ++ options.switches }
      | some letter, [] =>
        throw ("option requires an argument -- '" ++ String.singleton letter ++ "'")
      | some letter, value :: rest =>
        let options ← readFrom known mixed rest
        return { options with switches := found ++ (letter, value) :: options.switches }
    | _ =>
      if mixed then return (← readFrom known mixed rest).addOperand arg
      else return { operands := arg :: rest }
where
  /-- Reads letters. The last one may lack its value. -/
  readLetters : List Char → Except String (List (Char × String) × Option Char)
    | [] => .ok ([], none)
    | letter :: rest =>
      match known.find? (·.letter == letter) with
      | none => .error ("invalid option -- '" ++ String.singleton letter ++ "'")
      | some switch =>
        match switch.value, rest with
        | .never, rest => do
          let (found, missing) ← readLetters rest
          return ((letter, "") :: found, missing)
        | .always, [] => .ok ([], some letter)
        | _, rest => .ok ([(letter, String.ofList rest)], none)

end Options

/-- How a utility is used: its switches, the status of one that is used wrongly, and whether
    switches may follow operands. -/
structure Usage where
  switches : List Switch := []
  failure : Nat := 1
  mixed : Bool := true

/-- Switches that are letters only. -/
def letters (plain : String) (valued : String := "") : List Switch :=
  plain.toList.map (⟨·, [], .never⟩) ++ valued.toList.map (⟨·, [], .always⟩)

/-- Reports that a utility is used wrongly. -/
def misused (name message : String) : Run Unit := do
  report name message
  emit 2 (Raw.toBytes ("Try '" ++ name ++ " --help' for more information.\n"))

/-- The words that every utility knows. They ask for an explanation, which is all that follows. -/
def explanations : List Switch :=
  [⟨'\x01', ["help"], .never⟩, ⟨'\x02', ["version"], .never⟩]

/-- A utility that reads its arguments as its usage says. -/
def Usage.program (usage : Usage) (body : String → Options → Run Nat) : Program :=
  fun name args => do
    match Options.readFrom (usage.switches ++ explanations) usage.mixed args with
    | .error message =>
      misused name message
      return usage.failure
    | .ok options =>
      if explanations.any fun switch => options.has switch.letter then return 0
      else body name options

end InfoFlow.Sandbox
