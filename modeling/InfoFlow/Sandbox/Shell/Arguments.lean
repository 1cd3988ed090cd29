import InfoFlow.Sandbox.Shell.Session

namespace InfoFlow.Shell

open Sandbox

/-- A command of the shell itself. -/
abbrev Builtin := List String → Action Nat

/-- Writes a text to the output. -/
def say (raw : String) : Action Unit :=
  onMachine (Sandbox.say raw)

/-- A text in quotes as a script would write it. Apostrophes stand in quotes of their own. -/
def quoted (s : String) : String :=
  "'" ++ String.ofList (inner s.toList)
where
  inner : List Char → List Char
    | [] => ['\'']
    | '\'' :: rest => '\'' :: '"' :: '\'' :: apostrophes rest
    | c :: rest => c :: inner rest
  apostrophes : List Char → List Char
    | [] => ['"']
    | '\'' :: rest => '\'' :: apostrophes rest
    | c :: rest => '"' :: '\'' :: c :: inner rest

/-- The letters of an argument, each with its value, and the last one if its value is still to come.
    A letter is known together with whether it has a value. -/
def lettersOf (known : List (Char × Bool)) :
    List Char → Action (List (Char × String) × Option Char)
  | [] => return ([], none)
  | c :: rest => do
    match known.lookup c with
    | none => refuse ("Illegal option -" ++ String.singleton c)
    | some false =>
      let (found, missing) ← lettersOf known rest
      return ((c, "") :: found, missing)
    | some true =>
      if rest.isEmpty then return ([], some c) else return ([(c, String.ofList rest)], none)

/-- Takes letters off the front of arguments. -/
def takeLetters (known : List (Char × Bool)) :
    List String → Action (List (Char × String) × List String)
  | [] => return ([], [])
  | arg :: rest => do
    match arg.toList with
    | ['-', '-'] => return ([], rest)
    | '-' :: c :: more =>
      let (found, missing) ← lettersOf known (c :: more)
      match missing, rest with
      | none, rest =>
        let (others, left) ← takeLetters known rest
        return (found ++ others, left)
      | some letter, value :: rest =>
        let (others, left) ← takeLetters known rest
        return (found ++ (letter, value) :: others, left)
      | some letter, [] => refuse ("No arg for -" ++ String.singleton letter ++ " option")
    | _ => return ([], arg :: rest)

/-- Takes letters without values off the front of arguments. -/
def takePlain (known : String) (args : List String) : Action (List Char × List String) := do
  let (found, left) ← takeLetters (known.toList.map (·, false)) args
  return (found.map Prod.fst, left)

end InfoFlow.Shell
