import InfoFlow.Sandbox.Options
import InfoFlow.Sandbox.Quoting

namespace InfoFlow.Sandbox

/-- What a fault is called. -/
def faultText (fault : IoFault) : String :=
  fault.description.1

/-- How a utility reports that it cannot read. -/
structure ReadingFaults where
  missing : String → IoFault → String :=
    fun name fault => shownName name ++ ": " ++ faultText fault
  directory : String → IoFault → String :=
    fun name fault => shownName name ++ ": " ++ faultText fault

/-- The documents of some operands, each with its name. A lone hyphen is the input. Whether all of
    them were read is told too. -/
def readAll (utility : String) (faults : ReadingFaults) (operands : List String) :
    Run (List (String × ByteArray) × Bool) := do
  let operands := if operands.isEmpty then ["-"] else operands
  operands.foldlM (fun (documents, isGood) name => do
    if name == "-" then return (documents ++ [(name, ← readStream 0)], isGood)
    match ← contents name with
    | .ok document => return (documents ++ [(name, document)], isGood)
    | .error .isADirectory =>
      report utility (faults.directory name .isADirectory)
      return (documents, false)
    | .error fault =>
      report utility (faults.missing name fault)
      return (documents, false)) ([], true)

/-- The documents of some operands as texts. -/
def readTexts (utility : String) (operands : List String) :
    Run (List (String × String) × Bool) := do
  let (documents, isGood) ← readAll utility {} operands
  return (documents.map fun (name, document) => (name, Raw.ofBytes document), isGood)

/-- The lines of a text with their ends. The last one may have none. -/
def endedLines (text : String) : List String :=
  go [] text.toList
where
  go (held : List Char) : List Char → List String
    | [] => if held.isEmpty then [] else [String.ofList held.reverse]
    | '\n' :: rest => String.ofList ('\n' :: held).reverse :: go [] rest
    | c :: rest => go (c :: held) rest

/-- The status of a utility that may have failed. -/
def statusOf (isGood : Bool) : Nat :=
  if isGood then 0 else 1

/-- Lines, each ended. -/
def unlines (lines : List String) : String :=
  String.join (lines.map (· ++ "\n"))

/-- A number at the right end of some columns. -/
def column (width n : Nat) : String :=
  let digits := toString n
  String.ofList (List.replicate (width - digits.length) ' ') ++ digits

/-- Two texts joined on a line that may already be ended. -/
def ensureEnd (text : String) : String :=
  if text.isEmpty || text.toList.getLast? == some '\n' then text else text ++ "\n"

/-- The multiple that letters stand for: a power of 1024, or of 1000 with a `B`. -/
def multipleOf? : List Char → Option Nat
  | [] => some 1
  | ['b'] => some 512
  | c :: rest =>
    let power : Option Nat :=
      [('k', 1), ('K', 1), ('m', 2), ('M', 2), ('G', 3), ('T', 4), ('P', 5), ('E', 6)].lookup c
    match power, rest with
    | some n, [] | some n, ['i', 'B'] => some (Nat.pow 1024 n)
    | some n, ['B'] => some (Nat.pow 1000 n)
    | _, _ => none

/-- The number that digits are, possibly with letters for a multiple. -/
def sizeOf? (s : String) : Option Nat :=
  let digits := s.toList.takeWhile Char.isDigit
  if digits.isEmpty then none
  else (multipleOf? (s.toList.drop digits.length)).map fun n =>
    n * ((String.ofList digits).toNat?.getD 0)

end InfoFlow.Sandbox
