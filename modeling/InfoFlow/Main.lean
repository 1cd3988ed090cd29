import InfoFlow.Command.Run

namespace InfoFlow.Main

/-- The number that the system gives a fault. -/
def codeOf? : IO.Error → Option UInt32
  | .alreadyExists _ code _ | .interrupted _ code _ | .noFileOrDirectory _ code _
  | .invalidArgument _ code _ | .permissionDenied _ code _ | .resourceExhausted _ code _
  | .inappropriateType _ code _ | .noSuchThing _ code _ => some code
  | .otherError code _ | .resourceBusy code _ | .resourceVanished code _
  | .unsupportedOperation code _ | .hardwareFault code _ | .unsatisfiedConstraints code _
  | .illegalOperation code _ | .protocolError code _ | .timeExpired code _ => some code
  | .unexpectedEof | .userError _ => none

/-- The size of a number that may have been negated. -/
def magnitude (code : UInt32) : Nat :=
  min code.toNat (-code).toNat

/-- The number of an input or output error that the system does not tell more about. -/
def unknownError : Nat := 5

/-- The number of an operation that the machine does not have. -/
def noSuchOperation : Nat := 38

/-- What happens at a path of the machine. -/
def attempt {α : Type} (path : String) (act : IO α) : IO (Except IoFault α) := do
  if path.toList.contains '\x00' then return .error .zeroInPath
  try return .ok (← act)
  catch error => return .error (.ofCode (((codeOf? error).map magnitude).getD unknownError))

/-- Whether something at a path is of a kind. -/
def isKind (kind : IO.FS.FileType) (path : String) : IO Bool := do
  let found ← attempt path do return (← (← IO.FS.realPath path).metadata).type
  match found with
  | .ok found => return found == kind
  | .error _ => return false

/-- The files of the machine that the command line is started on. Programs are out of reach: every
    attempt to start one fails as an operation that the machine does not have. -/
def machine : Host IO where
  readFile path := attempt path (IO.FS.readBinFile path)
  writeFile path document := attempt path (IO.FS.writeBinFile path document)
  makeDir path := attempt path (IO.FS.createDir path)
  isDir := isKind .dir
  isFile := isKind .file
  run _ := return .error (.system noSuchOperation)

/-- The lines that report an error and its causes. -/
def report : List String → String
  | [] => ""
  | [message] => "Error: " ++ message ++ "\n"
  | message :: causes =>
    "Error: " ++ message ++ "\n\nCaused by:\n" ++
      String.join (causes.map fun cause => "    " ++ cause ++ "\n")

end InfoFlow.Main

def main (args : List String) : IO UInt32 := do
  let defaultDirectory := InfoFlow.Command.defaultConfig (← IO.getEnv "XDG_CONFIG_HOME")
    (← IO.getEnv "HOME")
  let outcome ← InfoFlow.Command.run InfoFlow.Main.machine defaultDirectory args
  (← IO.getStdout).putStr outcome.output
  (← IO.getStderr).putStr
    (if outcome.code = 2 then String.join outcome.errors
      else InfoFlow.Main.report outcome.errors)
  return UInt32.ofNat outcome.code
