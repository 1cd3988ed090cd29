import InfoFlow.Config.Toolchain
import InfoFlow.Host.Basic
import InfoFlow.Identifier
import InfoFlow.Text.Utf8

namespace InfoFlow

/-- Why a module has no facts. -/
inductive CompileFault where
  | invalidModule (name : String)
  | missingInputDir (path : String)
  | missingOutputDir (path : String)
  | missingSource (path : String)
  | notStarted (program : String) (fault : IoFault)
  | failed (status : ExitStatus) (stderr : String)
  | missingOutput (path : String)
deriving DecidableEq, Repr

def CompileFault.message : CompileFault → String
  | .invalidModule name => "invalid module name " ++ Text.quoted name
  | .missingInputDir path => "input directory " ++ path ++ " does not exist"
  | .missingOutputDir path => "output directory " ++ path ++ " does not exist"
  | .missingSource path => "authorization logic source " ++ path ++ " does not exist"
  | .notStarted program fault => "failed to spawn `" ++ program ++ "`: " ++ fault.message
  | .failed status stderr =>
    "authorization logic compiler failed (" ++ status.text ++ "): " ++ stderr
  | .missingOutput path => "compiler produced no output at " ++ path

/-- A compiler of authorization logic: the program, and how it is called. Given the name of a
    module, the directory of its source and a directory for its facts, it is to write the facts and
    to succeed. Whatever else it does counts as a failure, and a failure has no facts. -/
structure Compiler where
  program : String
  leadingArgs : List String := []
  argStyle : ArgStyle := .flags
deriving DecidableEq, Repr

namespace Compiler

/-- The compiler of the settings. -/
def ofToolchain (toolchain : Toolchain) : Compiler :=
  ⟨toolchain.compiler, toolchain.leadingArgs, toolchain.argStyle⟩

/-- How the compiler is called for a module. -/
def invocation (c : Compiler) (name inputDir outputDir : String) : Invocation where
  program := c.program
  args := c.leadingArgs ++
    match c.argStyle with
    | .flags => ["--module", name, "--input-dir", inputDir, "--output-dir", outputDir]
    | .positional => [name, inputDir, outputDir]

/-- The file that holds the source of a module. -/
def sourceFile (name inputDir : String) : String :=
  Path.join inputDir (name ++ ".auth")

/-- The file that is to hold the facts of a module. -/
def factFile (name outputDir : String) : String :=
  Path.join outputDir (name ++ ".dl")

variable {m : Type → Type} [Monad m]

/-- Compiles a module, and gives the file that holds its facts. -/
def compile (host : Host m) (c : Compiler) (name inputDir outputDir : String) :
    m (Except CompileFault String) := do
  if Identifier.defect? name ≠ none then return .error (.invalidModule name)
  if !(← host.isDir inputDir) then return .error (.missingInputDir inputDir)
  let source := sourceFile name inputDir
  if !(← host.isFile source) then return .error (.missingSource source)
  if !(← host.isDir outputDir) then return .error (.missingOutputDir outputDir)
  match ← host.run (c.invocation name inputDir outputDir) with
  | .error fault => return .error (.notStarted c.program fault)
  | .ok finished =>
    if !finished.status.success then
      return .error (.failed finished.status (Text.trim (Text.Utf8.lossy finished.stderr)))
    let produced := factFile name outputDir
    if !(← host.isFile produced) then return .error (.missingOutput produced)
    return .ok produced

/-- Whether a module was compiled, as an exit code. -/
def generate (host : Host m) (c : Compiler) (name inputDir outputDir : String) : m Nat := do
  return if (← c.compile host name inputDir outputDir).isOk then 0 else 1

/-- The lines of a file of facts. -/
def readFactLines (host : Host m) (path : String) : m (Except IoFault (List String)) := do
  return (← host.readText path).map Text.lines

end Compiler

end InfoFlow
