import InfoFlow.Command.Line
import InfoFlow.Compiler
import InfoFlow.Config.Store
import InfoFlow.Manifest.Expansion
import InfoFlow.Manifest.Load

namespace InfoFlow.Command

/-- How a command ends: its exit code, what it writes, and the sentences that report its error,
    from the outermost to the cause. -/
structure Outcome where
  code : Nat := 0
  output : String := ""
  errors : List String := []
deriving DecidableEq, Repr

def version : String := "flowtag 0.1.0"

def usage : String :=
  "Usage: flowtag [--config <DIR>] [-v] emit <MANIFEST> [-o <FILE>] [--namespace <NAMESPACE>] " ++
    "[--compiler <PATH>]\n" ++
  "       flowtag [--config <DIR>] [-v] selectors <MANIFEST> <SCHEMA>\n" ++
  "       flowtag [--config <DIR>] [-v] authz --module <MODULE> --input-dir <DIR> " ++
    "--output-dir <DIR> [--compiler <PATH>]\n"

/-- The directory of the settings where none is asked for: below the directory of all settings if
    there is one, or else below the home of the user. -/
def defaultConfig (settings home : Option String) : Option String :=
  match settings.filter Path.isAbsolute, home.filter (!·.isEmpty) with
  | some directory, _ => some (Path.join directory "flowtag")
  | none, some home => some (Path.join (Path.join home ".config") "flowtag")
  | none, none => none

variable {m : Type → Type} [Monad m]

/-- What may fail, with the sentences that report why. -/
abbrev Attempt (m : Type → Type) := ExceptT (List String) m

/-- Reports failures by their sentences. -/
def reporting {ε α : Type} (messages : ε → List String) (attempt : m (Except ε α)) :
    Attempt m α :=
  ExceptT.mk do return (← attempt).mapError messages

/-- The toolchain of a directory, or the default one if there is no directory. -/
def loadToolchain (host : Host m) (directory : Option String) : Attempt m Toolchain :=
  match directory with
  | none => return {}
  | some directory =>
    reporting (fun fault =>
        ("failed to load toolchain config from " ++ directory) :: fault.messages)
      (Store.inDirectory host directory).toolchain

/-- The compiler that is asked for, or that of the settings. A compiler that is asked for is given
    the arguments in the style of the settings. -/
def compilerFor (toolchain : Toolchain) : Option String → Compiler
  | some program => { program, argStyle := toolchain.argStyle }
  | none => .ofToolchain toolchain

/-- The program of a manifest, with what the settings include in front, and with the facts of its
    authorization logic, if they could be compiled. -/
def programOf (host : Host m) (toolchain : Toolchain) (path : String)
    (compiler : Option String) : Attempt m Program := do
  let manifest ← reporting LoadFault.messages (Manifest.load host path)
  let manifest := { manifest with includes := toolchain.includes ++ manifest.includes }
  let program ← reporting (fun fault => ["failed to resolve " ++ path, fault.message])
    (pure manifest.program)
  match manifest.authorizationLogic with
  | none => return program
  | some decl =>
    let base := (Path.parent? path).getD ""
    let compiled ← ExceptT.lift ((compilerFor toolchain compiler).compile host decl.name
      (Path.join base decl.inputDir) (Path.join base decl.outputDir))
    return program.addCompiled compiled.toOption

/-- Carries out a task, and gives what is written and the exit code. -/
def perform (host : Host m) (toolchain : Toolchain) : Task → Attempt m (String × Nat)
  | .emit manifest output scope compiler => do
    let program ← programOf host toolchain manifest compiler
    let emission ← reporting (fun fault => [fault.message]) (pure (Emission.start scope))
    let text := program.render emission
    match output with
    | none => return (text, 0)
    | some path =>
      reporting (fun fault => ["failed to write " ++ path, fault.message])
        (host.writeFile path text.toUTF8)
      return ("", 0)
  | .selectors path schema => do
    let manifest ← reporting LoadFault.messages (Manifest.load host path)
    let chains ← reporting
      (fun fault => ["failed to resolve schema `" ++ schema ++ "`", fault.message])
      (pure (manifest.selectorsOf schema))
    return (String.join (chains.chains.map fun chain => chain.text ++ "\n"), 0)
  | .authorize name inputDir outputDir compiler => do
    let code ← ExceptT.lift
      ((compilerFor toolchain compiler).generate host name inputDir outputDir)
    return ("", code)

/-- Carries out what arguments ask for. -/
def run (host : Host m) (defaultDirectory : Option String) (args : List String) : m Outcome := do
  match parse args with
  | .error .help => return { output := usage }
  | .error .version => return { output := version ++ "\n" }
  | .error .misuse => return { code := 2, errors := [usage] }
  | .ok request =>
    let attempt : Attempt m (String × Nat) := do
      let toolchain ← loadToolchain host (request.config <|> defaultDirectory)
      perform host toolchain request.task
    match ← attempt.run with
    | .ok (output, code) => return { code, output }
    | .error errors => return { code := 1, errors }

end InfoFlow.Command
