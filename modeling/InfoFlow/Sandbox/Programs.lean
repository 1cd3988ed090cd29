import InfoFlow.Sandbox.Awk.Run
import InfoFlow.Sandbox.Editor.Run
import InfoFlow.Sandbox.Shell.Run
import InfoFlow.Sandbox.Utility.Blocks
import InfoFlow.Sandbox.Utility.Difference
import InfoFlow.Sandbox.Utility.Dump
import InfoFlow.Sandbox.Utility.Encoding
import InfoFlow.Sandbox.Utility.Finding
import InfoFlow.Sandbox.Utility.Join
import InfoFlow.Sandbox.Utility.Letters
import InfoFlow.Sandbox.Utility.Lines
import InfoFlow.Sandbox.Utility.Listing
import InfoFlow.Sandbox.Utility.Numbering
import InfoFlow.Sandbox.Utility.Order
import InfoFlow.Sandbox.Utility.Portions
import InfoFlow.Sandbox.Utility.Search
import InfoFlow.Sandbox.Utility.Starting
import InfoFlow.Sandbox.Utility.Sums

namespace InfoFlow.Sandbox

/-- The programs that start no others. -/
def utilities : List (String × Program) :=
  lineUtilities ++ portionUtilities ++ numberingUtilities ++ orderUtilities ++ searchUtilities ++
    fileUtilities ++ contentsUtilities ++ wordUtilities ++ comparisonUtilities ++ dumpUtilities ++
    joinUtilities ++ blockUtilities ++ sumUtilities ++
    encodingUtilities ++ [("tr", Letters.change), ("sed", Editor.program)]

/-- The programs, each under its name. -/
def table : List (String × (Launch → Program)) :=
  [("sh", Shell.program), ("dash", Shell.program), ("awk", Awk.program),
    ("mawk", Awk.program)] ++ startingUtilities ++ listingUtilities ++
    findingUtilities ++     utilities.map fun (name, program) => (name, fun _ => program)

/-- How deep programs may start each other. -/
def launchFuel : Nat := 100

def launcher : Launch := launch (table.lookup ·) launchFuel

/-- The directories of programs. -/
def programDirectories : List Location :=
  [["usr", "bin"], ["bin"]]

/-- A machine with nothing but a working directory and what every machine has. -/
def blankTree (workDir : Location) : Tree :=
  let programs := programDirectories.flatMap fun place =>
    table.map fun (name, _) => (place ++ [name], Node.program name)
  let directories := [workDir, ["tmp"], ["dev"], ["usr"], ["usr", "bin"], ["bin"], ["etc"],
    ["root"]]
  ⟨directories.map (·, Node.directory Node.directoryMode) ++
    (["dev", "null"], Node.sink) :: programs⟩

/-- The environment of the programs. -/
def environment : Environment :=
  [("HOME", "/root"), ("PATH", "/usr/local/bin:/usr/bin:/bin")]

/-- What a program does to the files, and how it ends. -/
def programs (workDir : Location) : Tree.Programs := fun invocation tree => do
  if (invocation.program :: invocation.args).any fun text => text.toList.contains '\x00' then
    throw .zeroInArgument
  let machine : Machine := {
    tree, workDir, environment
    channels := #[.nothing, .buffer .empty, .buffer .empty]
    streams := [(0, 0), (1, 1), (2, 2)] }
  let words := (invocation.program :: invocation.args).map Raw.ofText
  match (launcher words).run machine with
  | (.ok (.ok status), machine) => return (⟨status, machine.bufferAt 2⟩, machine.tree)
  | (.ok (.error fault), _) => throw fault
  | (.error signal, machine) => return (⟨.signal signal, machine.bufferAt 2⟩, machine.tree)

/-- A machine with the files of a tree and the programs of the sandbox. -/
def host (workDir : Location) : Host (StateM Tree) :=
  Tree.host workDir (programs workDir)

end InfoFlow.Sandbox
