import InfoFlow.Fact.Basic
import InfoFlow.TagCheck.Basic

namespace InfoFlow

/-- The parts of a program, each kind in the order in which it was added. -/
structure Program where
  /-- Paths of files that the text includes. -/
  includes : List String := []
  claims : List TagClaim := []
  ownership : List Ownership := []
  edges : List Edge := []
  checks : List TagCheck := []
deriving DecidableEq, Repr

namespace Program

/-- The access paths that the parts are about, in the order in which they are written. -/
def paths (program : Program) : List AccessPath :=
  program.claims.map TagClaim.path ++ program.ownership.map Ownership.path ++
    program.edges.flatMap (fun edge => [edge.source, edge.target]) ++
    program.checks.map TagCheck.path

/-- The program with one file more to include. -/
def addInclude (program : Program) (file : String) : Program :=
  { program with includes := program.includes ++ [file] }

def addClaim (program : Program) (claim : TagClaim) : Program :=
  { program with claims := program.claims ++ [claim] }

def addOwnership (program : Program) (ownership : Ownership) : Program :=
  { program with ownership := program.ownership ++ [ownership] }

def addEdge (program : Program) (edge : Edge) : Program :=
  { program with edges := program.edges ++ [edge] }

def addCheck (program : Program) (check : TagCheck) : Program :=
  { program with checks := program.checks ++ [check] }

/-- The program with the facts that a module was compiled to, if it was. -/
def addCompiled (program : Program) (compiled : Option String) : Program :=
  match compiled with
  | none => program
  | some file => program.addInclude file

/-- A section of the text, or nothing if it has no lines. -/
def titled (title : String) (lines : List String) : String :=
  if lines.isEmpty then "" else "// " ++ title ++ "\n" ++ String.join lines ++ "\n"

/-- The lines of the checks, in order, and the emission after their names. -/
def checkLines : List TagCheck → Emission → List String × Emission
  | [], e => ([], e)
  | check :: rest, e =>
    let (line, e) := check.emit e
    let (lines, e) := checkLines rest e
    ((line ++ "\n") :: lines, e)

/-- The lines that include files, with a blank line after them if there are any. -/
def includeBlock (files : List String) : String :=
  if files.isEmpty then ""
  else String.join (files.map fun file => "#include \"" ++ file ++ "\"\n") ++ "\n"

/-- The declaration and the rule of a helper relation. -/
def helperLines (helper : HelperRule) : String :=
  ".decl " ++ helper.relation ++ "(owner: symbol)\n" ++ helper.rule ++ "\n"

/-- The text of a program whose checks are named by the given emission. It has a section for each
    kind of part, in a fixed order; sections without parts are left out. -/
def render (program : Program) (e : Emission) : String :=
  let (checks, e) := checkLines program.checks e
  includeBlock program.includes ++
    titled "Claims" (program.claims.map (·.atom.factLine)) ++
    titled "Ownership" (program.ownership.map (·.atom.factLine)) ++
    titled "Edges" (program.edges.map (·.atom.factLine)) ++
    titled "Checks" checks ++
    titled "Helper relations" (e.helperRules.map helperLines)

end Program

end InfoFlow
