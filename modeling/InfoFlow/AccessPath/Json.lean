import InfoFlow.AccessPath.Basic
import InfoFlow.Json.Buffered
import InfoFlow.Json.Reader

namespace InfoFlow

open Json (Choice Field Form Refusal Source Spot Tagging Value)

def Selector.toJson (selector : Selector) : Value :=
  .object [("field", .text selector.field)]

/-- A selector is a choice with a single name, so that other kinds can be told apart from it. -/
def Selector.choice : Choice Selector where
  names := ["field"]
  alone _ := .error .wrongType
  withValue _ value := Selector.mk <$> value.readString

def Selector.read : Spot → Except Refusal Selector :=
  Spot.readChoice choice

def Chain.toJson (chain : Chain) : Value :=
  .array (chain.map Selector.toJson)

def Chain.read : Spot → Except Refusal Chain :=
  Spot.readList Selector.read

def ChainSet.toJson (s : ChainSet) : Value :=
  .array (s.chains.map Chain.toJson)

/-- A set may be written in any order and with repetitions. -/
def ChainSet.read (spot : Spot) : Except Refusal ChainSet :=
  ChainSet.ofList <$> Spot.readList Chain.read spot

namespace Root

def toJson : Root → Value
  | .connection recipe particle handle =>
    .object [("kind", .text "handle_connection"), ("recipe", .text recipe),
      ("particle", .text particle), ("handle", .text handle)]
  | .specification particle handle =>
    .object [("kind", .text "handle_connection_spec"), ("particle_spec", .text particle),
      ("handle_spec", .text handle)]

def tagging : Tagging :=
  ⟨"kind", ["handle_connection", "handle_connection_spec"]⟩

/-- The names of a handle connection. -/
def connectionForm : Form Value (String × String × String) where
  blank := ("", "", "")
  fields := [
    .needed "recipe" Source.string fun recipe names => (recipe, names.2),
    .needed "particle" Source.string fun particle names => (names.1, particle, names.2.2),
    .needed "handle" Source.string fun handle names => (names.1, names.2.1, handle)]

/-- The names of a handle of a specification. -/
def specificationForm : Form Value (String × String) where
  blank := ("", "")
  fields := [
    .needed "particle_spec" Source.string fun particle names => (particle, names.2),
    .needed "handle_spec" Source.string fun handle names => (names.1, handle)]

/-- A root from its tag and the rest of its value. -/
def ofTagged (tag : String) (content : Value) : Except Refusal Root :=
  if tag = "handle_connection" then do
    let (recipe, particle, handle) ← Source.record connectionForm content
    return .connection recipe particle handle
  else do
    let (particle, handle) ← Source.record specificationForm content
    return .specification particle handle

def read (spot : Spot) : Except Refusal Root := do
  let (tag, content) ← Source.tagged tagging spot
  ofTagged tag content

end Root

namespace AccessPath

def toJson (path : AccessPath) : Value :=
  .object [("root", path.root.toJson), ("selectors", path.selectors.toJson)]

def form : Form Spot AccessPath where
  blank := ⟨.specification "" "", []⟩
  fields := [
    .needed "root" Root.read fun root path => { path with root },
    .extra "selectors" Chain.read fun selectors path => { path with selectors }]

def read : Spot → Except Refusal AccessPath :=
  Source.record form

end AccessPath

end InfoFlow
