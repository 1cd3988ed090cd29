import InfoFlow.Program.Basic

namespace InfoFlow

/-- Two different access paths that share a term. Rules would take one for the other. -/
structure Collision where
  term : String
  first : AccessPath
  second : AccessPath
deriving DecidableEq, Repr

namespace Collision

/-- The first path of a list whose term is that of a different path before it. The first path
    seen with each term is remembered. -/
def search (seen : List (String × AccessPath)) : List AccessPath → Option Collision
  | [] => none
  | path :: rest =>
    match seen.lookup path.term with
    | none => search ((path.term, path) :: seen) rest
    | some first =>
      if first = path then search seen rest else some ⟨path.term, first, path⟩

end Collision

/-- The first collision among the paths of a program, in the order in which they are written. -/
def Program.collision? (program : Program) : Option Collision :=
  Collision.search [] program.paths

/-- A record in messages: its name, and its fields with their values. -/
def recordText (name : String) (fields : List (String × String)) : String :=
  name ++ " \x7b " ++ ", ".intercalate (fields.map fun (field, value) => field ++ ": " ++ value) ++
    " \x7d"

/-- A root in messages, with everything that tells it from other roots. -/
def Root.detail : Root → String
  | .connection recipe particle handle =>
    "HandleConnection(" ++
      recordText "HandleConnectionAccessPathRoot"
        [("recipe", Text.quoted recipe), ("particle", Text.quoted particle),
          ("handle", Text.quoted handle)] ++ ")"
  | .specification particle handle =>
    "HandleConnectionSpec(" ++
      recordText "HandleConnectionSpecAccessPathRoot"
        [("particle_spec", Text.quoted particle), ("handle_spec", Text.quoted handle)] ++ ")"

def Selector.detail (selector : Selector) : String :=
  "Field(FieldSelector(" ++ Text.quoted selector.field ++ "))"

/-- A path in messages, with everything that tells it from other paths. -/
def AccessPath.detail (path : AccessPath) : String :=
  recordText "AccessPath"
    [("root", path.root.detail),
      ("selectors",
        "AccessPathSelectors([" ++ ", ".intercalate (path.selectors.map Selector.detail) ++ "])")]

/-- The sentence that reports a collision. -/
def Collision.message (c : Collision) : String :=
  "access paths " ++ c.first.detail ++ " and " ++ c.second.detail ++ " both render as \"" ++
    c.term ++ "\""

end InfoFlow
