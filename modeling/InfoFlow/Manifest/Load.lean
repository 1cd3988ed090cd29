import InfoFlow.Host.Basic
import InfoFlow.Manifest.Json

namespace InfoFlow

/-- Why there is no manifest in a file. -/
inductive LoadFault where
  | io (path : String) (fault : IoFault)
  | json (refusal : Json.Refusal)
deriving DecidableEq, Repr

/-- The sentences that report a fault, from the outermost to its cause. What is wrong with a JSON
    text is told apart by its refusal and has no sentence. -/
def LoadFault.messages : LoadFault → List String
  | .io path fault =>
    ["failed to read manifest " ++ path ++ ": " ++ fault.message, fault.message]
  | .json _ => ["malformed manifest"]

/-- Reads the manifest in a file. -/
def Manifest.load {m : Type → Type} [Monad m] (host : Host m) (path : String) :
    m (Except LoadFault Manifest) := do
  match ← host.readText path with
  | .error fault => return .error (.io path fault)
  | .ok text => return (Manifest.ofText text).mapError .json

end InfoFlow
