import InfoFlow.Text.CharClass
import InfoFlow.Text.Quoted

namespace InfoFlow

/-- Why a name is refused. Names are put between quotes in rules and joined by dots in access paths
    without being escaped, so each defect is one that keeps a name from being read back from there.
    -/
inductive Identifier.Defect where
  | empty
  | quoteOrBackslash
  | dot
  | blankOrControl
deriving DecidableEq, Repr

namespace Identifier

/-- What is wrong with a single character of a name, if anything. -/
def defectOf (c : Char) : Option Defect :=
  if c == '"' || c == '\\' then some .quoteOrBackslash
  else if c == '.' then some .dot
  else if Text.isBlank c || Text.isControl c then some .blankOrControl
  else none

/-- The first defect of a name: that it is empty, else the defect of its first bad character. -/
def defect? (name : String) : Option Defect :=
  if name.isEmpty then some .empty else name.toList.findSome? defectOf

/-- A name is valid when it is not empty and none of its characters has a defect. -/
def Valid (name : String) : Prop :=
  defect? name = none

instance (name : String) : Decidable (Valid name) :=
  inferInstanceAs (Decidable (_ = _))

/-- The sentence that explains a defect. -/
def Defect.reason : Defect → String
  | .empty => "identifier is empty"
  | .quoteOrBackslash => "quotes and backslashes are not escaped"
  | .dot => "`.` separates access path components"
  | .blankOrControl => "whitespace and control characters are not allowed"

end Identifier

end InfoFlow
