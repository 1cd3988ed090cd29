import InfoFlow.Json.Buffered
import InfoFlow.Json.Reader
import InfoFlow.Predicate.Basic

namespace InfoFlow.Predicate

open Json (Field Form Refusal Source Spot Tagging Value)

def toJson : Predicate → Value
  | .tag name => .object [("op", .text "tag_presence"), ("tag", .text name)]
  | .and left right =>
    .object [("op", .text "and"), ("lhs", left.toJson), ("rhs", right.toJson)]
  | .or left right =>
    .object [("op", .text "or"), ("lhs", left.toJson), ("rhs", right.toJson)]
  | .not operand => .object [("op", .text "not"), ("operand", operand.toJson)]

/-- A predicate is tagged with its operation, so all of it is read before any operand is looked at.
    -/
def tagging : Tagging :=
  ⟨"op", ["tag_presence", "and", "or", "not"]⟩

/-- The tag of an atomic predicate. -/
def tagForm : Form Value String where
  blank := ""
  fields := [.needed "tag" Source.string fun tag _ => tag]

/-- The operands of a conjunction or disjunction. -/
def operandsForm (read : Value → Except Refusal Predicate) :
    Form Value (Predicate × Predicate) where
  blank := (.tag "", .tag "")
  fields := [
    .needed "lhs" read fun left operands => (left, operands.2),
    .needed "rhs" read fun right operands => (operands.1, right)]

/-- The operand of a negation. -/
def operandForm (read : Value → Except Refusal Predicate) : Form Value Predicate where
  blank := .tag ""
  fields := [.needed "operand" read fun operand _ => operand]

/-- A predicate from its operation and the rest of its value, when `read` reads operands. -/
def ofTagged (read : Value → Except Refusal Predicate) (op : String) (content : Value) :
    Except Refusal Predicate :=
  if op = "tag_presence" then .tag <$> Source.record tagForm content
  else if op = "and" then do
    let (left, right) ← Source.record (operandsForm read) content
    return .and left right
  else if op = "or" then do
    let (left, right) ← Source.record (operandsForm read) content
    return .or left right
  else .not <$> Source.record (operandForm read) content

/-- A predicate from a value that is nested at most so deep. -/
def ofValue : Nat → Value → Except Refusal Predicate
  | 0, _ => .error (.stop .malformed)
  | depth + 1, value => do
    let (op, content) ← Source.tagged tagging value
    ofTagged (ofValue depth) op content

/-- Reads a predicate. No value that is read is nested deeper than the limit. -/
def read (spot : Spot) : Except Refusal Predicate := do
  let (op, content) ← Source.tagged tagging spot
  ofTagged (ofValue Json.nestingLimit) op content

end InfoFlow.Predicate
