import InfoFlow.Sandbox.Decimal
import InfoFlow.Sandbox.Machine

namespace InfoFlow.Sandbox.Condition

/-- The conditions on one word. -/
def unary : List String :=
  ["-n", "-z", "-e", "-f", "-d", "-r", "-w", "-x", "-s", "-L", "-h", "-p", "-S", "-b", "-c", "-g",
    "-u", "-k", "-t", "-O", "-G"]

/-- The conditions on two words. -/
def binary : List String :=
  ["=", "!=", "<", ">", "-eq", "-ne", "-lt", "-le", "-gt", "-ge", "-nt", "-ot", "-ef"]

/-- The words that combine conditions. They bind in the order not, and, or. -/
def joining : List String :=
  ["!", "-a", "-o", "(", ")"]

/-- What a word is at its place. -/
inductive Role where
  | none
  | operand
  | unary
  | binary
  | joining
deriving DecidableEq

/-- Whether a word in front of others is an operand though it could be an operator. -/
def standsAlone (rest : List String) : Bool :=
  match rest with
  | [] => true
  | [_] => false
  | s :: t :: _ => binary.contains s && t != ")"

def role : List String → Role
  | [] => .none
  | s :: rest =>
    if unary.contains s then (if standsAlone rest then .operand else .unary)
    else if binary.contains s then .binary
    else if joining.contains s then (if s == "(" && rest.isEmpty then .operand else .joining)
    else .operand

/-- What a condition on a file says of what is there. -/
def ofNode (test : String) : Node → Bool
  | .file document mode =>
    ["-e", "-f", "-r", "-w", "-O", "-G"].contains test || (test == "-x" && Node.runs mode) ||
      (test == "-s" && document.size > 0) || ofMode mode
  | .directory mode =>
    ["-e", "-d", "-r", "-w", "-x", "-s", "-O", "-G"].contains test || ofMode mode
  | .sink => ["-e", "-c", "-r", "-w", "-O", "-G"].contains test
  | .program _ => ["-e", "-f", "-r", "-w", "-x", "-s", "-O", "-G"].contains test
  | .link _ => test == "-L" || test == "-h"
where
  /-- What the bits beyond the nine of a mode say. -/
  ofMode (mode : Nat) : Bool :=
    ([("-u", 0o4000), ("-g", 0o2000), ("-k", 0o1000)].lookup test).any fun bit =>
      mode.land bit != 0

def holdsOf (machine : Machine) (test s : String) : Bool :=
  if test == "-n" then !s.isEmpty
  else if test == "-z" then s.isEmpty
  else
    let follows := test != "-L" && test != "-h"
    match machine.tree.look follows machine.workDir (Raw.toText s) with
    | .ok (_, node) => ofNode test node
    | .error _ => false

/-- The whole number that a word is, possibly between blanks. -/
def integer? (s : String) : Option Int :=
  let text := s.toList.dropWhile Decimal.isSpace
  let (isNegative, digits) := Decimal.signAt text
  let taken := digits.takeWhile Char.isDigit
  if taken.isEmpty || !(digits.drop taken.length).all Decimal.isSpace then none
  else
    let value : Int := Decimal.digitsValue 10 taken
    some (if isNegative then -value else value)

/-- The whole number of 64 bits that a word is, or a complaint. -/
def number (s : String) : Except String Int :=
  let limit : Int := (Nat.pow 2 63 : Nat)
  match (integer? s).filter fun n => -limit ≤ n && n < limit with
  | some n => .ok n
  | none => .error ("Illegal number: " ++ s)

/-- What a condition says of two numbers. -/
def holdsOfNumbers? (test : String) (a b : Int) : Option Bool :=
  match test with
  | "-eq" => some (a == b)
  | "-ne" => some (a != b)
  | "-lt" => some (decide (a < b))
  | "-le" => some (decide (a ≤ b))
  | "-gt" => some (decide (b < a))
  | "-ge" => some (decide (b ≤ a))
  | _ => none

def holdsBetween (machine : Machine) (test a b : String) : Except String Bool := do
  match test with
  | "=" => return a == b
  | "!=" => return a != b
  | "<" => return (compare a b).isLT
  | ">" => return (compare a b).isGT
  | "-ef" =>
    match machine.tree.find machine.workDir (Raw.toText a),
      machine.tree.find machine.workDir (Raw.toText b) with
    | .ok (p, _), .ok (q, _) => return p == q
    | _, _ => return false
  | "-nt" | "-ot" =>
    -- All files are of the same age.
    return false
  | test => return (holdsOfNumbers? test (← number a) (← number b)).getD false

mutual

/-- Conditions joined by or. -/
def either (machine : Machine) : Nat → List String → Except String (Bool × List String)
  | 0, words => .ok (false, words)
  | fuel + 1, words => do
    let (first, words) ← both machine fuel words
    match words.drop 1 with
    | "-o" :: rest =>
      let (second, words) ← either machine fuel rest
      return (first || second, words)
    | _ => return (first, words)

/-- Conditions joined by and. -/
def both (machine : Machine) : Nat → List String → Except String (Bool × List String)
  | 0, words => .ok (false, words)
  | fuel + 1, words => do
    let (first, words) ← negated machine fuel words
    match words.drop 1 with
    | "-a" :: rest =>
      let (second, words) ← both machine fuel rest
      return (first && second, words)
    | _ => return (first, words)

/-- A condition with the words that negate it. -/
def negated (machine : Machine) : Nat → List String → Except String (Bool × List String)
  | 0, words => .ok (false, words)
  | fuel + 1, words => do
    match words with
    | ["!"] => return (true, words)
    | "!" :: rest =>
      let (holds, words) ← negated machine fuel rest
      return (!holds, words)
    | words => primary machine fuel words

/-- A condition by itself. -/
def primary (machine : Machine) : Nat → List String → Except String (Bool × List String)
  | 0, words => .ok (false, words)
  | fuel + 1, words => do
    match role words, words with
    | .joining, "(" :: ")" :: rest => return (false, ")" :: rest)
    | .joining, "(" :: rest =>
      let (holds, words) ← either machine fuel rest
      match words.drop 1 with
      | ")" :: rest => return (holds, ")" :: rest)
      | _ => throw "closing paren expected"
    | .unary, "-t" :: s :: rest => do
      let _ ← number s
      return (false, s :: rest)
    | .unary, test :: s :: rest => return (holdsOf machine test s, s :: rest)
    | .unary, [test] => throw (test ++ ": argument expected")
    | _, a :: rest =>
      match role rest, rest with
      | .binary, test :: b :: rest => return (← holdsBetween machine test a b, b :: rest)
      | .binary, test :: _ => throw (test ++ ": argument expected")
      | _, _ => return (!a.isEmpty, a :: rest)
    | _, [] => return (false, [])

end

/-- The answer to words of which none may be left over. -/
def complete (machine : Machine) (words : List String) : Except String Bool := do
  let (holds, words) ← either machine (4 * words.length + 4) words
  match words with
  | s :: _ :: _ => throw (if s.isEmpty then "unexpected operator" else s ++ ": unexpected operator")
  | _ => return holds

/-- Whether the condition that some words are holds. Three words with an operator in the middle are
    a comparison, whatever the other words are. -/
def evaluate (machine : Machine) : List String → Except String Bool
  | [] => .ok false
  | [a, test, b] =>
    if binary.contains test then holdsBetween machine test a b
    else if a == "(" && b == ")" then complete machine [test]
    else if a == "!" then (evaluate machine [test, b]).map (!·)
    else complete machine [a, test, b]
  | [a, b, c, d] =>
    if a == "(" && d == ")" then complete machine [b, c]
    else if a == "!" then (evaluate machine [b, c, d]).map (!·)
    else complete machine [a, b, c, d]
  | words => complete machine words

end InfoFlow.Sandbox.Condition
