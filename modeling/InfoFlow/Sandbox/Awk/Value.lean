import InfoFlow.Sandbox.Format

namespace InfoFlow.Awk

open Sandbox

inductive Value where
  | none
  | number (x : Float)
  | text (s : String)
  /-- A text that was read. -/
  | seen (s : String)

namespace Value

/-- The number that hexadecimal digits at the front of a text stand for. -/
def hexAt? (text : List Char) : Option (Float × List Char) :=
  let (isNegative, digits) := Decimal.signAt (text.dropWhile Decimal.isSpace)
  match digits with
  | '0' :: x :: rest =>
    let taken := rest.takeWhile fun c => (Decimal.digitValue? 16 c).isSome
    if (x == 'x' || x == 'X') && !taken.isEmpty then
      let value := Float.ofNat (Decimal.digitsValue 16 taken)
      some (if isNegative then -value else value, rest.drop taken.length)
    else Option.none
  | _ => Option.none

/-- The number at the front of a text, and what follows it. -/
def numberAt? (text : List Char) : Option (Float × List Char) :=
  hexAt? text <|> Decimal.numberAt? text

def textNumber (s : String) : Float :=
  ((numberAt? s.toList).map Prod.fst).getD 0

/-- Whether a text is a number and nothing else. -/
def looksNumeric (s : String) : Bool :=
  match Decimal.numberAt? s.toList with
  | some (_, rest) => rest.all Decimal.isSpace
  | Option.none => false

def toNumber : Value → Float
  | .none => 0
  | .number x => x
  | .text s | .seen s => textNumber s

def isNumeric : Value → Bool
  | .none | .number _ => true
  | .text _ => false
  | .seen s => looksNumeric s

/-- The whole number that a double is, cut off towards zero. -/
def wholePart? (x : Float) : Option Int :=
  (Decimal.parts? x).map fun (isNegative, m, e) =>
    let n : Int := if e ≥ 0 then m * Nat.pow 2 e.toNat else m / Nat.pow 2 (-e).toNat
    if isNegative then -n else n

/-- Whether a double is a whole number that is not too large to be written as one. -/
def wholeNumber? (x : Float) : Option Int :=
  match Decimal.parts? x with
  | some (_, m, e) =>
    if e ≥ 12 then Option.none
    else if e ≥ 0 || m % Nat.pow 2 (-e).toNat == 0 then wholePart? x
    else Option.none
  | Option.none => Option.none

/-- A double as a text, by a format for those that are not whole numbers. -/
def numberText (format : String) (x : Float) : String :=
  match wholeNumber? x with
  | some n => toString n
  | Option.none =>
    String.join ((Format.ofText format.toList).map fun
      | .text s => String.ofList s
      | .directive d => String.ofList (d.writeFloat x)
      | .unfinished s => String.ofList s)

def toText (format : String) : Value → String
  | .none => ""
  | .number x => numberText format x
  | .text s | .seen s => s

def isTrue : Value → Bool
  | .none => false
  | .number x => x != 0
  | .text s => !s.isEmpty
  | .seen s => if looksNumeric s then textNumber s != 0 else !s.isEmpty

def ofBool (b : Bool) : Value :=
  .number (if b then 1 else 0)

def ofNat (n : Nat) : Value :=
  .number (Float.ofNat n)

end Value

end InfoFlow.Awk
