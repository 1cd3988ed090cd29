namespace InfoFlow.Json

/-- A mark of a document: a character, or `none` for a byte that is part of no character. -/
abbrev Mark := Option Char

/-- Why a text cannot be read on. -/
inductive Stop where
  /-- Something stands where it must not. -/
  | malformed
  /-- The text ends too early. -/
  | truncated
deriving DecidableEq, Repr

/-- The nearest number of 53 significant bits; halfway, the one with an even last bit. -/
def round53 (n : Nat) : Nat :=
  let unit := Nat.pow 2 (n.log2 - 52)
  let kept := n / unit
  let rest := n % unit
  if 2 * rest < unit || (2 * rest == unit && kept % 2 == 0) then kept * unit
  else (kept + 1) * unit

/-- The least number that is rounded up to 2 ^ 1024. -/
def limit : Nat :=
  Nat.pow 2 1024 - Nat.pow 2 970

/-- Whether a significand with a power of ten stays below 2 ^ 1024. Both are rounded to 53 bits
    before they are multiplied. -/
def inRange (significand : Nat) (exponent : Int) : Bool :=
  match exponent with
  | .negSucc _ => true
  | .ofNat e =>
    significand == 0 || (e ≤ 308 && round53 significand * round53 (Nat.pow 10 e) < limit)

/-- Appends digits to a significand while it fits 64 bits: the result, and how many digits did. -/
def absorb (significand : Nat) : List Nat → Nat × Nat
  | [] => (significand, 0)
  | digit :: rest =>
    let next := significand * 10 + digit
    if next < Nat.pow 2 64 then
      let (result, count) := absorb next rest
      (result, count + 1)
    else (significand, 0)

/-- Whether a number is in range, whose digits stand before and after the decimal point and are
    multiplied by a power of ten. -/
def digitsInRange (whole fraction : List Nat) (exponent : Int) : Bool :=
  let (significand, taken) := absorb 0 whole
  let (significand, decimals) := absorb significand fraction
  inRange significand (exponent + (whole.length - taken : Nat) - decimals)

/-- The digits at the front of a text. -/
def leadingDigits (text : List Mark) : List Nat :=
  (text.takeWhile (·.any Char.isDigit)).map fun mark => (mark.getD '0').toNat - '0'.toNat

/-- What is left after the digits at the front. -/
def afterDigits (text : List Mark) : List Mark :=
  text.dropWhile (·.any Char.isDigit)

/-- A natural number from its digits. -/
def ofDecimal (digits : List Nat) : Nat :=
  digits.foldl (fun n digit => n * 10 + digit) 0

/-- Reads digits where at least one is due. -/
def readDigits (text : List Mark) : Except Stop (List Nat × List Mark) :=
  match leadingDigits text with
  | [] => .error (if text.isEmpty then .truncated else .malformed)
  | digits => .ok (digits, afterDigits text)

/-- Reads the fraction of a number, if there is one. -/
def readFraction : List Mark → Except Stop (Option (List Nat) × List Mark)
  | some '.' :: rest => (readDigits rest).map fun found => (some found.1, found.2)
  | text => .ok (none, text)

/-- Reads a sign, if there is one. -/
def readSign : List Mark → Int × List Mark
  | some '+' :: rest => (1, rest)
  | some '-' :: rest => (-1, rest)
  | rest => (1, rest)

/-- Reads the exponent of a number, if there is one. -/
def readExponent (text : List Mark) : Except Stop (Option Int × List Mark) :=
  match text with
  | some 'e' :: rest | some 'E' :: rest =>
    (readDigits (readSign rest).2).map fun found =>
      (some ((readSign rest).1 * ofDecimal found.1), found.2)
  | text => .ok (none, text)

/-- Reads a number after its sign: whether it is in range, and what follows. No digit may follow a
    zero at its front. -/
def readNumeral (text : List Mark) : Except Stop (Bool × List Mark) := do
  let (whole, rest) ← readDigits text
  if whole.head? == some 0 && whole.length > 1 then throw .malformed
  let (fraction, rest) ← readFraction rest
  let (exponent, rest) ← readExponent rest
  return (digitsInRange whole (fraction.getD []) (exponent.getD 0), rest)

end InfoFlow.Json
