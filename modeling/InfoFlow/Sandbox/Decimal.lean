namespace InfoFlow.Sandbox.Decimal

/-- What a double is: whether it is negative, and its absolute value, as a whole number and a power
    of two; none if it is infinite or not a number. -/
def parts? (x : Float) : Option (Bool × Nat × Int) :=
  let bits := x.toBits.toNat
  let isNegative := bits / Nat.pow 2 63 == 1
  let exponent := bits / Nat.pow 2 52 % 2048
  let fraction := bits % Nat.pow 2 52
  if exponent == 2047 then none
  else if exponent == 0 then some (isNegative, fraction, -1074)
  else some (isNegative, fraction + Nat.pow 2 52, (exponent : Int) - 1075)

/-- A quotient rounded to the nearest whole number, a half to the even one. -/
def roundedQuotient (a b : Nat) : Nat :=
  let q := a / b
  let twice := 2 * (a % b)
  if twice > b || (twice == b && q % 2 == 1) then q + 1 else q

/-- The whole number nearest to `m` times two to `e` times ten to `p`. -/
def scaled (m : Nat) (e p : Int) : Nat :=
  let up := m * Nat.pow 2 e.toNat * Nat.pow 10 p.toNat
  let down := Nat.pow 2 (-e).toNat * Nat.pow 10 (-p).toNat
  roundedQuotient up down

/-- The digits of a number, as many as given at least. -/
def padded (count n : Nat) : List Char :=
  let digits := Nat.toDigits 10 n
  List.replicate (count - digits.length) '0' ++ digits

/-- A number with a point in front of its last digits. -/
def withPoint (decimals n : Nat) (keepsPoint : Bool) : List Char :=
  let digits := padded (decimals + 1) n
  let whole := digits.take (digits.length - decimals)
  let fraction := digits.drop (digits.length - decimals)
  if fraction.isEmpty && !keepsPoint then whole else whole ++ '.' :: fraction

def fixed (m : Nat) (e : Int) (decimals : Nat) (keepsPoint : Bool) : List Char :=
  withPoint decimals (scaled m e decimals) keepsPoint

/-- The exponent of ten and the digits of a number, of which there are to be one more than given. An
    estimate of the exponent that is too low by some is raised until it fits. -/
def significant (m : Nat) (e : Int) (decimals : Nat) : Int × Nat :=
  if m == 0 then (0, 0)
  else
    let bits := (Nat.log2 m : Int) + e
    let estimate := (bits * 30103).fdiv 100000 - 1
    raise 4 estimate
where
  raise : Nat → Int → Int × Nat
    | 0, exponent => (exponent, scaled m e (decimals - exponent))
    | fuel + 1, exponent =>
      let digits := scaled m e (decimals - exponent)
      if digits < Nat.pow 10 (decimals + 1) then (exponent, digits)
      else raise fuel (exponent + 1)

/-- The exponent as it is written: with a sign and at least two digits. -/
def exponentText (letter : Char) (exponent : Int) : List Char :=
  letter :: (if exponent < 0 then '-' else '+') :: padded 2 exponent.natAbs

def scientific (m : Nat) (e : Int) (decimals : Nat) (keepsPoint : Bool) (letter : Char) :
    List Char :=
  let (exponent, digits) := significant m e decimals
  withPoint decimals digits keepsPoint ++ exponentText letter exponent

/-- Takes zeros off the end of a fraction, and the point if nothing is left of it. -/
def trimmed (text : List Char) : List Char :=
  if text.contains '.' then
    let reversed := text.reverse.dropWhile (· == '0')
    (if reversed.head? == some '.' then reversed.drop 1 else reversed).reverse
  else text

/-- A number with a given number of digits, in powers of ten only where it is very small or too
    large. -/
def general (m : Nat) (e : Int) (precision : Nat) (keepsZeros : Bool) (letter : Char) :
    List Char :=
  let precision := max precision 1
  let (exponent, digits) := significant m e (precision - 1)
  if exponent < -4 || exponent ≥ precision then
    let text := withPoint (precision - 1) digits keepsZeros
    (if keepsZeros then text else trimmed text) ++ exponentText letter exponent
  else
    let text := fixed m e ((precision : Int) - 1 - exponent).toNat keepsZeros
    if keepsZeros then text else trimmed text

/-- The value of a digit in bases up to sixteen. -/
def digitValue? (base : Nat) (c : Char) : Option Nat :=
  let value :=
    if c.isDigit then some (c.toNat - 48)
    else if 'a' ≤ c && c ≤ 'f' then some (c.toNat - 87)
    else if 'A' ≤ c && c ≤ 'F' then some (c.toNat - 55)
    else none
  value.filter (· < base)

/-- The number that digits stand for. -/
def digitsValue (base : Nat) (digits : List Char) : Nat :=
  digits.foldl (fun n c => base * n + (digitValue? base c).getD 0) 0

def isSpace (c : Char) : Bool :=
  c == ' ' || ('\t' ≤ c && c ≤ '\r')

/-- A sign and what follows it. -/
def signAt (text : List Char) : Bool × List Char :=
  match text with
  | '-' :: rest => (true, rest)
  | '+' :: rest => (false, rest)
  | text => (false, text)

/-- The whole number at the front of a text, and what follows it. A leading zero tells its base. -/
def integerAt? (text : List Char) : Option (Int × List Char) :=
  let (isNegative, text) := signAt (text.dropWhile isSpace)
  let take (base : Nat) (text : List Char) : Option (Int × List Char) :=
    let digits := text.takeWhile fun c => (digitValue? base c).isSome
    if digits.isEmpty then none
    else
      let value : Int := digitsValue base digits
      some (if isNegative then -value else value, text.drop digits.length)
  match text with
  | '0' :: x :: c :: rest =>
    if (x == 'x' || x == 'X') && (digitValue? 16 c).isSome then take 16 (c :: rest)
    else take 8 text
  | '0' :: _ => take 8 text
  | text => take 10 text

/-- The decimal number at the front of a text, and what follows it. -/
def numberAt? (text : List Char) : Option (Float × List Char) :=
  let (isNegative, text) := signAt (text.dropWhile isSpace)
  let whole := text.takeWhile Char.isDigit
  let after := text.drop whole.length
  let fraction :=
    match after with
    | '.' :: rest => rest.takeWhile Char.isDigit
    | _ => []
  if whole.isEmpty && fraction.isEmpty then none
  else
    let after := if after.head? == some '.' then after.drop (fraction.length + 1) else after
    let (exponent, after) :=
      match after with
      | c :: rest =>
        let (isDown, digits) := signAt rest
        let taken := digits.takeWhile Char.isDigit
        if (c == 'e' || c == 'E') && !taken.isEmpty then
          let n : Int := digitsValue 10 taken
          (if isDown then -n else n, digits.drop taken.length)
        else (0, c :: rest)
      | [] => (0, [])
    let scale : Int := exponent - fraction.length
    let value := Float.ofScientific (digitsValue 10 (whole ++ fraction)) (scale < 0) scale.natAbs
    some (if isNegative then -value else value, after)

/-- A text without a word at its front, in whichever case. -/
def after? (word : String) (text : List Char) : Option (List Char) :=
  let front := text.take word.length
  if front.map Char.toLower == word.toList then some (text.drop word.length) else none

/-- The number at the front of a text, and what follows it: in base ten or sixteen, infinite, or
    none. -/
def floatAt? (text : List Char) : Option (Float × List Char) :=
  let (isNegative, body) := signAt (text.dropWhile isSpace)
  let signed (x : Float) (rest : List Char) : Option (Float × List Char) :=
    some (if isNegative then -x else x, rest)
  match after? "infinity" body <|> after? "inf" body, after? "nan" body, after? "0x" body with
  | some rest, _, _ => signed (1.0 / 0.0) rest
  | none, some rest, _ => signed (0.0 / 0.0) rest
  | none, none, some rest =>
    let isDigit (c : Char) : Bool := (digitValue? 16 c).isSome
    let whole := rest.takeWhile isDigit
    let after := rest.drop whole.length
    let fraction := if after.head? == some '.' then (after.drop 1).takeWhile isDigit else []
    if whole.isEmpty && fraction.isEmpty then numberAt? text
    else
      let after := if after.head? == some '.' then after.drop (fraction.length + 1) else after
      let (power, after) : Int × List Char :=
        match after with
        | c :: more =>
          let (isDown, digits) := signAt more
          let taken := digits.takeWhile Char.isDigit
          if (c == 'p' || c == 'P') && !taken.isEmpty then
            let n : Int := digitsValue 10 taken
            (if isDown then -n else n, digits.drop taken.length)
          else (0, after)
        | [] => (0, [])
      let m := digitsValue 16 (whole ++ fraction)
      signed ((Float.ofNat m).scaleB (power - 4 * fraction.length)) after
  | none, none, none => numberAt? text

end InfoFlow.Sandbox.Decimal
