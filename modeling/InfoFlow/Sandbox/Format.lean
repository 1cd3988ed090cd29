import InfoFlow.Sandbox.Decimal

namespace InfoFlow.Sandbox

/-- A number in a directive, which may be given by a value instead. -/
inductive Extent where
  | given (n : Nat)
  | byValue
deriving Repr

/-- How a value is written. -/
structure Directive where
  flags : List Char := []
  width : Option Extent := none
  precision : Option Extent := none
  /-- Letters for the size of the value. -/
  size : List Char := []
  conversion : Char
  /-- What stands in front of the size, as it is written. -/
  front : List Char := ['%']
deriving Repr

inductive FormatPart where
  | text (s : List Char)
  | directive (d : Directive)
  /-- A sign of a directive that names no conversion. -/
  | unfinished (s : List Char)
deriving Repr

namespace Format

def extentAt (text : List Char) : Option Extent × List Char :=
  match text with
  | '*' :: rest => (some .byValue, rest)
  | text =>
    let digits := text.takeWhile Char.isDigit
    if digits.isEmpty then (none, text)
    else (some (.given (Decimal.digitsValue 10 digits)), text.drop digits.length)

/-- The letters that say how a value is written. -/
def conversions : List Char :=
  ['d', 'i', 'o', 'u', 'x', 'X', 'e', 'E', 'f', 'F', 'g', 'G', 'a', 'A', 'c', 's', 'b']

/-- The directive after its sign, and what follows it. -/
def directiveAt? (text : List Char) : Option (Directive × List Char) :=
  let flags := text.takeWhile fun c =>
    c == '-' || c == '+' || c == ' ' || c == '#' || c == '0' || c == '\''
  let all := text
  let (width, rest) := extentAt (text.drop flags.length)
  let (precision, rest) :=
    match rest with
    | '.' :: rest =>
      let (precision, rest) := extentAt rest
      (some (precision.getD (.given 0)), rest)
    | rest => (none, rest)
  let front := '%' :: all.take (all.length - rest.length)
  let plain := rest.dropWhile fun c => ['l', 'h', 'q', 'j', 't', 'z', 'L'].contains c
  let isSized := plain.head?.any conversions.contains
  let size := if isSized then rest.take (rest.length - plain.length) else []
  match if isSized then plain else rest with
  | c :: rest => some (⟨flags, width, precision, size, c, front⟩, rest)
  | [] => none

/-- The parts of a format. Each step passes over a character at least, so the length of the format
    is fuel enough. -/
def parts : Nat → List Char → List FormatPart
  | 0, _ | _, [] => []
  | fuel + 1, '%' :: '%' :: rest => .text ['%'] :: parts fuel rest
  | fuel + 1, '%' :: rest =>
    match directiveAt? rest with
    | some (directive, rest) => .directive directive :: parts fuel rest
    | none => [.unfinished ('%' :: rest)]
  | fuel + 1, c :: rest =>
    let taken := rest.takeWhile (· != '%')
    .text (c :: taken) :: parts fuel (rest.drop taken.length)

def ofText (text : List Char) : List FormatPart :=
  parts text.length text

end Format

namespace Directive

def has (d : Directive) (flag : Char) : Bool :=
  d.flags.contains flag

/-- The directive with its numbers given: a negative width is to the left, a negative precision is
    none. -/
def resolved (d : Directive) (width precision : Option Int) : Directive :=
  let d :=
    match width with
    | none => d
    | some w => { d with
        width := some (.given w.natAbs), flags := if w < 0 then '-' :: d.flags else d.flags }
  match precision with
  | none => d
  | some p => { d with precision := if p < 0 then none else some (.given p.toNat) }

def precision? (d : Directive) : Option Nat :=
  match d.precision with
  | some (.given n) => some n
  | _ => none

/-- A text made as wide as is asked for: with blanks, or with zeros after what is in front. -/
def pad (d : Directive) (zeros : Bool) (front text : List Char) : List Char :=
  let missing :=
    match d.width with
    | some (.given n) => n - (front.length + text.length)
    | _ => 0
  if d.has '-' then front ++ text ++ List.replicate missing ' '
  else if zeros && d.has '0' then front ++ List.replicate missing '0' ++ text
  else List.replicate missing ' ' ++ front ++ text

/-- A text, of which the precision may take less. -/
def writeText (d : Directive) (text : List Char) : List Char :=
  d.pad false [] (match d.precision? with | some n => text.take n | none => text)

/-- The sign in front of a number. -/
def sign (d : Directive) (isNegative : Bool) : List Char :=
  if isNegative then ['-'] else if d.has '+' then ['+'] else if d.has ' ' then [' '] else []

/-- A whole number of 64 bits. -/
def writeInteger (d : Directive) (value : Int) : List Char :=
  let least (digits : List Char) : List Char :=
    match d.precision? with
    | some 0 => if value == 0 then [] else digits
    | some n => List.replicate (n - digits.length) '0' ++ digits
    | none => digits
  let unsigned := (value.emod (Nat.pow 2 64 : Nat)).toNat
  let zeros := d.precision?.isNone
  match d.conversion with
  | 'o' =>
    let digits := least (Nat.toDigits 8 unsigned)
    let digits := if d.has '#' && digits.head? != some '0' then '0' :: digits else digits
    d.pad zeros [] digits
  | 'x' =>
    d.pad zeros (if d.has '#' && unsigned != 0 then ['0', 'x'] else [])
      (least (Nat.toDigits 16 unsigned))
  | 'X' =>
    d.pad zeros (if d.has '#' && unsigned != 0 then ['0', 'X'] else [])
      (least ((Nat.toDigits 16 unsigned).map Char.toUpper))
  | 'u' => d.pad zeros [] (least (Nat.toDigits 10 unsigned))
  | _ => d.pad zeros (d.sign (value < 0)) (least (Nat.toDigits 10 value.natAbs))

/-- The digits of a double in base sixteen and a power of two, of which the first digit has the
    given number of bits. -/
def hexadecimal (bits : Nat) (m : Nat) (e : Int) (precision : Option Nat) (keepsPoint : Bool) :
    List Char :=
  let exponent (n : Int) : List Char :=
    'p' :: (if n < 0 then '-' else '+') :: Nat.toDigits 10 n.natAbs
  -- The number with sixteen digits after the first one.
  let length := Nat.log2 m + 1
  let whole := if m == 0 then 0 else m * Nat.pow 2 (64 + bits - length)
  let power : Int := if m == 0 then 0 else e + length - bits
  let kept := precision.getD 16
  let digits :=
    if kept ≥ 16 then whole * Nat.pow 16 (kept - 16)
    else Decimal.roundedQuotient whole (Nat.pow 16 (16 - kept))
  let text := Nat.toDigits 16 digits
  let text := List.replicate (kept + 1 - text.length) '0' ++ text
  let front := text.take (text.length - kept)
  let fraction := text.drop (text.length - kept)
  let fraction :=
    if precision.isSome then fraction else (fraction.reverse.dropWhile (· == '0')).reverse
  front ++ (if fraction.isEmpty && !keepsPoint then [] else '.' :: fraction) ++ exponent power

/-- A double; `bits` is the number of bits before the point in base sixteen. -/
def writeFloat (d : Directive) (value : Float) (bits : Nat := 1) : List Char :=
  match Decimal.parts? value with
  | none =>
    let isNegative := value.toBits.toNat / Nat.pow 2 63 == 1
    let text := if value.isNaN then "nan" else "inf"
    let text := if d.conversion.isUpper then text.toUpper else text
    d.pad false (d.sign isNegative) text.toList
  | some (isNegative, m, e) =>
    let precision := d.precision?.getD 6
    let sixteenth := hexadecimal bits m e d.precision? (d.has '#')
    let front :=
      match d.conversion with
      | 'a' => ['0', 'x']
      | 'A' => ['0', 'X']
      | _ => []
    let text :=
      match d.conversion with
      | 'a' => sixteenth
      | 'A' => sixteenth.map Char.toUpper
      | 'e' => Decimal.scientific m e precision (d.has '#') 'e'
      | 'E' => Decimal.scientific m e precision (d.has '#') 'E'
      | 'g' => Decimal.general m e precision (d.has '#') 'e'
      | 'G' => Decimal.general m e precision (d.has '#') 'E'
      | _ => Decimal.fixed m e precision (d.has '#')
    d.pad true (d.sign isNegative ++ front) text

end Directive

end InfoFlow.Sandbox
