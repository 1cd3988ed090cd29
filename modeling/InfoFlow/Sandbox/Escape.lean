import InfoFlow.Sandbox.Format
import InfoFlow.Sandbox.Machine
import InfoFlow.Sandbox.Quoting

namespace InfoFlow.Sandbox

namespace Escape

def isOctalDigit (c : Char) : Bool :=
  '0' ≤ c && c ≤ '7'

/-- The byte that up to three octal digits stand for, and what follows them. -/
def octal (text : List Char) : Char × List Char :=
  let digits := (text.take 3).takeWhile isOctalDigit
  (Char.ofNat (Decimal.digitsValue 8 digits % 256), text.drop digits.length)

/-- The characters that letters after a backslash stand for. -/
def named : List (Char × Char) :=
  [('a', '\x07'), ('b', '\x08'), ('t', '\t'), ('n', '\n'), ('v', '\x0b'), ('f', '\x0c'),
    ('r', '\r'), ('e', '\x1b'), ('\\', '\\')]

/-- What stands for the text after a backslash, and the rest. An unknown escape stands for
    itself. -/
def one (text : List Char) : List Char × List Char :=
  match text with
  | [] => (['\\'], [])
  | c :: rest =>
    match named.lookup c with
    | some d => ([d], rest)
    | none =>
      if isOctalDigit c then
        let (d, rest) := octal (c :: rest)
        ([d], rest)
      else (['\\'], c :: rest)

/-- A text with its escapes replaced. Each step passes over a character at least, so the length of
    the text is fuel enough. -/
def all : Nat → List Char → List Char
  | 0, _ | _, [] => []
  | fuel + 1, '\\' :: rest =>
    let (found, rest) := one rest
    found ++ all fuel rest
  | fuel + 1, c :: rest => c :: all fuel rest

/-- A text with its escapes replaced, where octal digits follow a zero and one escape asks to stop;
    and whether it does. -/
def message : Nat → List Char → List Char × Bool
  | 0, _ | _, [] => ([], false)
  | fuel + 1, c :: rest =>
    let before (found : List Char) (more : List Char × Bool) := (found ++ more.1, more.2)
    if c != '\\' then before [c] (message fuel rest)
    else
      match rest with
      | 'c' :: _ => ([], true)
      | '0' :: rest =>
        let (d, rest) := octal rest
        before [d] (message fuel rest)
      | rest =>
        let (found, rest) := one rest
        before found (message fuel rest)

/-- The code that four or eight digits after a letter are, and what follows them. -/
def codePoint? (letter : Char) (text : List Char) : Option (Nat × List Char) :=
  let length := if letter == 'u' then 4 else if letter == 'U' then 8 else 0
  let digits := (text.take length).takeWhile fun c => (Decimal.digitValue? 16 c).isSome
  if 0 < length && digits.length == length then
    some (Decimal.digitsValue 16 digits, text.drop length)
  else none

/-- A byte by its octal digits. -/
def octalText (n : Nat) : List Char :=
  let digits := Nat.toDigits 8 n
  '\\' :: List.replicate (3 - digits.length) '0' ++ digits

/-- What is written for a code: the byte it is, or if there is none its own name. -/
def codeText (n : Nat) : List Char :=
  if n < 128 then octalText n
  else
    let digits := (Nat.toDigits 16 n).map Char.toUpper
    let (letter, length) := if n < 65536 then ('u', 4) else ('U', 8)
    '\\' :: '\\' :: letter :: List.replicate (length - digits.length) '0' ++ digits

/-- The text in which bytes are given by octal digits where it gave them by others. -/
def withOctal : Nat → List Char → List Char
  | 0, _ | _, [] => []
  | fuel + 1, '\\' :: 'x' :: rest =>
    let digits := (rest.take 2).takeWhile fun c => (Decimal.digitValue? 16 c).isSome
    if digits.isEmpty then '\\' :: 'x' :: withOctal fuel rest
    else
      octalText (Decimal.digitsValue 16 digits) ++ withOctal fuel (rest.drop digits.length)
  | fuel + 1, '\\' :: c :: rest =>
    match codePoint? c rest with
    | some (n, rest) => codeText n ++ withOctal fuel rest
    | none => '\\' :: c :: withOctal fuel rest
  | fuel + 1, c :: rest => c :: withOctal fuel rest

end Escape

/-- What is wrong with a value that is to be a number. -/
inductive ValueFault where
  | notNumber
  /-- It only begins with a number. -/
  | partly
  | tooLarge
deriving DecidableEq, Repr

/-- A value with what is wrong with it. -/
structure Complaint where
  value : String
  fault : ValueFault

/-- Why a directive is none. -/
inductive DirectiveFault where
  | unknown
  /-- The format ends in it. -/
  | unfinished
deriving DecidableEq, Repr

/-- Which formats there are: plain ones do without letters for the size of values, and write numbers
    as doubles. -/
inductive FormatStyle where
  | plain
  | extended
deriving DecidableEq, Repr

/-- What has been written by a format: the text, the complaints about values, and whether to
    stop. -/
structure Written where
  text : List Char := []
  complaints : List Complaint := []
  isStopped : Bool := false
  /-- The directive that is none, and why. -/
  flaw : Option (String × DirectiveFault) := none
  /-- The first of the values that no directive takes. -/
  unused : Option String := none

namespace Written

def add (text : List Char) (written : Written) : Written :=
  { written with text := written.text ++ text }

def complain (value : String) (fault : ValueFault) (written : Written) : Written :=
  { written with complaints := written.complaints ++ [⟨value, fault⟩] }

/-- The complaint about a text that is to be a number, of which some is left over. -/
def check (value : String) (rest : Option (List Char)) (written : Written) : Written :=
  match rest with
  | none => if value.isEmpty then written else written.complain value .notNumber
  | some [] => written
  | some _ => written.complain value .partly

/-- A number between limits, and a complaint if it was brought there. -/
def bounded (value : String) (low high n : Int) (written : Written) : Int × Written :=
  if n < low then (low, written.complain value .tooLarge)
  else if n > high then (high, written.complain value .tooLarge)
  else (n, written)

/-- The whole number of 64 bits that a value is. A quoted character stands for its code. -/
def integer (isSigned : Bool) (values : List String) (written : Written) :
    Int × List String × Written :=
  match values with
  | [] => (0, [], written)
  | value :: values =>
    match value.toList with
    | '"' :: text | '\'' :: text => (((text.head?.map Char.toNat).getD 0 : Nat), values, written)
    | text =>
      match Decimal.integerAt? text with
      | some (n, rest) =>
        let half : Int := (Nat.pow 2 63 : Nat)
        let (low, high) := if isSigned then (-half, half - 1) else (-2 * half + 1, 2 * half - 1)
        let (bound, written) := written.bounded value low high n
        (bound, values, if bound == n then written.check value (some rest) else written)
      | none => (0, values, written.check value none)

def number (values : List String) (written : Written) : Float × List String × Written :=
  match values with
  | [] => (0, [], written)
  | value :: values =>
    match value.toList with
    | '"' :: text | '\'' :: text =>
      (Float.ofNat ((text.head?.map Char.toNat).getD 0), values, written)
    | text =>
      match Decimal.floatAt? text with
      | some (x, rest) => (x, values, written.check value (some rest))
      | none => (0, values, written.check value none)

/-- Stops at a directive that is none. -/
def refuse (text : List Char) (fault : DirectiveFault) (written : Written) : Written :=
  { written with flaw := some (String.ofList text, fault), isStopped := true }

/-- Writes one value as a directive says. -/
def directive (style : FormatStyle) (d : Directive) (values : List String) (written : Written) :
    List String × Written :=
  let (width, values, written) : Option Int × List String × Written :=
    match d.width with
    | some .byValue =>
      let (n, values, written) := written.integer true values
      (some n, values, written)
    | _ => (none, values, written)
  let (precision, values, written) : Option Int × List String × Written :=
    match d.precision with
    | some .byValue =>
      let (n, values, written) := written.integer true values
      (some n, values, written)
    | _ => (none, values, written)
  let d := d.resolved width precision
  let c := d.conversion
  if style == .plain && !d.size.isEmpty then
    (values, written.refuse (d.front ++ d.size.take 1) .unknown)
  else if c == 's' then (values.drop 1, written.add (d.writeText (values.headD "").toList))
  else if c == 'c' then
    let first := ((values.headD "").toList.head?).getD '\x00'
    (values.drop 1, written.add (d.writeText [first]))
  else if c == 'b' then
    let text := (values.headD "").toList
    let text := if style == .plain then text else Escape.withOctal text.length text
    let (found, isStopped) := Escape.message text.length text
    (values.drop 1, { written.add (d.writeText found) with isStopped })
  else if style == .extended && c == 'q' then
    (values.drop 1, written.add (argumentWord (values.headD "")).toList)
  else if ['d', 'i', 'o', 'u', 'x', 'X'].contains c then
    let (n, values, written) := written.integer (c == 'd' || c == 'i') values
    (values, written.add (d.writeInteger n))
  else if ['e', 'E', 'f', 'F', 'g', 'G', 'a', 'A'].contains c then
    let (x, values, written) := written.number values
    (values, written.add (d.writeFloat x (if style == .plain then 1 else 4)))
  else (values, written.refuse (d.front ++ d.size ++ [c]) .unknown)

/-- Goes through a format once. -/
def once (style : FormatStyle) :
    List FormatPart → List String → Written → List String × Written
  | [], values, written => (values, written)
  | part :: rest, values, written =>
    if written.isStopped then (values, written)
    else
      match part with
      | .text s =>
        let s := if s == ['%'] then s else Escape.all s.length s
        once style rest values (written.add s)
      | .unfinished s => (values, written.refuse s .unfinished)
      | .directive d =>
        let (values, written) := written.directive style d values
        once style rest values written

/-- Goes through a format until no value is left, and at least once. -/
def repeated (style : FormatStyle) (format : List FormatPart) :
    Nat → List String → Written → Written
  | 0, _, written => written
  | fuel + 1, values, written =>
    let (left, written) := once style format values written
    if left.isEmpty || written.isStopped then written
    else if left.length == values.length then { written with unused := left.head? }
    else repeated style format fuel left written

/-- What a format writes of values. -/
def ofFormat (style : FormatStyle) (format : String) (values : List String) : Written :=
  repeated style (Format.ofText format.toList) (values.length + 1) values {}

end Written

end InfoFlow.Sandbox
