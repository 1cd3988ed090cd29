import InfoFlow.Sandbox.Utility.Reading

namespace InfoFlow.Sandbox

namespace Dump

/-- How numbers are written. -/
inductive Writing where
  | signed
  | unsigned
  | octal
  | hexadecimal
  /-- Letters, with escapes for what cannot be seen. -/
  | escaped
  /-- Letters, with names for what cannot be seen. -/
  | named
deriving DecidableEq

/-- How bytes are shown: so many of them at a time, in a notation, and as letters at the end. -/
structure Form where
  size : Nat
  writing : Writing
  showsLetters : Bool := false

/-- The columns of a number. -/
def Form.width (form : Form) : Nat :=
  match form.writing, form.size with
  | .escaped, _ | .named, _ => 3
  | .hexadecimal, n => 2 * n
  | .octal, n => (8 * n + 2) / 3
  | .signed, n => [(1, 4), (2, 6), (4, 11)].lookup n |>.getD 20
  | .unsigned, n => [(1, 3), (2, 5), (4, 10)].lookup n |>.getD 20

/-- The names of the characters that cannot be seen. -/
def names : List String :=
  ["nul", "soh", "stx", "etx", "eot", "enq", "ack", "bel", "bs", "ht", "nl", "vt", "ff", "cr", "so",
    "si", "dle", "dc1", "dc2", "dc3", "dc4", "nak", "syn", "etb", "can", "em", "sub", "esc", "fs",
    "gs", "rs", "us", "sp"]

/-- A byte by its name. -/
def nameOf (b : Nat) : String :=
  let n := b % 128
  if n == 127 then "del" else (names[n]?).getD (String.singleton (Char.ofNat n))

/-- A text with zeros in front of it. -/
def zeroPadded (width : Nat) (digits : List Char) : String :=
  String.ofList (List.replicate (width - digits.length) '0' ++ digits)

/-- A byte as a letter or an escape. -/
def escapeOf (b : Nat) : String :=
  match [(0, "\\0"), (7, "\\a"), (8, "\\b"), (9, "\\t"), (10, "\\n"), (11, "\\v"), (12, "\\f"),
      (13, "\\r")].lookup b with
  | some text => text
  | none =>
    if 32 ≤ b && b < 127 then String.singleton (Char.ofNat b)
    else zeroPadded 3 (Nat.toDigits 8 b)

/-- A number as it is shown. -/
def Form.text (form : Form) (n : Nat) : String :=
  match form.writing with
  | .escaped => escapeOf n
  | .named => nameOf n
  | .hexadecimal => zeroPadded form.width (Nat.toDigits 16 n)
  | .octal => zeroPadded form.width (Nat.toDigits 8 n)
  | .unsigned => toString n
  | .signed =>
    let bound := Nat.pow 2 (8 * form.size)
    if 2 * n ≥ bound then "-" ++ toString (bound - n) else toString n

/-- The number that bytes stand for. The first one counts least, unless they are in big order. -/
def valueOf (isBig : Bool) (bytes : List Nat) : Nat :=
  (if isBig then bytes else bytes.reverse).foldl (fun n b => 256 * n + b) 0

/-- The numbers that bytes stand for, a number of them each. What is missing at the end is zero. -/
def values (isBig : Bool) (size : Nat) : Nat → List Nat → List Nat
  | 0, _ => []
  | fuel + 1, bytes =>
    if bytes.isEmpty then []
    else
      let item := bytes.take size
      valueOf isBig (item ++ List.replicate (size - item.length) 0) ::
        values isBig size fuel (bytes.drop size)

/-- Texts in columns. What the columns of a line lack to a common width is spread over them. -/
def spread (width pad count : Nat) : Nat → List String → String
  | _, [] => ""
  | left, text :: rest =>
    let here := pad * left / count - pad * (left - 1) / count
    let columns := width + here
    String.ofList (List.replicate (columns - text.length) ' ') ++ text ++
      spread width pad count (left - 1) rest

/-- A block of bytes in a form. -/
def Form.line (form : Form) (isBig : Bool) (blockSize blockWidth : Nat) (bytes : List Nat) :
    String :=
  let count := blockSize / form.size
  let pad := blockWidth - count * form.width
  let numbers := (values isBig form.size bytes.length bytes).map form.text
  let text := spread form.width pad count count numbers
  let whole := count * form.width + pad
  let letters := bytes.map fun b => if 32 ≤ b && b < 127 then Char.ofNat b else '.'
  if form.showsLetters then
    text ++ String.ofList (List.replicate (whole - text.length) ' ') ++ "  >" ++
      String.ofList letters ++ "<"
  else text

/-- The place of a block, to a base, in columns of zeros. -/
def place (radix : Char) (n : Nat) : String :=
  match radix with
  | 'd' => zeroPadded 7 (Nat.toDigits 10 n)
  | 'x' => zeroPadded 6 (Nat.toDigits 16 n)
  | 'n' => ""
  | _ => zeroPadded 7 (Nat.toDigits 8 n)

/-- How a dump is laid out. -/
structure Layout where
  forms : List Form
  radix : Char
  size : Nat
  isBig : Bool
  showsAll : Bool

/-- The columns of a whole block. -/
def Layout.blockWidth (layout : Layout) : Nat :=
  layout.forms.foldl (fun n form => max n ((form.width + 1) * (layout.size / form.size))) 0

/-- A block after its place, in all forms. -/
def Layout.block (layout : Layout) (offset : Nat) (bytes : List Nat) : String :=
  let front := place layout.radix offset
  let blank := String.ofList (List.replicate front.length ' ')
  String.join (layout.forms.mapIdx fun n form =>
    (if n == 0 then front else blank) ++
      form.line layout.isBig layout.size layout.blockWidth bytes ++ "\n")

/-- All blocks from an offset on. `before` is the block before them, and whether it is shown as a
    star. -/
def Layout.blocks (layout : Layout) : Nat → Nat → Option (List Nat) → Bool → List Nat → String
  | 0, _, _, _, _ => ""
  | fuel + 1, offset, before, isStarred, bytes =>
    if bytes.isEmpty then
      if layout.radix == 'n' then "" else place layout.radix offset ++ "\n"
    else
      let block := bytes.take layout.size
      let rest := bytes.drop layout.size
      let next := offset + block.length
      if !layout.showsAll && before == some block then
        (if isStarred then "" else "*\n") ++ layout.blocks fuel next before true rest
      else layout.block offset block ++ layout.blocks fuel next (some block) false rest

/-- The size that the letter or the number after a kind stands for. -/
def readSize : List Char → Option Nat × List Char
  | 'C' :: rest => (some 1, rest)
  | 'S' :: rest => (some 2, rest)
  | 'I' :: rest => (some 4, rest)
  | 'L' :: rest => (some 8, rest)
  | rest =>
    let digits := rest.takeWhile Char.isDigit
    ((String.ofList digits).toNat?, rest.drop digits.length)

/-- Why a text does not tell how bytes are shown. -/
inductive FormFault where
  | character (c : Char)
  | size (n : Nat)

/-- Reads how bytes are shown. Each form takes a character at least. -/
def readForms : Nat → List Char → Except FormFault (List Form)
  | 0, _ => .ok []
  | _, [] => .ok []
  | fuel + 1, c :: rest => do
    let (form, rest) : Form × List Char ←
      match [('d', Writing.signed), ('u', .unsigned), ('o', .octal), ('x', .hexadecimal)].lookup c
      with
      | some kind =>
        let (size, rest) := readSize rest
        let size := size.getD 4
        if [1, 2, 4, 8].contains size then pure (⟨size, kind, false⟩, rest)
        else throw (.size size)
      | none =>
        if c == 'c' then pure (⟨1, .escaped, false⟩, rest)
        else if c == 'a' then pure (⟨1, .named, false⟩, rest)
        else throw (.character c)
    match rest with
    | 'z' :: rest => return { form with showsLetters := true } :: (← readForms fuel rest)
    | rest => return form :: (← readForms fuel rest)

/-- The form that a switch of one letter stands for. -/
def shortForms : List (Char × Form) :=
  [('a', ⟨1, .named, false⟩), ('b', ⟨1, .octal, false⟩), ('c', ⟨1, .escaped, false⟩),
    ('d', ⟨2, .unsigned, false⟩), ('D', ⟨4, .unsigned, false⟩), ('i', ⟨4, .signed, false⟩),
    ('I', ⟨8, .signed, false⟩), ('l', ⟨8, .signed, false⟩), ('L', ⟨8, .signed, false⟩),
    ('o', ⟨2, .octal, false⟩), ('B', ⟨2, .octal, false⟩), ('O', ⟨4, .octal, false⟩),
    ('s', ⟨2, .signed, false⟩), ('x', ⟨2, .hexadecimal, false⟩), ('h', ⟨2, .hexadecimal, false⟩),
    ('X', ⟨4, .hexadecimal, false⟩), ('H', ⟨4, .hexadecimal, false⟩)]

/-- The number that digits stand for: to the base of sixteen after `0x`, of eight after a zero, and
    possibly with a letter for a multiple. -/
def number? (text : String) : Option Nat :=
  let digitsTo (base : Nat) (digits : List Char) : Option Nat :=
    let value (c : Char) : Option Nat :=
      if c.isDigit then some (c.toNat - 48)
      else if 'a' ≤ c && c ≤ 'f' then some (c.toNat - 87)
      else if 'A' ≤ c && c ≤ 'F' then some (c.toNat - 55)
      else none
    if digits.isEmpty then none
    else digits.foldl (fun n c =>
      match n, value c with
      | some n, some d => if d < base then some (n * base + d) else none
      | _, _ => none) (some 0)
  match text.toList with
  | '0' :: 'x' :: rest | '0' :: 'X' :: rest => digitsTo 16 rest
  | '0' :: c :: rest => if c.isDigit then digitsTo 8 (c :: rest) else sizeOf? text
  | _ => sizeOf? text

/-- The offset that an operand of the old kind stands for: to the base of eight, of ten after a
    point, of sixteen after `0x`. -/
def offset? (text : String) : Option Nat :=
  let chars := match text.toList with | '+' :: rest => rest | chars => chars
  let (chars, factor) :=
    match chars.reverse with
    | 'b' :: front => (front.reverse, 512)
    | _ => (chars, 1)
  match chars.reverse with
  | '.' :: front => ((String.ofList front.reverse).toNat?).map (· * factor)
  | _ => (number? (String.ofList ('0' :: chars))).map (· * factor)

end Dump

open Dump in
def dumpBytes : Program :=
  Usage.program {
    switches := letters "abBcdDeFfhHiIlLosOxXv" "AjNtS" ++ [
      ⟨'w', ["width"], .maybe⟩, ⟨'A', ["address-radix"], .always⟩,
      ⟨'j', ["skip-bytes"], .always⟩, ⟨'N', ["read-bytes"], .always⟩,
      ⟨'t', ["format"], .always⟩, ⟨'v', ["output-duplicates"], .never⟩,
      ⟨'\x03', ["endian"], .always⟩, ⟨'\x04', ["traditional"], .never⟩] } fun name options => do
    let failed (message : String) : Run Nat := do
      report name message
      return 1
    let forms : Except (String × FormFault) (List Form) :=
      options.switches.foldlM (fun forms (c, text) =>
        match shortForms.lookup c with
        | some form => .ok (forms ++ [form])
        | none =>
          if c == 't' then
            match readForms text.length text.toList with
            | .ok more => .ok (forms ++ more)
            | .error fault => .error (text, fault)
          else .ok forms) []
    match forms with
    | .error (text, .character c) =>
      failed ("invalid character '" ++ String.singleton c ++ "' in type string '" ++ text ++ "'")
    | .error (text, .size n) =>
      failed ("invalid type string '" ++ text ++
        "';\nthis system doesn't provide a " ++ toString n ++ "-byte integral type")
    | .ok forms =>
      let forms := if forms.isEmpty then [⟨2, .octal, false⟩] else forms
      let radix := (options.value? 'A').getD "o"
      if !(["d", "o", "x", "n"].contains radix) then
        return ← failed ("invalid output address radix '" ++ radix ++
          "'; it must be one character from [doxn]")
      let number (letter : Char) : Except String (Option Nat) :=
        match options.value? letter with
        | none => .ok none
        | some text =>
          match number? text with
          | some n => .ok (some n)
          | none => .error ("invalid -" ++ String.singleton letter ++ " argument '" ++ text ++ "'")
      match number 'j', number 'N' with
      | .error message, _ | _, .error message => failed message
      | .ok skip, .ok limit =>
        let isPlain := !(['A', 'j', 'N', 't', 'v', 'w'].any options.has)
        let (operands, old) : List String × Option Nat :=
          match isPlain, options.operands with
          | true, [first] =>
            if first.toList.head? == some '+' then
              match offset? first with
              | some n => ([], some n)
              | none => ([first], none)
            else ([first], none)
          | true, [first, second] =>
            if (second.toList.head?).any fun c => c == '+' || c.isDigit then
              match offset? second with
              | some n => ([first], some n)
              | none => ([first, second], none)
            else ([first, second], none)
          | _, operands => (operands, none)
        let (documents, isGood) ← readAll name {} operands
        let bytes := documents.flatMap fun (_, document) => document.toList.map UInt8.toNat
        let skip := (old <|> skip).getD 0
        if skip > bytes.length then
          return ← failed "cannot skip past end of combined input"
        let left := bytes.drop skip
        let bytes := (limit.map fun n => left.take n).getD left
        if documents.map (·.1) == ["-"] then giveBack 0 (left.length - bytes.length)
        let unit := forms.foldl (fun n form => max n form.size) 1
        let width ←
          match options.value? 'w' with
          | none => pure 16
          | some text =>
            let asked := if text.isEmpty then 32 else text.toNat?.getD 0
            if asked != 0 && asked % unit == 0 then pure asked
            else
              report name ("warning: invalid width " ++ toString asked ++ "; using " ++
                toString unit ++ " instead")
              pure unit
        let layout : Layout := {
          forms, radix := radix.toList.headD 'o', size := width
          isBig := options.value? '\x03' == some "big", showsAll := options.has 'v' }
        if operands.length != 0 && documents.isEmpty && !isGood &&
            (← get).leadsToDirectory (operands.headD "") == false then return 1
        say (layout.blocks (bytes.length + 2) skip none false bytes)
        return statusOf isGood

/-- The utilities of this module. -/
def dumpUtilities : List (String × Program) := [("od", dumpBytes)]

end InfoFlow.Sandbox
