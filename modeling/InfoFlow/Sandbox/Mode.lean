import InfoFlow.Sandbox.Decimal
import InfoFlow.Sandbox.Raw

namespace InfoFlow.Sandbox.Mode

/-- All bits of a mode. -/
def all : Nat := 0o7777

/-- The bits of one mode that another one lacks. -/
def without (mode other : Nat) : Nat :=
  mode - mode.land other

/-- The bits that letters for the owner, the group, the others and all of them stand for. -/
def ofWho (who : List Char) : Nat :=
  who.foldl (fun bits c =>
    bits.lor (([('u', 0o4700), ('g', 0o2070), ('o', 0o1007), ('a', all)].lookup c).getD 0)) 0

/-- A change of a mode: for whom, and signs with the letters that each one is for. -/
structure Change where
  who : List Char
  steps : List (Char × List Char)

def isSign (c : Char) : Bool :=
  c == '+' || c == '-' || c == '='

/-- Signs with their letters. Each one is a character at least, so the length is fuel enough. -/
def stepsOf : Nat → List Char → Option (List (Char × List Char))
  | _, [] => some []
  | 0, _ => none
  | fuel + 1, sign :: rest => do
    let letters := rest.takeWhile (!isSign ·)
    if !isSign sign || !letters.all "rwxXstugo".toList.contains then none
    return (sign, letters) :: (← stepsOf fuel (rest.drop letters.length))

def Change.ofText (text : List Char) : Option Change := do
  let who := text.takeWhile "ugoa".toList.contains
  let signs := text.drop who.length
  return { who, steps := ← stepsOf signs.length signs }

/-- The same bits for the owner, the group and the others. -/
def spread (bits : Nat) : Nat :=
  bits * 0o111

/-- The bits that a letter stands for in a mode that is known. -/
def ofLetter (isDirectory : Bool) (known : Nat) (c : Char) : Nat :=
  match c with
  | 'r' => spread 4
  | 'w' => spread 2
  | 'x' => spread 1
  | 'X' => if isDirectory || known.land 0o111 != 0 then spread 1 else 0
  | 's' => 0o6000
  | 't' => 0o1000
  | 'u' => spread (known / 64 % 8)
  | 'g' => spread (known / 8 % 8)
  | 'o' => spread (known % 8)
  | _ => 0

/-- The mode after a change. Where it is not said for whom, what new files lack stays as it is. -/
def Change.apply (change : Change) (isDirectory : Bool) (mask known : Nat) : Nat :=
  let affected := if change.who.isEmpty then all else ofWho change.who
  let allowed := if change.who.isEmpty then without all mask else affected
  change.steps.foldl (fun known (sign, letters) =>
    let bits := letters.foldl (fun bits c => bits.lor (ofLetter isDirectory known c)) 0
    let kept := if isDirectory && !letters.contains 's' then 0o6000 else 0
    let bits := bits.land allowed
    match sign with
    | '+' => known.lor bits
    | '-' => without known bits
    | _ => (without known (without affected kept)).lor bits) known

/-- The mode that a text stands for, after the mode that is known. -/
def ofText? (isDirectory : Bool) (mask known : Nat) (text : String) : Option Nat :=
  let chars := text.toList
  let isOctal := !chars.isEmpty && chars.all fun c => '0' ≤ c && c ≤ '7'
  if isOctal then
    let mode := Decimal.digitsValue 8 chars
    let kept := if isDirectory && chars.length < 5 then known.land 0o6000 else 0
    if mode ≤ all then some (mode.lor kept) else none
  else
    (Raw.parts (· == ',') text).foldlM (fun known part => do
      let change ← Change.ofText part.toList
      if change.steps.isEmpty then none else some (change.apply isDirectory mask known)) known

/-- The letters for what a mode lets who do. -/
def letters (mode : Nat) : String :=
  let group (shift special : Nat) (marks : Char × Char) : List Char :=
    let bits := mode / shift % 8
    let runs := bits.land 1 != 0
    let last :=
      if mode.land special != 0 then (if runs then marks.1 else marks.2)
      else if runs then 'x' else '-'
    [if bits.land 4 != 0 then 'r' else '-', if bits.land 2 != 0 then 'w' else '-', last]
  String.ofList (group 64 0o4000 ('s', 'S') ++ group 8 0o2000 ('s', 'S') ++
    group 1 0o1000 ('t', 'T'))

/-- A mode in base eight. -/
def octal (mode : Nat) : String :=
  String.ofList (Nat.toDigits 8 mode)

/-- What modes let who do, in words. -/
def words (mode : Nat) : String :=
  ",".intercalate ([("u", 64), ("g", 8), ("o", 1)].map fun (name, shift) =>
    name ++ "=" ++ String.ofList ([('r', 4), ('w', 2), ('x', 1)].filterMap fun (c, bit) =>
      if (mode / shift % 8).land bit != 0 then some c else none))

end InfoFlow.Sandbox.Mode
