import InfoFlow.Sandbox.Utility.Reading

namespace InfoFlow.Sandbox

/-- An alphabet of letters that stand for some bits each. -/
structure Alphabet where
  bits : Nat
  letters : List Char
  /-- How many letters make up a group. -/
  group : Nat
  /-- Whether the letters of a group that lacks some count as far as they go. -/
  readsParts : Bool := false

namespace Alphabet

/-- The capitals, and what follows them. -/
def following (rest : String) : List Char :=
  "ABCDEFGHIJKLMNOPQRSTUVWXYZ".toList ++ rest.toList

def base64 : Alphabet :=
  ⟨6, following "abcdefghijklmnopqrstuvwxyz0123456789+/", 4, true⟩

def base64url : Alphabet :=
  ⟨6, following "abcdefghijklmnopqrstuvwxyz0123456789-_", 4, true⟩

def base32 : Alphabet :=
  ⟨5, following "234567", 8, false⟩

def base32hex : Alphabet :=
  ⟨5, "0123456789ABCDEFGHIJKLMNOPQRSTUV".toList, 8, false⟩

def base16 : Alphabet :=
  ⟨4, "0123456789ABCDEF".toList, 2, false⟩

def base2 : Alphabet :=
  ⟨1, "01".toList, 8, false⟩

/-- The bits of a number, the one that counts most first. -/
def bitsOf (count n : Nat) : List Bool :=
  (List.range count).reverse.map n.testBit

/-- The number that bits are. -/
def numberOf (bits : List Bool) : Nat :=
  bits.foldl (fun n bit => 2 * n + bit.toNat) 0

/-- The parts of a list that have a size; what is left over is filled up. Fuel bounds their
    number. -/
def deal {α : Type} (size : Nat) (filler : α) : Nat → List α → List (List α)
  | 0, _ => []
  | _, [] => []
  | fuel + 1, xs =>
    let part := xs.take size
    (part ++ List.replicate (size - part.length) filler) :: deal size filler fuel (xs.drop size)

/-- Bytes in letters. -/
def encode (alphabet : Alphabet) (bytes : List UInt8) : List Char :=
  let bits := bytes.flatMap fun b => bitsOf 8 b.toNat
  let letters := (deal alphabet.bits false bits.length bits).map fun part =>
    alphabet.letters.getD (numberOf part) '='
  (deal alphabet.group '=' letters.length letters).flatten

/-- The bytes of a group, and whether it is as it should be. -/
def readGroup (alphabet : Alphabet) (group : List Char) : List UInt8 × Bool :=
  let known := group.takeWhile alphabet.letters.contains
  let isWhole := group.length == alphabet.group
  let bits := known.flatMap fun c => bitsOf alphabet.bits (alphabet.letters.idxOf c)
  let count := bits.length / 8
  let bytes := (deal 8 false count bits).map fun part => UInt8.ofNat (numberOf part)
  let least := (8 * count + alphabet.bits - 1) / alphabet.bits
  let isGood := isWhole && 0 < count && known.length == least &&
    (group.drop known.length).all (· == '=')
  (if isWhole || alphabet.readsParts then bytes else [], isGood)

/-- The bytes of letters, up to a group that is wrong, and whether there is none. -/
def decode (alphabet : Alphabet) : Nat → List Char → List UInt8 × Bool
  | 0, _ => ([], true)
  | _, [] => ([], true)
  | fuel + 1, letters =>
    let (bytes, isGood) := alphabet.readGroup (letters.take alphabet.group)
    if isGood then
      let (rest, isRestGood) := decode alphabet fuel (letters.drop alphabet.group)
      (bytes ++ rest, isRestGood)
    else (bytes, false)

/-- Letters on lines of a width; none is too long if the width is zero. -/
def wrapped (width : Nat) (letters : List Char) : String :=
  if width == 0 then String.ofList letters
  else
    unlines (cut letters.length letters)
where
  cut : Nat → List Char → List String
    | 0, _ => []
    | _, [] => []
    | fuel + 1, rest => String.ofList (rest.take width) :: cut fuel (rest.drop width)

end Alphabet

/-- The switches of the utilities of this module. -/
def encodingSwitches : List Switch :=
  [⟨'d', ["decode"], .never⟩, ⟨'i', ["ignore-garbage"], .never⟩, ⟨'w', ["wrap"], .always⟩]

/-- Writes the document of the operand in letters, or reads it back. -/
def encodeWith (name : String) (alphabet : Alphabet) (options : Options) : Run Nat := do
  let widths := options.values 'w'
  if let some wrong := widths.find? fun text => text.toNat?.isNone then
    report name ("invalid wrap size: " ++ quotedWord wrong)
    return 1
  let width := ((options.value? 'w').bind String.toNat?).getD 76
  if let _ :: second :: _ := options.operands then
    misused name ("extra operand " ++ quotedWord second)
    return 1
  let path := options.operands.head?.getD "-"
  let read ← if path == "-" then pure (.ok (← readStream 0)) else contents path
  match read with
  | .error fault =>
    report name ((if fault == .isADirectory then "read error" else shownName path) ++ ": " ++
      faultText fault)
    return 1
  | .ok document =>
    if !options.has 'd' then
      say (Alphabet.wrapped width (alphabet.encode document.toList))
      return 0
    let isKept (c : Char) : Bool :=
      if options.has 'i' then alphabet.letters.contains c || c == '=' else c != '\n'
    let letters := (Raw.ofBytes document).toList.filter isKept
    let (bytes, isGood) := alphabet.decode letters.length letters
    emit 1 ⟨bytes.toArray⟩
    if !isGood then report name "invalid input"
    return statusOf isGood

/-- The program that writes bytes in the letters of an alphabet. -/
def encodingProgram (alphabet : Alphabet) : Program :=
  Usage.program { switches := encodingSwitches } fun name options =>
    encodeWith name alphabet options

/-- The alphabets that can be asked for, each with a letter. -/
def alphabets : List (Char × String × Alphabet) := [
  ('\x03', "base64", .base64), ('\x04', "base64url", .base64url), ('\x05', "base32", .base32),
  ('\x06', "base32hex", .base32hex), ('\x07', "base16", .base16), ('\x08', "base2msbf", .base2)]

def anyEncoding : Program :=
  Usage.program {
    switches := encodingSwitches ++ alphabets.map fun (letter, word, _) =>
      ⟨letter, [word], .never⟩ } fun name options => do
    let chosen := options.switches.reverse.findSome? fun (letter, _) =>
      (alphabets.lookup letter).map (·.2)
    match chosen with
    | none =>
      misused name "missing encoding type"
      return 1
    | some alphabet => encodeWith name alphabet options

/-- The utilities of this module. -/
def encodingUtilities : List (String × Program) := [
  ("base64", encodingProgram .base64),
  ("base32", encodingProgram .base32),
  ("basenc", anyEncoding)]

end InfoFlow.Sandbox
