import InfoFlow.Sandbox.Digest
import InfoFlow.Sandbox.Utility.Reading

namespace InfoFlow.Sandbox

namespace Sums

/-- What is written of a document. -/
inductive Algorithm where
  /-- A digest, with the name under which it is known. -/
  | digest (tag : String) (size : Nat) (apply : List UInt8 → List UInt8)
  /-- A digest of any length. -/
  | free (size : Nat)
  | crc
  | turning
  | plain

/-- The digests of a fixed length, by the names of their algorithms. -/
def digests : List (String × Algorithm) := [
  ("md5", .digest "MD5" 16 Digest.md5), ("sha1", .digest "SHA1" 20 Digest.sha1),
  ("sha224", .digest "SHA224" 28 Digest.sha224), ("sha256", .digest "SHA256" 32 Digest.sha256),
  ("sha384", .digest "SHA384" 48 Digest.sha384), ("sha512", .digest "SHA512" 64 Digest.sha512)]

/-- The algorithms, by their names. -/
def algorithms : List (String × Algorithm) :=
  [("bsd", .turning), ("sysv", .plain), ("crc", .crc)] ++ digests ++ [("blake2b", .free 64)]

/-- The name of an algorithm in front of what it gives. -/
def Algorithm.tag : Algorithm → String
  | .digest tag .. => tag
  | .free size => "BLAKE2b" ++ if size == 64 then "" else "-" ++ toString (8 * size)
  | .crc => "CRC"
  | .turning => "BSD"
  | .plain => "SYSV"

/-- The bytes of a digest. -/
def Algorithm.apply (algorithm : Algorithm) (document : ByteArray) : List UInt8 :=
  match algorithm with
  | .digest _ _ apply => apply document.toList
  | .free size => Digest.blake2b size document.toList
  | .crc => Digest.Order.big.bytes 4 (Digest.crc document.toList)
  | .turning => Digest.Order.big.bytes 2 (Digest.turningSum document.toList)
  | .plain => Digest.Order.big.bytes 2 (Digest.plainSum document.toList)

/-- Whether an algorithm gives a number, which stands beside a size. -/
def Algorithm.isNumber : Algorithm → Bool
  | .digest .. | .free _ => false
  | .crc | .turning | .plain => true

/-- Bytes in digits of base 16. -/
def hexText (bytes : List UInt8) : String :=
  String.ofList (bytes.flatMap fun b => [Nat.digitChar (b.toNat / 16), Nat.digitChar (b.toNat % 16)])

/-- How the digests are written or checked. -/
structure Wish where
  algorithm : Algorithm
  /-- Whether the algorithm follows from the lines that are checked. -/
  isOpen : Bool := false
  isTagged : Bool := false
  isBinary : Bool := false
  isRaw : Bool := false
  endsInZero : Bool := false
  checks : Bool := false
  ignoresMissing : Bool := false
  isQuiet : Bool := false
  isSilent : Bool := false
  isStrict : Bool := false
  warns : Bool := false

/-- Whether a name needs escapes to stand on a line. -/
def needsEscape (name : String) : Bool :=
  name.toList.any fun c => c == '\\' || c == '\n' || c == '\r'

/-- A name with escapes for what cannot stand on a line. -/
def escapedName (name : String) : String :=
  String.ofList (name.toList.flatMap fun c =>
    match c with
    | '\\' => ['\\', '\\']
    | '\n' => ['\\', 'n']
    | '\r' => ['\\', 'r']
    | c => [c])

/-- The name that escapes stand for. -/
def unescapedName? : List Char → Option (List Char)
  | [] => some []
  | '\\' :: '\\' :: rest => (unescapedName? rest).map ('\\' :: ·)
  | '\\' :: 'n' :: rest => (unescapedName? rest).map ('\n' :: ·)
  | '\\' :: 'r' :: rest => (unescapedName? rest).map ('\r' :: ·)
  | '\\' :: _ => none
  | c :: rest => (unescapedName? rest).map (c :: ·)

/-- A name as the checks tell it. -/
def checkedName (name : String) : String :=
  if needsEscape name then "\\" ++ escapedName name else name

/-- The line of a document. -/
def Wish.line (wish : Wish) (isNamed : Bool) (name : String) (document : ByteArray) : String :=
  let blocks (size : Nat) : Nat := (document.size + size - 1) / size
  let named (text : String) : String := if isNamed then text ++ " " ++ name else text
  let ended (text : String) : String := text ++ if wish.endsInZero then "\x00" else "\n"
  let bytes := wish.algorithm.apply document
  if wish.isRaw then Raw.ofBytes ⟨bytes.toArray⟩
  else
    let n := Digest.Order.big.number bytes
    match wish.algorithm with
    | .crc => ended (named (toString n ++ " " ++ toString document.size))
    | .turning =>
      let digits := toString n
      let zeros := String.ofList (List.replicate (5 - digits.length) '0')
      ended (named (zeros ++ digits ++ " " ++ column 5 (blocks 1024)))
    | .plain => ended (named (toString n ++ " " ++ toString (blocks 512)))
    | algorithm =>
      let isEscaped := !wish.endsInZero && needsEscape name
      let shown := if isEscaped then escapedName name else name
      let body :=
        if wish.isTagged then algorithm.tag ++ " (" ++ shown ++ ") = " ++ hexText bytes
        else hexText bytes ++ " " ++ (if wish.isBinary then "*" else " ") ++ shown
      ended ((if isEscaped then "\\" else "") ++ body)

def isBlank (c : Char) : Bool :=
  c == ' ' || c == '\t'

def isHexDigit (c : Char) : Bool :=
  c.isDigit || ('a' ≤ c && c ≤ 'f') || ('A' ≤ c && c ≤ 'F')

/-- A line that was read: the algorithm, the digest, and the name. -/
structure Entry where
  algorithm : Algorithm
  digits : List Char
  name : String

/-- Whether some digits are as many as an algorithm gives. -/
def Algorithm.hasDigits (algorithm : Algorithm) (digits : List Char) : Bool :=
  let size :=
    match algorithm with
    | .digest _ size _ | .free size => size
    | _ => 0
  digits.length == 2 * size && digits.all isHexDigit

/-- An algorithm whose name a text begins with, and what follows the name. -/
def tagged? (text : List Char) (algorithm : Algorithm) : Option (Algorithm × List Char) :=
  match algorithm with
  | .digest tag .. =>
    if tag.toList.isPrefixOf text then some (algorithm, text.drop tag.length) else none
  | .free _ =>
    let rest := text.drop "BLAKE2b".length
    if !"BLAKE2b".toList.isPrefixOf text then none
    else
      match rest with
      | '-' :: rest =>
        let digits := rest.takeWhile Char.isDigit
        let n := (String.ofList digits).toNat?.getD 0
        if 0 < n && n ≤ 512 && n % 8 == 0 then some (.free (n / 8), rest.drop digits.length)
        else none
      | rest => some (.free 64, rest)
  | _ => none

/-- A line with a name in brackets, from the bracket on. -/
def bracketed? (algorithm : Algorithm) (isEscaped : Bool) (text : List Char) : Option Entry := do
  let text := match text with | ' ' :: rest => rest | text => text
  let '(' :: inner := text | none
  let reversed := inner.reverse
  let after := (reversed.takeWhile (· != ')')).reverse
  let ')' :: name := reversed.dropWhile (· != ')') | none
  let name ← if isEscaped then unescapedName? name.reverse else some name.reverse
  let '=' :: digits := after.dropWhile isBlank | none
  let digits := digits.dropWhile isBlank
  if algorithm.hasDigits digits then return ⟨algorithm, digits, String.ofList name⟩ else none

/-- How the names of untagged lines begin: after one blank, or after a blank and a sign. -/
inductive Layout where
  | plain
  | signed
deriving DecidableEq

/-- A line that begins with a digest. All of them have to be laid out in the same way. -/
def untagged? (algorithm : Algorithm) (layout : Option Layout) (isEscaped : Bool)
    (text : List Char) : Option (Entry × Layout) := do
  let digits := text.takeWhile isHexDigit
  let algorithm := match algorithm with | .free _ => Algorithm.free (digits.length / 2) | a => a
  let blank :: rest := text.drop digits.length | none
  if !isBlank blank || !algorithm.hasDigits digits || digits.isEmpty || digits.length > 128 then none
  else
    let isPlain := rest.length == 1 || !(rest.head? == some ' ' || rest.head? == some '*')
    let (name, layout) ←
      if isPlain then
        if layout == some .signed then none else some (rest, Layout.plain)
      else if layout == some .plain then some (rest, Layout.plain)
      else some (rest.drop 1, Layout.signed)
    let name ← if isEscaped then unescapedName? name else some name
    return (⟨algorithm, digits, String.ofList name⟩, layout)

/-- What a line says. -/
def Wish.entry? (wish : Wish) (layout : Option Layout) (line : List Char) :
    Option (Entry × Option Layout) := do
  let text := line.dropWhile isBlank
  let (isEscaped, text) :=
    match text with
    | '\\' :: rest => (true, rest)
    | text => (false, text)
  if wish.isOpen then
    let known := (digests ++ [("blake2b", Algorithm.free 64)]).map (·.2)
    let (algorithm, rest) ← known.findSome? (tagged? text)
    return (← bracketed? algorithm isEscaped rest, layout)
  else
    match tagged? text wish.algorithm with
    | some (algorithm, rest) => return (← bracketed? algorithm isEscaped rest, layout)
    | none =>
      let (entry, layout) ← untagged? wish.algorithm layout isEscaped text
      return (entry, some layout)

/-- The document of an operand. -/
def documentOf (name : String) : Run (Except IoFault ByteArray) := do
  if name == "-" then return .ok (← readStream 0) else contents name

/-- What was found by checking. -/
structure Tally where
  layout : Option Layout := none
  misformed : Nat := 0
  unread : Nat := 0
  wrong : Nat := 0
  right : Nat := 0
  /-- Whether there was a line that says something. -/
  hasEntry : Bool := false

/-- Checks a document against an entry. -/
def checkEntry (utility : String) (wish : Wish) (tally : Tally) (entry : Entry) : Run Tally := do
  let tally := { tally with hasEntry := true }
  match ← documentOf entry.name with
  | .error .notFound =>
    if wish.ignoresMissing then return tally
    unread .notFound tally
  | .error fault => unread fault tally
  | .ok document =>
    let isRight := hexText (entry.algorithm.apply document) ==
      String.ofList (entry.digits.map Char.toLower)
    if !wish.isSilent && !(isRight && wish.isQuiet) then
      say (checkedName entry.name ++ if isRight then ": OK\n" else ": FAILED\n")
    return if isRight then { tally with right := tally.right + 1 }
      else { tally with wrong := tally.wrong + 1 }
where
  unread (fault : IoFault) (tally : Tally) : Run Tally := do
    report utility (shownName entry.name ++ ": " ++ faultText fault)
    if !wish.isSilent then say (checkedName entry.name ++ ": FAILED open or read\n")
    return { tally with unread := tally.unread + 1 }

/-- A number of things, for a message. -/
def counted (n : Nat) (one many : String) : String :=
  "WARNING: " ++ toString n ++ " " ++ if n == 1 then one else many

/-- Checks what a document says. -/
def check (utility : String) (wish : Wish) (path : String) : Run Bool := do
  let (shown, read) :=
    if path == "-" then (shownName "standard input", documentOf path)
    else (shownName path, documentOf path)
  match ← read with
  | .error .isADirectory =>
    report utility (shown ++ ": read error")
    return false
  | .error fault =>
    report utility (shown ++ ": " ++ faultText fault)
    return false
  | .ok document =>
    let lines := Raw.splitLines [] (Raw.ofBytes document).toList
    let (tally, _) ← lines.foldlM (fun ((tally, n) : Tally × Nat) line => do
      let line := if line.getLast? == some '\r' then line.dropLast else line
      if line.isEmpty || line.head? == some '#' then return (tally, n + 1)
      match wish.entry? tally.layout line with
      | some (entry, layout) =>
        if path == "-" && entry.name == "-" then misformed n tally
        else return (← checkEntry utility wish { tally with layout } entry, n + 1)
      | none => misformed n tally) (({}, 1) : Tally × Nat)
    if !tally.hasEntry then report utility (shown ++ ": no properly formatted checksum lines found")
    else if !wish.isSilent then
      if tally.misformed != 0 then
        report utility (counted tally.misformed "line is improperly formatted"
          "lines are improperly formatted")
      if tally.unread != 0 then
        report utility (counted tally.unread "listed file could not be read"
          "listed files could not be read")
      if tally.wrong != 0 then
        report utility (counted tally.wrong "computed checksum did NOT match"
          "computed checksums did NOT match")
      if wish.ignoresMissing && tally.right == 0 then
        report utility (shown ++ ": no file was verified")
    return tally.hasEntry && tally.right != 0 && tally.wrong == 0 && tally.unread == 0 &&
      !(wish.isStrict && tally.misformed != 0)
where
  misformed (n : Nat) (tally : Tally) : Run (Tally × Nat) := do
    if wish.warns then
      report utility (shownName path ++ ": " ++ toString n ++ ": improperly formatted " ++
        wish.algorithm.tag ++ " checksum line")
    return ({ tally with misformed := tally.misformed + 1 }, n + 1)

/-- Writes the digests of some operands, or checks what they say. -/
def run (utility : String) (wish : Wish) (operands : List String) : Run Nat := do
  let isNamed := !operands.isEmpty
  let operands := if operands.isEmpty then ["-"] else operands
  let isGood ← operands.foldlM (fun isGood path => do
    if wish.checks then
      let isRight ← check utility wish path
      return isGood && isRight
    else
      match ← documentOf path with
      | .ok document =>
        say (wish.line isNamed path document)
        return isGood
      | .error fault =>
        report utility (shownName path ++ ": " ++ faultText fault)
        return false) true
  return statusOf isGood

/-- The switches of all programs that check digests. -/
def switches : List Switch := [
  ⟨'b', ["binary"], .never⟩, ⟨'c', ["check"], .never⟩, ⟨'t', ["text"], .never⟩,
  ⟨'w', ["warn"], .never⟩, ⟨'z', ["zero"], .never⟩, ⟨'\x03', ["ignore-missing"], .never⟩,
  ⟨'\x04', ["quiet"], .never⟩, ⟨'\x05', ["status"], .never⟩, ⟨'\x06', ["strict"], .never⟩,
  ⟨'\x07', ["tag"], .never⟩]

/-- The last of some switches that is given. -/
def lastSwitch? (options : Options) (among : List Char) : Option Char :=
  (options.switches.reverse.find? fun (letter, _) => among.contains letter).map (·.1)

/-- What the switches wish, or why they cannot all be given. -/
def Wish.ofOptions (wish : Wish) (options : Options) : Except String Wish := do
  let mode := lastSwitch? options ['b', 't', '\x07']
  let isTagged := wish.isTagged || options.has '\x07'
  let checks := options.has 'c'
  let level := lastSwitch? options ['w', '\x04', '\x05']
  let whenChecking (isGiven : Bool) (word : String) : Except String Unit :=
    if isGiven && !checks then
      .error ("the --" ++ word ++ " option is meaningful only when verifying checksums")
    else .ok ()
  if isTagged && mode == some 't' then throw "--tag does not support --text mode"
  if checks then
    if options.has 'z' then
      throw "the --zero option is not supported when verifying checksums"
    if options.has '\x07' then throw "the --tag option is meaningless when verifying checksums"
    if mode.isSome then
      throw "the --binary and --text options are meaningless when verifying checksums"
  whenChecking (options.has '\x03') "ignore-missing"
  whenChecking (level == some '\x05') "status"
  whenChecking (level == some 'w') "warn"
  whenChecking (level == some '\x04') "quiet"
  whenChecking (options.has '\x06') "strict"
  return { wish with
    isTagged, checks
    isBinary := mode == some 'b'
    endsInZero := options.has 'z'
    ignoresMissing := options.has '\x03'
    isQuiet := level == some '\x04'
    isSilent := level == some '\x05'
    isStrict := options.has '\x06'
    warns := level == some 'w' }

/-- Runs a program with what its switches wish. -/
def runWith (utility : String) (wish : Wish) (options : Options) : Run Nat := do
  match wish.ofOptions options with
  | .error message =>
    misused utility message
    return 1
  | .ok wish =>
    if wish.isRaw && options.operands.length > 1 then
      report utility "the --raw option is not supported with multiple files"
      return 1
    run utility wish options.operands

/-- The size that a length in bits is. -/
def sizeOfLength (text : String) : Except (List String) Nat :=
  match text.toNat? with
  | none => .error ["invalid length: " ++ quotedWord text]
  | some n =>
    if n > 512 then
      .error ["invalid length: " ++ quotedWord text,
        "maximum digest length for 'BLAKE2b' is 512 bits"]
    else if n % 8 != 0 then
      .error ["invalid length: " ++ quotedWord text, "length is not a multiple of 8"]
    else .ok (if n == 0 then 64 else n / 8)

end Sums

open Sums in
/-- A program that writes digests of one kind. -/
def digestProgram (algorithm : Algorithm) : Program :=
  Usage.program { switches } fun name options => runWith name { algorithm } options

open Sums in
/-- The program that writes digests of a length that can be chosen. -/
def freeDigests : Program :=
  Usage.program { switches := ⟨'l', ["length"], .always⟩ :: switches } fun name options => do
    match sizeOfLength ((options.value? 'l').getD "0") with
    | .error messages =>
      messages.forM (report name)
      return 1
    | .ok size => runWith name { algorithm := .free size } options

open Sums in
/-- The program that writes sums of the kind that is asked for. -/
def anyDigests : Program :=
  Usage.program {
    switches := switches ++ [⟨'a', ["algorithm"], .always⟩, ⟨'l', ["length"], .always⟩,
      ⟨'\x08', ["raw"], .never⟩, ⟨'\x0e', ["untagged"], .never⟩,
      ⟨'\x0f', ["debug"], .never⟩] } fun name options => do
    let chosen := (options.value? 'a').getD "crc"
    match algorithms.lookup chosen with
    | none =>
      report name ("invalid argument " ++ quotedWord chosen ++ " for '--algorithm'\n" ++
        "Valid arguments are:\n" ++
        String.join ((algorithms.map (·.1) ++ ["sm3"]).map fun word => "  - '" ++ word ++ "'\n") ++
        "Try '" ++ name ++ " --help' for more information.")
      return 1
    | some algorithm =>
      let isFree := match algorithm with | .free _ => true | _ => false
      if (options.value? 'l').isSome && !isFree then
        report name "--length is only supported with --algorithm=blake2b"
        return 1
      match sizeOfLength ((options.value? 'l').getD "0") with
      | .error messages =>
        messages.forM (report name)
        return 1
      | .ok size =>
        let algorithm := if isFree then .free size else algorithm
        if algorithm.isNumber && options.has 'c' && (options.value? 'a').isSome then
          report name "--check is not supported with --algorithm=\x7bbsd,sysv,crc\x7d"
          return 1
        runWith name {
          algorithm
          isOpen := (options.value? 'a').isNone
          isTagged := lastSwitch? options ['\x07', '\x0e'] != some '\x0e'
          isRaw := options.has '\x08' } options

open Sums in
/-- The program that writes the sums of the bytes of documents. -/
def byteSums : Program :=
  Usage.program { switches := [⟨'r', [], .never⟩, ⟨'s', ["sysv"], .never⟩] } fun name options =>
    let algorithm : Algorithm :=
      if lastSwitch? options ['r', 's'] == some 's' then .plain else .turning
    run name { algorithm } options.operands

/-- The utilities of this module. -/
def sumUtilities : List (String × Program) :=
  Sums.digests.map (fun (name, algorithm) => (name ++ "sum", digestProgram algorithm)) ++
    [("b2sum", freeDigests), ("cksum", anyDigests), ("sum", byteSums)]

end InfoFlow.Sandbox
