namespace InfoFlow.Sandbox

/-- The letters that stand for some characters after a backslash. -/
def escapeLetters : List (Char × Char) :=
  [('\x07', 'a'), ('\x08', 'b'), ('\t', 't'), ('\n', 'n'), ('\x0b', 'v'), ('\x0c', 'f'), ('\r', 'r')]

/-- Whether a character cannot be shown as it is. -/
def isUnseen (c : Char) : Bool :=
  c.toNat < 32 || 126 < c.toNat

/-- What is shown of a character that cannot be shown as it is. -/
def escapedChar (c : Char) : List Char :=
  match escapeLetters.lookup c with
  | some d => ['\\', d]
  | none =>
    let digits := Nat.toDigits 8 c.toNat
    '\\' :: List.replicate (3 - digits.length) '0' ++ digits

/-- Whether a name needs quotes to stand for itself as a word of a command. -/
def needsQuotes (name : String) : Bool :=
  let chars := name.toList
  chars.isEmpty || chars == ['\x7b'] || chars == ['\x7d'] ||
    chars.head? == some '#' || chars.head? == some '~' ||
    chars.any fun c => isUnseen c || " !\"$&'()*;<=>?[\\^\x60|".toList.contains c

/-- Whether a character may stand beside an apostrophe in double quotes. -/
def isPlainInQuotes (c : Char) : Bool :=
  c.isAlphanum || " %+,-./:]_@'".toList.contains c

/-- A text between apostrophes; `isOpen` tells whether what is written last stands in quotes of the
    kind that has escapes. -/
def quotedChars (isOpen : Bool) : List Char → List Char
  | [] => ['\'']
  | c :: rest =>
    if isUnseen c then
      (if isOpen then [] else ['\'', '$', '\'']) ++ escapedChar c ++ quotedChars true rest
    else if c == '\'' then ['\'', '\\', '\'', '\''] ++ quotedChars false rest
    else (if isOpen then ['\'', '\''] else []) ++ c :: quotedChars false rest

/-- A name in quotes. -/
def quotedName (name : String) : String :=
  let chars := name.toList
  let isPlain : Bool :=
    match chars with
    | [] => true
    | c :: rest => (isPlainInQuotes c || c == '#' || c == '~') && rest.all isPlainInQuotes
  if chars.contains '\'' && isPlain then "\"" ++ name ++ "\""
  else String.ofList ('\'' :: quotedChars false chars)

/-- A text as a word of a command: in quotes if it needs them. -/
def argumentWord (text : String) : String :=
  if needsQuotes text then quotedName text else text

/-- A name as it is shown in a report: in quotes if it needs them or holds a colon. -/
def shownName (name : String) : String :=
  if needsQuotes name || name.toList.contains ':' then quotedName name else name

/-- A word of a message in plain quotes. -/
def quotedWord (word : String) : String :=
  let shown (c : Char) : List Char :=
    if c == '\'' || c == '\\' then ['\\', c] else if isUnseen c then escapedChar c else [c]
  String.ofList ('\'' :: word.toList.flatMap shown ++ ['\''])

end InfoFlow.Sandbox
