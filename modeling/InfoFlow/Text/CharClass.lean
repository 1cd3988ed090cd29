namespace InfoFlow.Text

/-- The characters with the Unicode property `White_Space`. -/
def isBlank (c : Char) : Bool :=
  let n := c.toNat
  (0x09 ≤ n && n ≤ 0x0d) || n == 0x20 || n == 0x85 || n == 0xa0 || n == 0x1680 ||
    (0x2000 ≤ n && n ≤ 0x200a) || n == 0x2028 || n == 0x2029 || n == 0x202f || n == 0x205f ||
    n == 0x3000

/-- The control characters: the first 32 codes, delete, and the 32 codes after delete. -/
def isControl (c : Char) : Bool :=
  let n := c.toNat
  n < 0x20 || (0x7f ≤ n && n < 0xa0)

/-- Text without the blanks at its two ends. -/
def trim (s : String) : String :=
  String.ofList (((s.toList.dropWhile isBlank).reverse.dropWhile isBlank).reverse)

/-- Cuts a text after each line feed. A line end is a line feed with at most one carriage return
    before it; a last line without a line feed is kept as it stands. -/
def splitLines (held : List Char) : List Char → List (List Char)
  | [] => if held.isEmpty then [] else [held.reverse]
  | '\n' :: rest =>
    match held with
    | '\r' :: line => line.reverse :: splitLines [] rest
    | line => line.reverse :: splitLines [] rest
  | c :: rest => splitLines (c :: held) rest

/-- The lines of a text, without their line ends. -/
def lines (s : String) : List String :=
  (splitLines [] s.toList).map String.ofList

end InfoFlow.Text
