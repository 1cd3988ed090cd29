import InfoFlow.Text.Utf8

namespace InfoFlow.Sandbox.Raw

/-- The bytes of a document, each as the character of its code. Texts of programs are cut, compared
    and matched byte by byte. -/
def ofBytes (document : ByteArray) : String :=
  String.ofList (document.toList.map fun b => Char.ofNat b.toNat)

/-- The document that a text of bytes stands for. -/
def toBytes (raw : String) : ByteArray :=
  ⟨(raw.toList.map fun c => UInt8.ofNat c.toNat).toArray⟩

/-- The bytes of a text. -/
def ofText (text : String) : String :=
  ofBytes text.toUTF8

/-- The text that bytes stand for; what is faulty in it is replaced. -/
def toText (raw : String) : String :=
  Text.Utf8.lossy (toBytes raw)

/-- The lines of a text of bytes, without their ends, from the characters of the first one that have
    been seen. A last line that is not ended is a line too. -/
def splitLines (held : List Char) : List Char → List (List Char)
  | [] => if held.isEmpty then [] else [held.reverse]
  | '\n' :: rest => held.reverse :: splitLines [] rest
  | c :: rest => splitLines (c :: held) rest

/-- The lines of a text of bytes, without their ends. -/
def lines (raw : String) : List String :=
  (splitLines [] raw.toList).map String.ofList

/-- Cuts a text at each character of a kind. There is always one part more than there are cuts. -/
def splitAt (cuts : Char → Bool) (held : List Char) : List Char → List (List Char)
  | [] => [held.reverse]
  | c :: rest =>
    if cuts c then held.reverse :: splitAt cuts [] rest else splitAt cuts (c :: held) rest

/-- The parts of a text between the characters of a kind. -/
def parts (cuts : Char → Bool) (raw : String) : List String :=
  (splitAt cuts [] raw.toList).map String.ofList

end InfoFlow.Sandbox.Raw
