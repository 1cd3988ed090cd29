import InfoFlow.Text.Unprintable

namespace InfoFlow.Text

/-- The code of a character in lower-case hexadecimal digits, without leading zeros. -/
def hexDigits (n : Nat) : List Char :=
  Nat.toDigits 16 n

/-- How one character is written between quotes, as error messages show it. Quotes and backslashes
    get a backslash, four controls have letters of their own, and every other character that a
    reader could not see is written by its code. -/
def quotedChar (c : Char) : List Char :=
  match c with
  | '\x00' => ['\\', '0']
  | '\t' => ['\\', 't']
  | '\n' => ['\\', 'n']
  | '\r' => ['\\', 'r']
  | '"' => ['\\', '"']
  | '\\' => ['\\', '\\']
  | c => if isUnprintable c then '\\' :: 'u' :: '{' :: hexDigits c.toNat ++ ['}'] else [c]

/-- The text between quotes, with the characters that need it escaped. -/
def quoted (s : String) : String :=
  String.ofList ('"' :: s.toList.flatMap quotedChar ++ ['"'])

end InfoFlow.Text
