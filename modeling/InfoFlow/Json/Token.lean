import InfoFlow.Json.Numeral

namespace InfoFlow.Json

/-- A piece of what stands between quotes. -/
inductive Piece where
  | char (c : Char)
  /-- A unit of UTF-16, as `\u` and four digits write it. -/
  | unit (code : Nat)
  /-- A byte that is part of no character. -/
  | byte
deriving DecidableEq, Repr

/-- The value of a hexadecimal digit in either case. -/
def hexValue? (mark : Mark) : Option Nat := do
  let c ← mark
  if c.isDigit then some (c.toNat - '0'.toNat)
  else if 'a' ≤ c && c ≤ 'f' then some (c.toNat - 'a'.toNat + 10)
  else if 'A' ≤ c && c ≤ 'F' then some (c.toNat - 'A'.toNat + 10)
  else none

/-- The number of four hexadecimal digits. -/
def hexValue4? (a b c d : Mark) : Option Nat := do
  return (((← hexValue? a) * 16 + (← hexValue? b)) * 16 + (← hexValue? c)) * 16 + (← hexValue? d)

/-- The character that a letter stands for after a backslash. -/
def escapedBy? : Mark → Option Char
  | some '"' => some '"'
  | some '\\' => some '\\'
  | some '/' => some '/'
  | some 'b' => some '\x08'
  | some 'f' => some '\x0c'
  | some 'n' => some '\n'
  | some 'r' => some '\r'
  | some 't' => some '\t'
  | _ => none

/-- How many bytes a mark takes. -/
def Mark.size (mark : Mark) : Nat :=
  mark.elim 1 Char.utf8Size

/-- Fewer than four marks are left where four digits are due: the text ends, unless it has four
    bytes. -/
def shortEscape (rest : List Mark) : Stop :=
  if rest.foldl (fun size mark => size + mark.size) 0 < 4 then .truncated else .malformed

/-- A string after its opening quote: its pieces, and what follows its closing quote or why there
    is none. -/
structure Quoted where
  pieces : List Piece
  rest : Except Stop (List Mark)

/-- Puts a piece in front. -/
def Quoted.cons (piece : Piece) (quoted : Quoted) : Quoted :=
  { quoted with pieces := piece :: quoted.pieces }

/-- Reads a string after its opening quote. -/
def quoted : List Mark → Quoted
  | [] => ⟨[], .error .truncated⟩
  | some '"' :: rest => ⟨[], .ok rest⟩
  | some '\\' :: some 'u' :: a :: b :: c :: d :: rest =>
    match hexValue4? a b c d with
    | some code => (quoted rest).cons (.unit code)
    | none => ⟨[], .error .malformed⟩
  | some '\\' :: some 'u' :: rest => ⟨[], .error (shortEscape rest)⟩
  | some '\\' :: mark :: rest =>
    match escapedBy? mark with
    | some c => (quoted rest).cons (.char c)
    | none => ⟨[], .error .malformed⟩
  | [some '\\'] => ⟨[], .error .truncated⟩
  | some c :: rest => if c < ' ' then ⟨[], .error .malformed⟩ else (quoted rest).cons (.char c)
  | none :: rest => (quoted rest).cons .byte

/-- The text that pieces stand for. Units outside the surrogates are characters, a high surrogate
    and a low one after it are one, and other surrogates are malformed, wherever the string may
    end. Bytes that are part of no character are malformed only when the string has ended. -/
def textOf (ended : Except Stop Unit) : List Piece → Except Stop (List Char)
  | [] => ended.map fun _ => []
  | .char c :: rest => (textOf ended rest).map (c :: ·)
  | .byte :: rest => (textOf ended rest).bind fun _ => .error .malformed
  | [.unit code] =>
    if code < 0xd800 || 0xe000 ≤ code then (textOf ended []).map (Char.ofNat code :: ·)
    else if code < 0xdc00 then ended.bind fun _ => .error .malformed
    else .error .malformed
  | .unit code :: next :: rest =>
    if code < 0xd800 || 0xe000 ≤ code then (textOf ended (next :: rest)).map (Char.ofNat code :: ·)
    else
      match next with
      | .unit low =>
        if code < 0xdc00 && 0xdc00 ≤ low && low < 0xe000 then
          (textOf ended rest).map
            (Char.ofNat (0x10000 + (code - 0xd800) * 0x400 + (low - 0xdc00)) :: ·)
        else .error .malformed
      | _ => .error .malformed

/-- A value without parts. A skipped string may hold what is no text, and a skipped number may be
    out of range, so these keep what it takes to read them apart from what it takes to skip them. -/
inductive Scalar where
  | null
  | bool (b : Bool)
  /-- A number as it is written, and whether it is in range. -/
  | number (numeral : String) (inRange : Bool)
  /-- A string: the text or the fault that reading it gives, and whether it can be skipped. -/
  | text (read : Except Stop String) (skipped : Except Stop Unit)
  /-- A word that the end of the text cuts off. -/
  | cutWord
  /-- A number that the end of the text cuts off. -/
  | cutNumber

inductive Token where
  | openArray
  | closeArray
  | openObject
  | closeObject
  | comma
  | colon
  | scalar (s : Scalar)
  /-- Anything else; nothing after it is looked at. -/
  | stray

/-- The blanks between tokens. -/
def isBlank (mark : Mark) : Bool :=
  mark == some ' ' || mark == some '\n' || mark == some '\t' || mark == some '\r'

/-- What is left of a text after a word. -/
def afterWord : List Char → List Mark → Except Stop (List Mark)
  | [], rest => .ok rest
  | _ :: _, [] => .error .truncated
  | c :: word, mark :: rest => if mark = some c then afterWord word rest else .error .malformed

/-- The token of a word, after its first letter, and what follows it. -/
def wordToken (word : List Char) (scalar : Scalar) (rest : List Mark) : Token × List Mark :=
  match afterWord word rest with
  | .ok rest => (.scalar scalar, rest)
  | .error .truncated => (.scalar .cutWord, [])
  | .error .malformed => (.stray, [])

/-- The token of a number, and what follows it. The sign, if any, is given with the number. -/
def numberToken (sign : String) (text : List Mark) : Token × List Mark :=
  match readNumeral text with
  | .ok (inRange, rest) =>
    let digits := (text.take (text.length - rest.length)).filterMap id
    (.scalar (.number (sign ++ String.ofList digits) inRange), rest)
  | .error .truncated => (.scalar .cutNumber, [])
  | .error .malformed => (.stray, [])

/-- The token of a string, after its opening quote, and what follows it. -/
def stringToken (text : List Mark) : Token × List Mark :=
  let q := quoted text
  let ended := q.rest.map fun _ => ()
  (.scalar (.text ((textOf ended q.pieces).map String.ofList) ended), q.rest.toOption.getD [])

/-- The token that begins with a mark, and what follows it; nothing after a fault. -/
def tokenAt (mark : Mark) (rest : List Mark) : Token × List Mark :=
  match mark with
  | some '[' => (.openArray, rest)
  | some ']' => (.closeArray, rest)
  | some '\x7b' => (.openObject, rest)
  | some '\x7d' => (.closeObject, rest)
  | some ',' => (.comma, rest)
  | some ':' => (.colon, rest)
  | some '"' => stringToken rest
  | some 'n' => wordToken ['u', 'l', 'l'] .null rest
  | some 't' => wordToken ['r', 'u', 'e'] (.bool true) rest
  | some 'f' => wordToken ['a', 'l', 's', 'e'] (.bool false) rest
  | some '-' => numberToken "-" rest
  | some c => if c.isDigit then numberToken "" (some c :: rest) else (.stray, [])
  | none => (.stray, [])

theorem quoted_rest_length {text rest : List Mark} (h : (quoted text).rest = .ok rest) :
    rest.length ≤ text.length := by
  fun_induction quoted text with
  | case2 =>
    cases h
    exact Nat.le_succ _
  | case3 _ _ _ _ _ _ _ ih | case6 _ _ _ _ _ _ ih | case10 _ _ _ _ _ _ _ _ ih | case11 _ ih =>
    have hrest := ih h
    simp only [List.length_cons]
    omega
  | case1 | case4 | case5 | case7 | case8 | case9 => cases h

theorem afterWord_length {word : List Char} {text rest : List Mark}
    (h : afterWord word text = .ok rest) : rest.length ≤ text.length := by
  fun_induction afterWord word text with
  | case1 =>
    cases h
    exact Nat.le_refl _
  | case3 _ _ _ ih => exact Nat.le_succ_of_le (ih h)
  | case2 | case4 => cases h

theorem afterDigits_length (text : List Mark) : (afterDigits text).length ≤ text.length :=
  (List.dropWhile_suffix _).length_le

/-- Reading digits takes at least one. -/
theorem readDigits_length {text rest : List Mark} {digits : List Nat}
    (h : readDigits text = .ok (digits, rest)) : rest.length < text.length := by
  unfold readDigits at h
  split at h
  · cases h
  · rename_i hdigits
    cases h
    cases text with
    | nil => simp [leadingDigits] at hdigits
    | cons mark text =>
      by_cases hmark : mark.any Char.isDigit
      · have := afterDigits_length text
        simp only [afterDigits, List.dropWhile_cons, hmark, if_true, List.length_cons]
        simpa [afterDigits] using Nat.lt_succ_of_le this
      · simp [leadingDigits, hmark] at hdigits

theorem readFraction_length {text rest : List Mark} {fraction : Option (List Nat)}
    (h : readFraction text = .ok (fraction, rest)) : rest.length ≤ text.length := by
  unfold readFraction at h
  split at h
  · rename_i tail
    cases hdigits : readDigits tail with
    | error stop => simp [hdigits, Except.map] at h
    | ok result =>
      have := readDigits_length hdigits
      simp only [hdigits, Except.map, Except.ok.injEq, Prod.mk.injEq] at h
      simp only [← h.2, List.length_cons]
      omega
  · cases h
    exact Nat.le_refl _

theorem readSign_length (text : List Mark) : (readSign text).2.length ≤ text.length := by
  unfold readSign
  split <;> simp

theorem readExponent_length {text rest : List Mark} {exponent : Option Int}
    (h : readExponent text = .ok (exponent, rest)) : rest.length ≤ text.length := by
  have main {tail : List Mark}
      (h : ((readDigits (readSign tail).2).map fun found =>
        (some ((readSign tail).1 * ofDecimal found.1), found.2)) = .ok (exponent, rest)) :
      rest.length ≤ tail.length := by
    have hsign := readSign_length tail
    cases hdigits : readDigits (readSign tail).2 with
    | error stop => simp [hdigits, Except.map] at h
    | ok result =>
      have := readDigits_length hdigits
      simp only [hdigits, Except.map, Except.ok.injEq, Prod.mk.injEq] at h
      rw [← h.2]
      omega
  unfold readExponent at h
  split at h
  · exact Nat.le_succ_of_le (main h)
  · exact Nat.le_succ_of_le (main h)
  · cases h
    exact Nat.le_refl _

theorem readNumeral_length {text rest : List Mark} {inRange : Bool}
    (h : readNumeral text = .ok (inRange, rest)) : rest.length < text.length := by
  unfold readNumeral at h
  cases hwhole : readDigits text with
  | error stop => simp [hwhole, bind, Except.bind] at h
  | ok whole =>
    have hlt := readDigits_length hwhole
    simp only [hwhole, bind, Except.bind] at h
    split at h
    · cases h
    · cases hfraction : readFraction whole.2 with
      | error stop => simp [hfraction] at h
      | ok fraction =>
        have hle := readFraction_length hfraction
        simp only [hfraction, pure, Except.pure] at h
        cases hexponent : readExponent fraction.2 with
        | error stop => simp [hexponent] at h
        | ok exponent =>
          have hle' := readExponent_length hexponent
          simp only [hexponent, Except.ok.injEq, Prod.mk.injEq] at h
          rw [← h.2]
          omega

/-- A token takes at least the mark that it begins with. -/
theorem tokenAt_length (mark : Mark) (rest : List Mark) :
    (tokenAt mark rest).2.length ≤ rest.length := by
  have hword (word : List Char) (scalar : Scalar) :
      (wordToken word scalar rest).2.length ≤ rest.length := by
    unfold wordToken
    split
    · exact afterWord_length ‹_›
    · simp
    · simp
  unfold tokenAt
  split <;> try exact Nat.le_refl _
  · unfold stringToken
    cases hrest : (quoted rest).rest with
    | error stop => simp [Except.toOption, hrest]
    | ok tail => simpa [Except.toOption, hrest] using quoted_rest_length hrest
  · exact hword _ _
  · exact hword _ _
  · exact hword _ _
  · unfold numberToken
    split
    · exact Nat.le_of_lt (readNumeral_length ‹_›)
    · simp
    · simp
  · split
    · unfold numberToken
      split
      · exact Nat.le_of_lt_succ (readNumeral_length ‹_›)
      · simp
      · simp
    · simp
  · simp

/-- The tokens of a text. -/
def tokens (text : List Mark) : List Token :=
  match text with
  | [] => []
  | mark :: rest =>
    if isBlank mark then tokens rest
    else
      let t := tokenAt mark rest
      t.1 :: tokens t.2
termination_by text.length
decreasing_by
  · simp
  · have := tokenAt_length mark rest
    simp only [List.length_cons]
    omega

end InfoFlow.Json
