import Mathlib.Data.List.Forall2
import InfoFlow.Json.Token
import InfoFlow.Json.Value

namespace InfoFlow.Json

/-- What the written form of a character is read as. Controls without a letter of their own are
    written as units of UTF-16. -/
def pieceOf (c : Char) : Piece :=
  if c.toNat < 0x20 ∧ c ∉ ['\x08', '\x0c', '\n', '\r', '\t'] then .unit c.toNat else .char c

theorem hexValue4?_hexDigit {n : Nat} (h : n < 0x20) :
    hexValue4? (some '0') (some '0') (some (hexDigit (n / 16))) (some (hexDigit (n % 16))) =
      some n := by
  decide +revert

/-- The written form of a character is one piece, whatever follows it. -/
theorem quoted_escaped (c : Char) (rest : List Mark) :
    quoted ((escaped c).map some ++ rest) = (quoted rest).cons (pieceOf c) := by
  unfold escaped
  split
  case h_8 hquote hbackslash hbackspace hfeed hline hreturn htab =>
    split
    · rename_i hcontrol
      have hpiece : pieceOf c = .unit c.toNat := by simp_all [pieceOf]
      simp only [List.map_cons, List.map_nil, List.cons_append, List.nil_append]
      rw [quoted, hexValue4?_hexDigit hcontrol, hpiece]
    · rename_i hcontrol
      have hpiece : pieceOf c = .char c := by simp_all [pieceOf]
      have hspace : ¬ c < ' ' := hcontrol
      simp only [List.map_cons, List.map_nil, List.cons_append, List.nil_append]
      rw [quoted, if_neg hspace, hpiece] <;> simp_all
  all_goals rfl

theorem quoted_flatMap_escaped (text : List Char) (rest : List Mark) :
    quoted ((text.flatMap escaped).map some ++ some '"' :: rest) =
      ⟨text.map pieceOf, .ok rest⟩ := by
  induction text with
  | nil => rfl
  | cons c text ih =>
    rw [List.flatMap_cons, List.map_append, List.append_assoc, quoted_escaped, ih]
    rfl

theorem textOf_cons_pieceOf (c : Char) (pieces : List Piece) :
    textOf (.ok ()) (pieceOf c :: pieces) = (textOf (.ok ()) pieces).map (c :: ·) := by
  unfold pieceOf
  split
  · rename_i hcontrol
    have hscalar : c.toNat < 0xd800 := by omega
    cases pieces with
    | nil => simp [textOf, hscalar, Char.ofNat_toNat]
    | cons next rest => cases next <;> simp [textOf, hscalar, Char.ofNat_toNat]
  · rw [textOf]

/-- The pieces of a text stand for the text. -/
theorem textOf_map_pieceOf (text : List Char) : textOf (.ok ()) (text.map pieceOf) = .ok text := by
  induction text with
  | nil => rfl
  | cons c text ih =>
    rw [List.map_cons, textOf_cons_pieceOf, ih]
    rfl

/-- A text that is read as the given tokens in front of any other text. -/
def Lexes (text : String) (ts : List Token) : Prop :=
  ∀ rest, tokens (text.toList.map some ++ rest) = ts ++ tokens rest

/-- The token of a string. -/
def Token.ofString (s : String) : Token :=
  .scalar (.text (.ok s) (.ok ()))

namespace Lexes

theorem append {s t : String} {ss ts : List Token} (hs : Lexes s ss) (ht : Lexes t ts) :
    Lexes (s ++ t) (ss ++ ts) := by
  intro rest
  rw [String.toList_append, List.map_append, List.append_assoc, hs, ht, List.append_assoc]

theorem tokens_eq {text : String} {ts : List Token} (h : Lexes text ts) :
    tokens (text.toList.map some) = ts := by
  have hend := h []
  simpa [tokens] using hend

/-- Blanks are no tokens. -/
theorem blanks (blank : List Char) (h : ∀ c ∈ blank, isBlank (some c) = true) :
    Lexes (String.ofList blank) [] := by
  intro rest
  rw [String.toList_ofList]
  induction blank with
  | nil => rfl
  | cons c blank ih =>
    obtain ⟨hc, hblank⟩ := List.forall_mem_cons.mp h
    rw [List.map_cons, List.cons_append, tokens, if_pos hc]
    exact ih hblank

/-- A text whose token is found from its first mark, without a look at what follows. -/
theorem token (c : Char) (text : List Char) {t : Token} (hc : isBlank (some c) = false)
    (h : ∀ rest, tokenAt (some c) (text.map some ++ rest) = (t, rest)) :
    Lexes (String.ofList (c :: text)) [t] := by
  intro rest
  rw [String.toList_ofList, List.map_cons, List.cons_append, tokens, hc,
    if_neg Bool.false_ne_true, h]
  rfl

theorem openArray : Lexes "[" [.openArray] :=
  token '[' [] rfl fun _ => rfl

theorem closeArray : Lexes "]" [.closeArray] :=
  token ']' [] rfl fun _ => rfl

theorem openObject : Lexes "\x7b" [.openObject] :=
  token '\x7b' [] rfl fun _ => rfl

theorem closeObject : Lexes "\x7d" [.closeObject] :=
  token '\x7d' [] rfl fun _ => rfl

theorem comma : Lexes "," [.comma] :=
  token ',' [] rfl fun _ => rfl

theorem colon : Lexes ":" [.colon] :=
  token ':' [] rfl fun _ => rfl

theorem colon_space : Lexes ": " [.colon] := by
  have hspace : Lexes " " [] := blanks [' '] (by simp [isBlank])
  exact colon.append hspace

theorem wordNull : Lexes "null" [.scalar .null] :=
  token 'n' ['u', 'l', 'l'] rfl fun _ => rfl

theorem wordTrue : Lexes "true" [.scalar (.bool true)] :=
  token 't' ['r', 'u', 'e'] rfl fun _ => rfl

theorem wordFalse : Lexes "false" [.scalar (.bool false)] :=
  token 'f' ['a', 'l', 's', 'e'] rfl fun _ => rfl

theorem string (s : String) : Lexes (stringText s) [.ofString s] := by
  refine token '"' (s.toList.flatMap escaped ++ ['"']) rfl fun rest => ?_
  have htoken : stringToken ((s.toList.flatMap escaped).map some ++ some '"' :: rest) =
      (.ofString s, rest) := by
    simp only [stringToken, quoted_flatMap_escaped, Except.map]
    rw [textOf_map_pieceOf]
    simp [Token.ofString, Except.toOption]
  simpa [tokenAt] using htoken

/-- Texts with a separator between them. -/
theorem intercalate {separator : String} {ss : List Token} (hseparator : Lexes separator ss)
    {parts : List String} {tss : List (List Token)} (h : List.Forall₂ Lexes parts tss) :
    Lexes (separator.intercalate parts) (ss.intercalate tss) := by
  induction h with
  | nil => exact fun _ => rfl
  | cons hfirst hrest ih =>
    cases hrest with
    | nil => simpa using hfirst
    | cons =>
      rw [String.intercalate_cons_cons, List.intercalate_cons_cons]
      exact (hfirst.append hseparator).append ih

theorem lineBreak (depth : Nat) : Lexes (lineBreak depth) [] := by
  have hindent : Lexes (String.ofList (List.replicate (2 * depth) ' ')) [] :=
    blanks _ fun c hc => List.eq_of_mem_replicate hc ▸ rfl
  have hline : Lexes "\n" [] := blanks ['\n'] (by simp [isBlank])
  exact hline.append hindent

end Lexes

namespace Value

mutual

/-- A value that contains no numbers. A number would need a mark behind it that ends it. -/
def Numberless : Value → Prop
  | .number _ => False
  | .array items => ItemsNumberless items
  | .object members => MembersNumberless members
  | _ => True

def ItemsNumberless : List Value → Prop
  | [] => True
  | item :: rest => item.Numberless ∧ ItemsNumberless rest

def MembersNumberless : List (String × Value) → Prop
  | [] => True
  | (_, value) :: rest => value.Numberless ∧ MembersNumberless rest

end

mutual

/-- The tokens of a value. -/
def tokens : Value → List Token
  | .null => [.scalar .null]
  | .bool b => [.scalar (.bool b)]
  | .number numeral => [.scalar (.number numeral true)]
  | .text s => [.ofString s]
  | .array items => .openArray :: [.comma].intercalate (itemTokens items) ++ [.closeArray]
  | .object members =>
    .openObject :: [.comma].intercalate (memberTokens members) ++ [.closeObject]

def itemTokens : List Value → List (List Token)
  | [] => []
  | item :: rest => item.tokens :: itemTokens rest

def memberTokens : List (String × Value) → List (List Token)
  | [] => []
  | (key, value) :: rest => (.ofString key :: .colon :: value.tokens) :: memberTokens rest

end

mutual

theorem lexes_compact (value : Value) (h : value.Numberless) :
    Lexes value.compact value.tokens := by
  cases value with
  | null => exact .wordNull
  | bool b =>
    cases b with
    | false => exact .wordFalse
    | true => exact .wordTrue
  | number numeral => exact h.elim
  | text s => exact .string s
  | array items =>
    exact (Lexes.openArray.append (.intercalate .comma (lexes_compactItems items h))).append
      .closeArray
  | object members =>
    exact (Lexes.openObject.append (.intercalate .comma (lexes_compactMembers members h))).append
      .closeObject

theorem lexes_compactItems (items : List Value) (h : ItemsNumberless items) :
    List.Forall₂ Lexes (compactItems items) (itemTokens items) := by
  cases items with
  | nil => exact .nil
  | cons item rest => exact .cons (lexes_compact item h.1) (lexes_compactItems rest h.2)

theorem lexes_compactMembers (members : List (String × Value)) (h : MembersNumberless members) :
    List.Forall₂ Lexes (compactMembers members) (memberTokens members) := by
  cases members with
  | nil => exact .nil
  | cons member rest =>
    exact .cons (((Lexes.string member.1).append .colon).append (lexes_compact member.2 h.1))
      (lexes_compactMembers rest h.2)

end

/-- Line breaks and indentation leave no tokens, so brackets hold the same as on one line. -/
theorem lexes_bracketed {depth : Nat} {opening closing : String} {first last : Token}
    (hopening : Lexes opening [first]) (hclosing : Lexes closing [last]) {parts : List String}
    {tss : List (List Token)} (h : List.Forall₂ Lexes parts tss) :
    Lexes (bracketed depth opening closing parts)
      (first :: [.comma].intercalate tss ++ [last]) := by
  unfold bracketed
  split
  · rename_i hparts
    obtain rfl := List.isEmpty_iff.mp hparts
    cases h
    exact hopening.append hclosing
  · have hseparator : Lexes ("," ++ lineBreak (depth + 1)) [.comma] :=
      Lexes.comma.append (.lineBreak _)
    have hinner := ((hopening.append (.lineBreak (depth + 1))).append (.intercalate hseparator h))
    simpa using (hinner.append (.lineBreak depth)).append hclosing

mutual

theorem lexes_prettyAt (depth : Nat) (value : Value) (h : value.Numberless) :
    Lexes (prettyAt depth value) value.tokens := by
  cases value with
  | null => exact .wordNull
  | bool b =>
    cases b with
    | false => exact .wordFalse
    | true => exact .wordTrue
  | number numeral => exact h.elim
  | text s => exact .string s
  | array items =>
    exact lexes_bracketed .openArray .closeArray (lexes_prettyItems (depth + 1) items h)
  | object members =>
    exact lexes_bracketed .openObject .closeObject (lexes_prettyMembers (depth + 1) members h)

theorem lexes_prettyItems (depth : Nat) (items : List Value) (h : ItemsNumberless items) :
    List.Forall₂ Lexes (prettyItems depth items) (itemTokens items) := by
  cases items with
  | nil => exact .nil
  | cons item rest => exact .cons (lexes_prettyAt depth item h.1) (lexes_prettyItems depth rest h.2)

theorem lexes_prettyMembers (depth : Nat) (members : List (String × Value))
    (h : MembersNumberless members) :
    List.Forall₂ Lexes (prettyMembers depth members) (memberTokens members) := by
  cases members with
  | nil => exact .nil
  | cons member rest =>
    exact .cons (((Lexes.string member.1).append .colon_space).append
      (lexes_prettyAt depth member.2 h.1)) (lexes_prettyMembers depth rest h.2)

end

end Value

end InfoFlow.Json
