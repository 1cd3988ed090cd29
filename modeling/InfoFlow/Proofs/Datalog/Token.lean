import Mathlib.Data.Option.Basic
import Mathlib.Data.List.TakeWhile
import InfoFlow.Datalog.Atom

namespace InfoFlow.Datalog

/-- A smallest unit of rule text. -/
inductive Token where
  | name (text : String)
  | quoted (text : String)
  /-- The sign between the head and the condition of a rule. -/
  | arrow
  | mark (c : Char)
deriving DecidableEq, Repr

/-- The characters of names. -/
def isNameChar (c : Char) : Bool :=
  c.isAlphanum || c == '_'

/-- The marks that have a meaning of their own. -/
def isMark (c : Char) : Bool :=
  ['(', ')', ',', ';', '!', '.', ':'].contains c

/-- The tokens of a text, if it consists of nothing else, blanks and comments apart. Texts stand
    between quotes without escapes, and a comment runs to the end of its line. -/
def tokens (text : List Char) : Option (List Token) :=
  match text with
  | [] => some []
  | '/' :: '/' :: rest => tokens (rest.dropWhile (· != '\n'))
  | ':' :: '-' :: rest => (tokens rest).map (Token.arrow :: ·)
  | '"' :: rest =>
    match _ : rest.dropWhile (· != '"') with
    | [] => none
    | _ :: more =>
      (tokens more).map (Token.quoted (String.ofList (rest.takeWhile (· != '"'))) :: ·)
  | c :: rest =>
    if c.isWhitespace then tokens rest
    else if isNameChar c then
      (tokens (rest.dropWhile isNameChar)).map
        (Token.name (String.ofList (c :: rest.takeWhile isNameChar)) :: ·)
    else if isMark c then (tokens rest).map (Token.mark c :: ·)
    else none
termination_by text.length
decreasing_by
  · have := (rest.dropWhile_suffix (· != '\n')).length_le
    simp only [List.length_cons]
    omega
  · simp only [List.length_cons]
    omega
  · rename_i h
    have := (rest.dropWhile_suffix (· != '"')).length_le
    simp [h] at this ⊢
    omega
  · simp
  · have := (rest.dropWhile_suffix isNameChar).length_le
    simp only [List.length_cons]
    omega
  · simp

/-- A text that is read as the given tokens in front of any other text. -/
def Lexes (text : List Char) (ts : List Token) : Prop :=
  ∀ rest, tokens (text ++ rest) = (tokens rest).map (ts ++ ·)

namespace Lexes

theorem nil : Lexes [] [] := by
  intro rest
  simp

theorem append {s t : List Char} {ss ts : List Token} (hs : Lexes s ss) (ht : Lexes t ts) :
    Lexes (s ++ t) (ss ++ ts) := by
  intro rest
  rw [List.append_assoc, hs, ht, Option.map_map]
  congr 1
  funext us
  simp

theorem tokens_eq {text : List Char} {ts : List Token} (h : Lexes text ts) :
    tokens text = some ts := by
  have hend := h []
  simpa [tokens] using hend

/-- Blanks separate tokens and are no tokens themselves. -/
theorem blank {c : Char} (hc : c.isWhitespace = true) : Lexes [c] [] := by
  intro rest
  have hslash : c ≠ '/' := by rintro rfl; simp at hc
  have hcolon : c ≠ ':' := by rintro rfl; simp at hc
  have hquote : c ≠ '"' := by rintro rfl; simp at hc
  rw [List.singleton_append, tokens, if_pos hc] <;> simp_all

/-- A mark is a token wherever it stands. The colon is left out: with a dash behind it, it is the
    beginning of an arrow. -/
theorem mark {c : Char} (hmark : isMark c = true) (hcolon : c ≠ ':') : Lexes [c] [.mark c] := by
  intro rest
  have hslash : c ≠ '/' := by rintro rfl; simp [isMark] at hmark
  have hquote : c ≠ '"' := by rintro rfl; simp [isMark] at hmark
  have hplain : c.isWhitespace = false ∧ isNameChar c = false := by
    simp only [isMark, List.contains_eq_mem, List.mem_cons, List.not_mem_nil, or_false,
      decide_eq_true_eq] at hmark
    rcases hmark with rfl | rfl | rfl | rfl | rfl | rfl | rfl <;> decide
  rw [List.singleton_append, tokens, hplain.1, hplain.2, if_neg Bool.false_ne_true,
    if_neg Bool.false_ne_true, if_pos hmark] <;> simp_all

theorem opening : Lexes ['('] [.mark '('] :=
  mark (by decide) (by decide)

theorem closing : Lexes [')'] [.mark ')'] :=
  mark (by decide) (by decide)

theorem comma : Lexes [','] [.mark ','] :=
  mark (by decide) (by decide)

theorem dot : Lexes ['.'] [.mark '.'] :=
  mark (by decide) (by decide)

theorem space : Lexes [' '] [] :=
  blank (by decide)

theorem colon_blank : Lexes [':', ' '] [.mark ':'] := by
  intro rest
  have hblank := space rest
  simp_all [tokens, isNameChar, isMark]

theorem arrow : Lexes [':', '-'] [.arrow] := by
  intro rest
  simp [tokens]

/-- A name ends where a character follows that no name contains. -/
theorem name_append {name text : List Char} {ts : List Token} (hne : name ≠ [])
    (hname : ∀ c ∈ name, isNameChar c = true) (hfollow : ∃ c more, text = c :: more ∧
      isNameChar c = false) (htext : Lexes text ts) :
    Lexes (name ++ text) (.name (String.ofList name) :: ts) := by
  obtain ⟨first, more, rfl⟩ := List.exists_cons_of_ne_nil hne
  obtain ⟨c, tail, rfl, hc⟩ := hfollow
  intro rest
  have hfirst := hname first (by simp)
  have hmore : ∀ c ∈ more, isNameChar c = true := fun c h => hname c (by simp [h])
  have hblank : first.isWhitespace = false := by
    by_contra h
    simp only [Bool.not_eq_false, Char.isWhitespace, Bool.or_eq_true, decide_eq_true_eq] at h
    rcases h with ((rfl | rfl) | rfl) | rfl <;> simp [isNameChar] at hfirst
  have hslash : first ≠ '/' := by rintro rfl; simp [isNameChar] at hfirst
  have hcolon : first ≠ ':' := by rintro rfl; simp [isNameChar] at hfirst
  have hquote : first ≠ '"' := by rintro rfl; simp [isNameChar] at hfirst
  have htake : (more ++ (c :: tail ++ rest)).takeWhile isNameChar = more := by
    rw [List.takeWhile_append_of_pos hmore]
    simp [hc]
  have hdrop : (more ++ (c :: tail ++ rest)).dropWhile isNameChar = c :: tail ++ rest := by
    rw [List.dropWhile_append_of_pos hmore]
    simp [hc]
  rw [List.append_assoc, List.cons_append, tokens, hblank, if_neg Bool.false_ne_true,
    if_pos hfirst, htake, hdrop, htext, Option.map_map]
  · rfl
  all_goals simp_all

/-- A text between quotes is one token, whatever it consists of besides quotes. -/
theorem quoted {text : List Char} (htext : '"' ∉ text) :
    Lexes ('"' :: text ++ ['"']) [.quoted (String.ofList text)] := by
  intro rest
  have hall : ∀ c ∈ text, (c != '"') = true := by
    intro c hc
    simp only [bne_iff_ne, ne_eq]
    rintro rfl
    exact htext hc
  have htake : (text ++ '"' :: rest).takeWhile (· != '"') = text := by
    rw [List.takeWhile_append_of_pos hall]
    simp
  have hdrop : (text ++ '"' :: rest).dropWhile (· != '"') = '"' :: rest := by
    rw [List.dropWhile_append_of_pos hall]
    simp
  simp only [List.cons_append, List.append_assoc, List.nil_append]
  rw [tokens]
  split
  · simp_all
  · simp_all

/-- A comment reaches to the end of its line and leaves no token. -/
theorem comment {line : List Char} (hline : '\n' ∉ line) :
    Lexes ('/' :: '/' :: line ++ ['\n']) [] := by
  intro rest
  have hall : ∀ c ∈ line, (c != '\n') = true := by
    intro c hc
    simp only [bne_iff_ne, ne_eq]
    rintro rfl
    exact hline hc
  have hdrop : (line ++ '\n' :: rest).dropWhile (· != '\n') = '\n' :: rest := by
    rw [List.dropWhile_append_of_pos hall]
    simp
  simp only [List.cons_append, List.append_assoc, List.nil_append, tokens, hdrop]
  exact blank (by decide) rest

end Lexes

end InfoFlow.Datalog
