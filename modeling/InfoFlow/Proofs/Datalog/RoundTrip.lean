import InfoFlow.Datalog.Rule
import InfoFlow.Proofs.Datalog.Reading

namespace InfoFlow.Datalog

def Term.token : Term → Token
  | .owner => .name "owner"
  | .text value => .quoted value

/-- The tokens of arguments, up to the closing parenthesis. -/
def argumentTokens : List Term → List Token
  | [] => [.mark ')']
  | [term] => [term.token, .mark ')']
  | term :: rest => term.token :: .mark ',' :: argumentTokens rest

def Atom.tokens (atom : Atom) : List Token :=
  .name atom.relation :: .mark '(' :: argumentTokens atom.args

def Body.tokens : Body → List Token
  | .holds atom => atom.tokens
  | .absent atom => .mark '!' :: atom.tokens
  | .both left right =>
    .mark '(' :: left.tokens ++ .mark ')' :: .mark ',' :: .mark '(' :: right.tokens ++ [.mark ')']
  | .either left right =>
    .mark '(' :: .mark '(' :: left.tokens ++ .mark ')' :: .mark ';' :: .mark '(' :: right.tokens ++
      [.mark ')', .mark ')']

def Rule.tokens (rule : Rule) : List Token :=
  rule.head.tokens ++ .arrow :: rule.guard.tokens ++ .mark ',' :: rule.body.tokens ++ [.mark '.']

/-- The condition that a body is read as. -/
def Body.formula : Body → Formula
  | .holds atom => .atom atom
  | .absent atom => .neg (.atom atom)
  | .both left right => .conj left.formula right.formula
  | .either left right => .disj left.formula right.formula

/-- The clause that a rule is read as: the guard is the first of its conditions. -/
def Rule.clause (rule : Rule) : Clause :=
  ⟨rule.head, .conj (.atom rule.guard) rule.body.formula⟩

theorem Body.formula_injective {b c : Body} (h : b.formula = c.formula) : b = c := by
  induction b generalizing c with
  | holds => cases c <;> simp_all [Body.formula]
  | absent => cases c <;> simp_all [Body.formula]
  | both left right ihl ihr =>
    cases c with
    | both =>
      simp only [Body.formula, Formula.conj.injEq] at h
      rw [ihl h.1, ihr h.2]
    | _ => simp [Body.formula] at h
  | either left right ihl ihr =>
    cases c with
    | either =>
      simp only [Body.formula, Formula.disj.injEq] at h
      rw [ihl h.1, ihr h.2]
    | _ => simp [Body.formula] at h

theorem Rule.clause_injective {r s : Rule} (h : r.clause = s.clause) : r = s := by
  cases r
  cases s
  simp only [Rule.clause, Clause.mk.injEq, Formula.conj.injEq, Formula.atom.injEq] at h
  obtain ⟨rfl, rfl, hbody⟩ := h
  rw [Body.formula_injective hbody]

/-- A text that can be a relation in rule text. -/
def IsName (name : String) : Prop :=
  name ≠ "" ∧ ∀ c ∈ name.toList, isNameChar c = true

/-- An atom whose written form can be read back. Nothing is escaped, so its texts hold no quotes. -/
structure Atom.Readable (atom : Atom) : Prop where
  relation : IsName atom.relation
  args_ne_nil : atom.args ≠ []
  args : ∀ value, .text value ∈ atom.args → '"' ∉ value.toList

def Body.Readable : Body → Prop
  | .holds atom | .absent atom => atom.Readable
  | .both left right | .either left right => left.Readable ∧ right.Readable

/-- A rule whose written form can be read back. -/
structure Rule.Readable (rule : Rule) : Prop where
  head : rule.head.Readable
  guard : rule.guard.Readable
  body : rule.body.Readable

/-- A name and the text behind it, which starts with a character that no name contains. -/
theorem IsName.lexes {name : String} (hname : IsName name) {c : Char} {text : List Char}
    {ts : List Token} (hc : isNameChar c = false) (htext : Lexes (c :: text) ts) :
    Lexes (name.toList ++ c :: text) (.name name :: ts) := by
  have hne : name.toList ≠ [] := by simpa using hname.1
  have h := Lexes.name_append hne hname.2 ⟨c, text, rfl, hc⟩ htext
  rwa [String.ofList_toList] at h

theorem Term.lexes {term : Term} (hterm : ∀ value, term = .text value → '"' ∉ value.toList)
    {c : Char} {text : List Char} {ts : List Token} (hc : isNameChar c = false)
    (htext : Lexes (c :: text) ts) :
    Lexes (term.render.toList ++ c :: text) (term.token :: ts) := by
  cases term with
  | owner => exact IsName.lexes ⟨by simp [Term.render], by simp [Term.render, isNameChar]⟩ hc htext
  | text value =>
    have h := (Lexes.quoted (hterm value rfl)).append htext
    simpa [Term.render, Term.token] using h

theorem lexes_arguments {args : List Term} (hne : args ≠ [])
    (hargs : ∀ value, .text value ∈ args → '"' ∉ value.toList) :
    Lexes ((", ".intercalate (args.map Term.render)).toList ++ [')']) (argumentTokens args) := by
  induction args with
  | nil => exact absurd rfl hne
  | cons term rest ih =>
    have hterm : ∀ value, term = .text value → '"' ∉ value.toList :=
      fun value h => hargs value (by simp [h])
    cases rest with
    | nil => simpa [argumentTokens] using Term.lexes hterm (by decide) Lexes.closing
    | cons second rest =>
      have hrest := ih (by simp) fun value h => hargs value (by simp [h])
      have h := Term.lexes hterm (by decide) (Lexes.comma.append (Lexes.space.append hrest))
      simpa [argumentTokens] using h

theorem Atom.Readable.lexes {atom : Atom} (h : atom.Readable) :
    Lexes atom.render.toList atom.tokens := by
  have hargs := lexes_arguments h.args_ne_nil h.args
  have hatom := h.relation.lexes (by decide) (Lexes.opening.append hargs)
  simpa [Atom.render, Atom.tokens] using hatom

theorem Body.Readable.lexes {body : Body} (h : body.Readable) :
    Lexes body.render.toList body.tokens := by
  induction body with
  | holds atom => exact Atom.Readable.lexes h
  | absent atom =>
    have hbang : Lexes ['!'] [.mark '!'] := .mark (by decide) (by decide)
    simpa [Body.render, Body.tokens] using hbang.append (Atom.Readable.lexes h)
  | both left right ihl ihr =>
    have hleft := Lexes.opening.append ((ihl h.1).append Lexes.closing)
    have hright := Lexes.opening.append ((ihr h.2).append Lexes.closing)
    have hall := hleft.append (Lexes.comma.append (Lexes.space.append hright))
    simpa [Body.render, Body.tokens] using hall
  | either left right ihl ihr =>
    have hsemicolon : Lexes [';'] [.mark ';'] := .mark (by decide) (by decide)
    have hleft := Lexes.opening.append (Lexes.opening.append ((ihl h.1).append Lexes.closing))
    have hright := Lexes.opening.append ((ihr h.2).append (Lexes.closing.append Lexes.closing))
    have hall := hleft.append (hsemicolon.append (Lexes.space.append hright))
    simpa [Body.render, Body.tokens] using hall

theorem Rule.Readable.lexes {rule : Rule} (h : rule.Readable) :
    Lexes rule.render.toList rule.tokens := by
  have harrow := Lexes.space.append (Lexes.arrow.append Lexes.space)
  have hcondition := h.guard.lexes.append
    ((Lexes.comma.append Lexes.space).append (h.body.lexes.append Lexes.dot))
  have hall := h.head.lexes.append (harrow.append hcondition)
  simpa [Rule.render, Rule.tokens] using hall

/-- The outcome of reading: the value, and the tokens that are left behind it. -/
def Yields {α : Type} {ts : List Token} (result : Option (α × After ts)) (value : α)
    (rest : List Token) : Prop :=
  ∃ h, result = some (value, ⟨rest, h⟩)

theorem term?_token (term : Term) : term? term.token = some term := by
  cases term <;> rfl

theorem arguments_argumentTokens {args : List Term} (hne : args ≠ []) (rest : List Token) :
    arguments (argumentTokens args ++ rest) = some (args, rest) := by
  induction args with
  | nil => exact absurd rfl hne
  | cons term more ih =>
    cases more with
    | nil => simp [argumentTokens, arguments, term?_token]
    | cons second more =>
      have hmore := ih (by simp)
      simp [argumentTokens, arguments, term?_token, hmore]

theorem atom_tokens {a : Atom} (hargs : a.args ≠ []) (rest : List Token) :
    Yields (atom (a.tokens ++ rest)) a rest := by
  have h := arguments_argumentTokens hargs rest
  simp only [Yields, Atom.tokens, List.cons_append, atom]
  split
  · simp_all
  · rename_i hread
    rw [h] at hread
    cases hread
    have hlength := arguments_length h
    exact ⟨by simp only [List.length_cons]; omega, rfl⟩

/-- What follows an operand that is the last one of its conjunction and disjunction. -/
def Closes (rest : List Token) : Prop :=
  ∃ c more, rest = .mark c :: more ∧ c ≠ ',' ∧ c ≠ ';'

theorem Closes.parenthesis (more : List Token) : Closes (.mark ')' :: more) :=
  ⟨')', more, rfl, by decide, by decide⟩

theorem Closes.dot (more : List Token) : Closes (.mark '.' :: more) :=
  ⟨'.', more, rfl, by decide, by decide⟩

theorem Closes.ne_comma {rest : List Token} (h : Closes rest) (more : List Token) :
    rest ≠ .mark ',' :: more := by
  obtain ⟨c, tail, rfl, hc, _⟩ := h
  simp [hc]

theorem Closes.ne_semicolon {rest : List Token} (h : Closes rest) (more : List Token) :
    rest ≠ .mark ';' :: more := by
  obtain ⟨c, tail, rfl, _, hc⟩ := h
  simp [hc]

theorem conjunction_of_operand {ts rest : List Token} {f : Formula}
    (h : Yields (operand ts) f rest) (hrest : ∀ more, rest ≠ .mark ',' :: more) :
    Yields (conjunction ts) f rest := by
  obtain ⟨hlength, heq⟩ := h
  refine ⟨hlength, ?_⟩
  rw [conjunction, heq]
  split <;> simp_all

theorem disjunction_of_conjunction {ts rest : List Token} {f : Formula}
    (h : Yields (conjunction ts) f rest) (hrest : ∀ more, rest ≠ .mark ';' :: more) :
    Yields (disjunction ts) f rest := by
  obtain ⟨hlength, heq⟩ := h
  refine ⟨hlength, ?_⟩
  rw [disjunction, heq]
  split <;> simp_all

theorem conjunction_conj {ts more rest : List Token} {f g : Formula}
    (hleft : Yields (operand ts) f (.mark ',' :: more))
    (hright : Yields (conjunction more) g rest) : Yields (conjunction ts) (.conj f g) rest := by
  obtain ⟨_, hf⟩ := hleft
  obtain ⟨_, hg⟩ := hright
  rw [conjunction, hf]
  simp only [hg]
  exact ⟨_, rfl⟩

theorem disjunction_disj {ts more rest : List Token} {f g : Formula}
    (hleft : Yields (conjunction ts) f (.mark ';' :: more))
    (hright : Yields (disjunction more) g rest) : Yields (disjunction ts) (.disj f g) rest := by
  obtain ⟨_, hf⟩ := hleft
  obtain ⟨_, hg⟩ := hright
  rw [disjunction, hf]
  simp only [hg]
  exact ⟨_, rfl⟩

theorem operand_parentheses {ts rest : List Token} {f : Formula}
    (h : Yields (disjunction ts) f (.mark ')' :: rest)) :
    Yields (operand (.mark '(' :: ts)) f rest := by
  obtain ⟨_, hf⟩ := h
  rw [operand]
  simp only [hf]
  exact ⟨_, rfl⟩

theorem operand_atom {a : Atom} (hargs : a.args ≠ []) (rest : List Token) :
    Yields (operand (a.tokens ++ rest)) (.atom a) rest := by
  obtain ⟨h, heq⟩ := atom_tokens hargs rest
  refine ⟨h, ?_⟩
  rw [operand]
  · simp [heq]
  · simp [Atom.tokens]
  · simp [Atom.tokens]

theorem operand_negation {ts rest : List Token} {f : Formula} (h : Yields (operand ts) f rest) :
    Yields (operand (.mark '!' :: ts)) (.neg f) rest := by
  obtain ⟨_, hf⟩ := h
  rw [operand]
  simp only [hf]
  exact ⟨_, rfl⟩

/-- A written body is read back as a whole where no comma follows it. -/
theorem Body.Readable.conjunction_tokens {body : Body} (h : body.Readable) {rest : List Token}
    (hrest : ∀ more, rest ≠ .mark ',' :: more) :
    Yields (conjunction (body.tokens ++ rest)) body.formula rest := by
  have inParentheses {body : Body} (ih : ∀ {rest}, (∀ more, rest ≠ .mark ',' :: more) →
      Yields (conjunction (body.tokens ++ rest)) body.formula rest) (more : List Token) :
      Yields (operand (.mark '(' :: (body.tokens ++ .mark ')' :: more))) body.formula more :=
    operand_parentheses (disjunction_of_conjunction (ih (Closes.parenthesis more).ne_comma)
      (Closes.parenthesis more).ne_semicolon)
  induction body generalizing rest with
  | holds atom =>
    exact conjunction_of_operand (operand_atom h.args_ne_nil rest) hrest
  | absent atom =>
    exact conjunction_of_operand (operand_negation (operand_atom h.args_ne_nil rest)) hrest
  | both left right ihl ihr =>
    have hright := conjunction_of_operand (inParentheses (ihr h.2) rest) hrest
    have hboth := conjunction_conj (inParentheses (ihl h.1) _) hright
    have htokens : (Body.both left right).tokens ++ rest = .mark '(' :: (left.tokens ++
        .mark ')' :: .mark ',' :: .mark '(' :: (right.tokens ++ .mark ')' :: rest)) := by
      simp [Body.tokens]
    rw [htokens]
    exact hboth
  | either left right ihl ihr =>
    have hclosed := Closes.parenthesis rest
    have hright := disjunction_of_conjunction
      (conjunction_of_operand (inParentheses (ihr h.2) (.mark ')' :: rest)) hclosed.ne_comma)
      hclosed.ne_semicolon
    have hleft := conjunction_of_operand (inParentheses (ihl h.1) (.mark ';' ::
      .mark '(' :: (right.tokens ++ .mark ')' :: .mark ')' :: rest))) (by simp)
    have heither := operand_parentheses (disjunction_disj hleft hright)
    have htokens : (Body.either left right).tokens ++ rest = .mark '(' :: .mark '(' ::
        (left.tokens ++ .mark ')' :: .mark ';' :: .mark '(' ::
          (right.tokens ++ .mark ')' :: .mark ')' :: rest)) := by
      simp [Body.tokens]
    rw [htokens]
    exact conjunction_of_operand heither hrest

/-- The text of a body is read back as a condition. -/
theorem Body.Readable.readCondition_render {body : Body} (h : body.Readable) :
    readCondition body.render = some body.formula := by
  have hconjunction : Yields (conjunction (body.tokens ++ [])) body.formula [] :=
    h.conjunction_tokens nofun
  rw [List.append_nil] at hconjunction
  obtain ⟨_, hbody⟩ := disjunction_of_conjunction hconjunction nofun
  rw [readCondition, h.lexes.tokens_eq, Option.bind_some, hbody]

/-- A text whose statements, in front of any other tokens, are the given ones. -/
def Reads (ts : List Token) (list : List Statement) : Prop :=
  ∀ rest, statements (ts ++ rest) = (statements rest).map (list ++ ·)

namespace Reads

theorem nil : Reads [] [] := by
  intro rest
  simp

theorem append {ss ts : List Token} {list more : List Statement} (hs : Reads ss list)
    (ht : Reads ts more) : Reads (ss ++ ts) (list ++ more) := by
  intro rest
  rw [List.append_assoc, hs, ht, Option.map_map]
  congr 1
  funext us
  simp

theorem statements_eq {ts : List Token} {list : List Statement} (h : Reads ts list) :
    statements ts = some list := by
  have hend : statements [] = some [] := by
    rw [statements, if_pos rfl]
  have hall := h []
  rw [hend] at hall
  simpa using hall

theorem single {ts : List Token} {s : Statement}
    (h : ∀ rest, Yields (statement (ts ++ rest)) s rest) : Reads ts [s] := by
  intro rest
  obtain ⟨hlength, heq⟩ := h rest
  have hne : ts ++ rest ≠ [] := by
    rintro hnil
    simp [hnil] at hlength
  rw [statements, if_neg hne, heq]
  rfl

theorem fact {a : Atom} (hargs : a.args ≠ []) : Reads (a.tokens ++ [.mark '.']) [.fact a] := by
  refine single fun rest => ?_
  obtain ⟨h, heq⟩ := atom_tokens hargs (.mark '.' :: rest)
  rw [List.append_assoc, List.singleton_append, statement]
  · simp only [heq]
    exact ⟨_, rfl⟩
  · simp [Atom.tokens]

/-- A written rule is read back as its clause. -/
theorem rule {r : Rule} (h : r.Readable) : Reads r.tokens [.rule r.clause] := by
  refine single fun rest => ?_
  have hbody := h.body.conjunction_tokens (Closes.dot rest).ne_comma
  have hguard := operand_atom h.guard.args_ne_nil
    (.mark ',' :: (r.body.tokens ++ .mark '.' :: rest))
  obtain ⟨_, hcondition⟩ := disjunction_of_conjunction (conjunction_conj hguard hbody)
    (Closes.dot rest).ne_semicolon
  obtain ⟨_, hhead⟩ := atom_tokens h.head.args_ne_nil
    (.arrow :: (r.guard.tokens ++ .mark ',' :: (r.body.tokens ++ .mark '.' :: rest)))
  have htokens : r.tokens ++ rest = r.head.tokens ++
      .arrow :: (r.guard.tokens ++ .mark ',' :: (r.body.tokens ++ .mark '.' :: rest)) := by
    simp [Rule.tokens]
  rw [htokens, statement]
  · simp only [hhead, hcondition]
    exact ⟨_, rfl⟩
  · simp [Atom.tokens]

/-- The declaration of a relation with one column. -/
theorem declaration (relation column type : String) :
    Reads [.mark '.', .name "decl", .name relation, .mark '(', .name column, .mark ':', .name type,
      .mark ')'] [.declaration relation [(column, type)]] := by
  refine single fun rest => ?_
  simp only [List.cons_append, List.nil_append, statement]
  exact ⟨_, rfl⟩

end Reads

/-- Reading a text that falls into tokens, and these into statements. -/
theorem read_eq {text : String} {ts : List Token} {list : List Statement}
    (htext : Lexes text.toList ts) (hts : Reads ts list) : read text = some list := by
  rw [read, htext.tokens_eq]
  exact hts.statements_eq

end InfoFlow.Datalog
