import InfoFlow.Proofs.Datalog.Text
import InfoFlow.Proofs.Program.Readable
import InfoFlow.Proofs.Program.Rules

namespace InfoFlow

open Datalog (Atom IsName Lexes Rule Says Statement clauses facts isNameChar)

namespace Program

/-- What a check is read as: its announcement, and then its rule. -/
def emittedStatements (emitted : Atom × Rule) : List Statement :=
  [.fact emitted.1, .rule emitted.2.clause]

/-- What a helper is read as. -/
def helperStatements (rule : Rule) : List Statement :=
  [.declaration rule.head.relation [("owner", "symbol")], .rule rule.clause]

/-- The statements of a program, in the order of its text. -/
def statements (scope : Option String) (program : Program) : List Statement :=
  program.claims.map (.fact ·.atom) ++ program.ownership.map (.fact ·.atom) ++
    program.edges.map (.fact ·.atom) ++
    (emittedFrom scope program.checks 0 0).flatMap emittedStatements ++
    (helpersFrom scope program.checks 0).flatMap helperStatements

/-- The title of a section is a comment. -/
theorem says_titled {α : Type} (title : String) (htitle : '\n' ∉ title.toList) {line : α → String}
    {means : α → List Statement} {items : List α} (h : ∀ a ∈ items, Says (line a) (means a)) :
    Says (titled title (items.map line)) (items.flatMap means) := by
  unfold titled
  split
  · have hnil : items = [] := by simpa using ‹(items.map line).isEmpty = true›
    subst hnil
    exact .silent .nil
  · have hcomment : Says ("// " ++ title ++ "\n") [] := by
      refine .silent ?_
      have hline : '\n' ∉ ' ' :: title.toList := by simpa using htitle
      simpa using Lexes.comment hline
    simpa using (hcomment.append (Says.join h)).append .newline

/-- A fact on a line of its own. -/
theorem says_factLine {a : Atom} (h : a.Readable) : Says a.factLine [.fact a] := by
  have hall := (Says.fact h).append .newline
  simpa [Atom.factLine, String.append_assoc] using hall

section Valid

variable {scope : Option String} {checks : List TagCheck}

theorem readable_of_mem_emittedFrom (hquote : ∀ name, scope = some name → '"' ∉ name.toList)
    (hscope : helperTotal checks ≠ 0 → Emission.Readable scope)
    (hchecks : ∀ c ∈ checks, c.check = .ok ()) {n m : Nat} {emitted : Atom × Rule}
    (h : emitted ∈ emittedFrom scope checks n m) :
    emitted.1.Readable ∧ emitted.2.Readable := by
  induction checks generalizing n m with
  | nil => simp [emittedFrom] at h
  | cons c rest ih =>
    have hc := TagCheck.check_eq_ok_iff.mp (hchecks c (by simp))
    have hpath := hc.1.ne_quote
    have hlabel := Emission.ne_quote_label hquote n
    have htotal : helperTotal (c :: rest) = c.predicate.helperCount + helperTotal rest := by
      simp [helperTotal]
    obtain rfl | h := List.mem_cons.mp h
    · have hbody := Predicate.readable_bodyFrom hpath hc.2 (fun h => hscope (by omega)) m
      exact ⟨readable_isCheck hlabel hpath, readable_checkHolds hlabel hpath,
        readable_owns (by simp) hpath, hbody⟩
    · exact ih (fun h => hscope (by omega)) (fun other hother => hchecks other (by simp [hother])) h

theorem readable_of_mem_helpersFrom (hscope : Emission.Readable scope)
    (hchecks : ∀ c ∈ checks, c.check = .ok ()) {m : Nat} {rule : Rule}
    (h : rule ∈ helpersFrom scope checks m) : rule.Readable := by
  induction checks generalizing m with
  | nil => simp [helpersFrom] at h
  | cons c rest ih =>
    have hc := TagCheck.check_eq_ok_iff.mp (hchecks c (by simp))
    obtain h | h := List.mem_append.mp h
    · exact Predicate.readable_of_mem_rulesFrom hscope hc.1.ne_quote hc.2 h
    · exact ih (fun other hother => hchecks other (by simp [hother])) h

/-- The line of a check says the announcement and the rule. -/
theorem says_emittedLine {emitted : Atom × Rule} (hfact : emitted.1.Readable)
    (hrule : emitted.2.Readable) : Says (emittedLine emitted) (emittedStatements emitted) := by
  have hspace : Says " " [] := .silent (.blank (by decide))
  have hall := (Says.fact hfact).append (hspace.append ((Says.rule hrule).append .newline))
  have hline : emittedLine emitted =
      emitted.1.render ++ "." ++ (" " ++ (emitted.2.render ++ "\n")) := by
    simp [emittedLine, ← String.toList_inj]
  rw [hline]
  exact hall

/-- The lines of a helper say its declaration and its rule. -/
theorem says_helperLines {rule : Rule} (h : rule.Readable) :
    Says (helperLines (.ofRule rule)) (helperStatements rule) := by
  have howner : IsName "owner" := by simp [IsName, isNameChar]
  have hsymbol : IsName "symbol" := by simp [IsName, isNameChar]
  have hdeclaration := Says.declaration h.head.relation howner hsymbol
  have hall := hdeclaration.append (Says.newline.append ((Says.rule h).append .newline))
  have hlines : helperLines (.ofRule rule) = ".decl " ++ rule.head.relation ++ "(" ++ "owner" ++
      ": " ++ "symbol" ++ ")" ++ ("\n" ++ (rule.render ++ "\n")) := by
    simp [helperLines, HelperRule.ofRule, ← String.toList_inj]
  rw [hlines]
  exact hall

end Valid

/-- The text of a valid program without included files consists of its statements, if its namespace
    can stand between quotes and, where the program takes helpers, in a name. -/
theorem read_render_of_helpers {program : Program} (hincludes : program.includes = [])
    (hvalid : program.Valid) {scope : Option String}
    (hquote : ∀ name, scope = some name → '"' ∉ name.toList)
    (hscope : helperTotal program.checks ≠ 0 → Emission.Readable scope) :
    Datalog.read (program.render { scope }) = some (program.statements scope) := by
  refine Says.read_eq ?_
  have hclaims : ∀ claim ∈ program.claims, Says claim.atom.factLine [.fact claim.atom] := by
    intro claim hclaim
    obtain ⟨hparticle, hpath, htag⟩ := TagClaim.check_eq_ok_iff.mp (hvalid.claims claim hclaim)
    exact says_factLine
      (readable_claimHasTag hparticle.ne_quote hpath.ne_quote htag.ne_quote)
  have hownership : ∀ ownership ∈ program.ownership,
      Says ownership.atom.factLine [.fact ownership.atom] := by
    intro ownership hmem
    obtain ⟨howner, hpath⟩ := Ownership.check_eq_ok_iff.mp (hvalid.ownership ownership hmem)
    exact says_factLine (readable_owns (by rintro _ ⟨⟩; exact howner.ne_quote)
      hpath.ne_quote)
  have hedges : ∀ edge ∈ program.edges, Says edge.atom.factLine [.fact edge.atom] := by
    intro edge hedge
    obtain ⟨hsource, htarget⟩ := Edge.check_eq_ok_iff.mp (hvalid.edges edge hedge)
    exact says_factLine (readable_edge hsource.ne_quote htarget.ne_quote)
  have hchecks : ∀ emitted ∈ emittedFrom scope program.checks 0 0,
      Says (emittedLine emitted) (emittedStatements emitted) := fun emitted h =>
    have hreadable := readable_of_mem_emittedFrom hquote hscope hvalid.checks h
    says_emittedLine hreadable.1 hreadable.2
  have hhelpers : ∀ rule ∈ helpersFrom scope program.checks 0,
      Says (helperLines (.ofRule rule)) (helperStatements rule) := by
    intro rule h
    obtain ⟨_, _, _, hj, _⟩ := exists_of_mem_helpersFrom h
    exact says_helperLines (readable_of_mem_helpersFrom (hscope (by omega)) hvalid.checks h)
  have hall := ((((says_titled "Claims" (by decide) hclaims).append
    (says_titled "Ownership" (by decide) hownership)).append
    (says_titled "Edges" (by decide) hedges)).append
    (says_titled "Checks" (by decide) hchecks)).append
    (says_titled "Helper relations" (by decide) hhelpers)
  simpa [render, statements, includeBlock, hincludes, checkLines_eq, Function.comp_def,
    ← List.map_eq_flatMap] using hall

/-- The text consists of the statements wherever the namespace can stand in names. -/
theorem read_render {program : Program} (hincludes : program.includes = [])
    (hvalid : program.Valid) {scope : Option String} (hscope : Emission.Readable scope) :
    Datalog.read (program.render { scope }) = some (program.statements scope) :=
  read_render_of_helpers hincludes hvalid hscope.ne_quote fun _ => hscope

theorem clauses_statements (scope : Option String) (program : Program) :
    clauses (program.statements scope) = (program.rules scope).map Rule.clause := by
  have happend (list more : List Statement) :
      clauses (list ++ more) = clauses list ++ clauses more := List.filterMap_append
  have hfacts {α : Type} (atom : α → Atom) (list : List α) :
      clauses (list.map fun a => .fact (atom a)) = [] := by
    simp [clauses]
  have hemitted (list : List (Atom × Rule)) :
      clauses (list.flatMap emittedStatements) = list.map fun emitted => emitted.2.clause := by
    induction list with
    | nil => rfl
    | cons emitted rest ih => simpa [clauses, emittedStatements] using ih
  have hhelpers (list : List Rule) :
      clauses (list.flatMap helperStatements) = list.map Rule.clause := by
    induction list with
    | nil => rfl
    | cons rule rest ih => simpa [clauses, helperStatements] using ih
  simp [statements, rules, happend, hfacts, hemitted, hhelpers]

section Facts

variable {relation : String}

theorem facts_append (list more : List Statement) :
    facts relation (list ++ more) = facts relation list ++ facts relation more :=
  List.filterMap_append

theorem facts_map {α : Type} {atom : α → Atom} (h : ∀ a, (atom a).relation = relation)
    (list : List α) : facts relation (list.map fun a => .fact (atom a)) = list.map atom := by
  simp [facts, h]

theorem facts_map_of_ne {α : Type} {atom : α → Atom} (h : ∀ a, (atom a).relation ≠ relation)
    (list : List α) : facts relation (list.map fun a => .fact (atom a)) = [] := by
  simp [facts, h]

theorem facts_emitted (hrelation : relation ≠ "isCheck") {checks : List TagCheck} {n m : Nat} :
    facts relation ((emittedFrom scope checks n m).flatMap emittedStatements) = [] := by
  induction checks generalizing n m with
  | nil => rfl
  | cons c rest ih =>
    simpa [facts, emittedFrom, emittedStatements, TagCheck.announcement, Atom.isCheck,
      hrelation.symm] using ih

theorem facts_isCheck_emitted {checks : List TagCheck} {n m : Nat} :
    facts "isCheck" ((emittedFrom scope checks n m).flatMap emittedStatements) =
      (emittedFrom scope checks n m).map Prod.fst := by
  induction checks generalizing n m with
  | nil => rfl
  | cons c rest ih =>
    simpa [facts, emittedFrom, emittedStatements, TagCheck.announcement, Atom.isCheck] using ih

theorem facts_helpers (list : List Rule) : facts relation (list.flatMap helperStatements) = [] := by
  simp [facts, helperStatements, List.filterMap_flatMap]

end Facts

/-- The facts of a program by their relations. -/
theorem facts_statements (scope : Option String) (program : Program) :
    facts "claimHasTag" (program.statements scope) = program.claims.map (·.atom) ∧
    facts "ownsAccessPath" (program.statements scope) = program.ownership.map (·.atom) ∧
    facts "edge" (program.statements scope) = program.edges.map (·.atom) ∧
    facts "isCheck" (program.statements scope) =
      (emittedFrom scope program.checks 0 0).map Prod.fst := by
  have hclaim (c : TagClaim) : c.atom.relation = "claimHasTag" := rfl
  have howns (o : Ownership) : o.atom.relation = "ownsAccessPath" := rfl
  have hedge (e : Edge) : e.atom.relation = "edge" := rfl
  simp [statements, facts_append, facts_map, facts_map_of_ne, facts_emitted, facts_isCheck_emitted,
    facts_helpers, hclaim, howns, hedge]

end Program

end InfoFlow
