import InfoFlow.Proofs.Program.Rules

namespace InfoFlow

namespace Datalog

def Term.text? : Term → Option String
  | .owner => none
  | .text value => some value

/-- A part of a text as it is written. The relations that are declared are those over owners. -/
inductive Sentence where
  | fact (atom : Atom)
  | declaration (relation : String)
  | rule (rule : Rule)
deriving DecidableEq, Repr

namespace Sentence

def render : Sentence → String
  | .fact a => a.render ++ "."
  | .declaration relation => ".decl " ++ relation ++ "(owner: symbol)"
  | .rule r => r.render

/-- Sentences on a line of their own. -/
def line (list : List Sentence) : String :=
  " ".intercalate (list.map render) ++ "\n"

@[simp] def fact? : Sentence → Option Atom
  | .fact a => some a
  | .declaration _ | .rule _ => none

@[simp] def declared? : Sentence → Option String
  | .declaration relation => some relation
  | .fact _ | .rule _ => none

@[simp] def rule? : Sentence → Option Rule
  | .rule r => some r
  | .fact _ | .declaration _ => none

end Sentence

end Datalog

open Datalog (Atom Rule Sentence)

namespace Program

/-- The sections of a text: their titles and their lines. -/
abbrev Layout := List (String × List (List Sentence))

namespace Layout

def render (layout : Layout) : String :=
  String.join (layout.map fun (title, lines) => titled title (lines.map Sentence.line))

/-- The sentences of all sections, in order. -/
def sentences (layout : Layout) : List Sentence :=
  layout.flatMap fun (_, lines) => lines.flatten

end Layout

/-- The sections that a program is written as, apart from the files that it includes. Every program
    is written this way, whatever its names are made of; whether the text can be read back is
    another matter. -/
def layout (scope : Option String) (program : Program) : Layout :=
  [("Claims", program.claims.map fun claim => [.fact claim.atom]),
    ("Ownership", program.ownership.map fun ownership => [.fact ownership.atom]),
    ("Edges", program.edges.map fun edge => [.fact edge.atom]),
    ("Checks", (emittedFrom scope program.checks 0 0).map fun (announcement, rule) =>
      [.fact announcement, .rule rule]),
    ("Helper relations", (helpersFrom scope program.checks 0).flatMap fun rule =>
      [[.declaration rule.head.relation], [.rule rule]])]

/-- The sentences of a program, in the order of its text. -/
def sentences (scope : Option String) (program : Program) : List Sentence :=
  (program.layout scope).sentences

section

variable {scope : Option String}

theorem line_emitted (emitted : Atom × Rule) :
    Sentence.line [.fact emitted.1, .rule emitted.2] = emittedLine emitted := by
  simp [Sentence.line, Sentence.render, emittedLine, ← String.toList_inj]

theorem titled_helpers (title : String) (rules : List Rule) :
    titled title ((rules.flatMap fun rule =>
      [[.declaration rule.head.relation], [.rule rule]]).map Sentence.line) =
    titled title (rules.map fun rule => helperLines (.ofRule rule)) := by
  have hjoin : String.join ((rules.flatMap fun rule =>
      [[.declaration rule.head.relation], [.rule rule]]).map Sentence.line) =
      String.join (rules.map fun rule => helperLines (.ofRule rule)) := by
    induction rules with
    | nil => rfl
    | cons rule rest ih =>
      simp only [List.flatMap_cons, List.map_append, List.map_cons, List.map_nil,
        String.join_append, String.join_cons, ih]
      simp [Sentence.line, Sentence.render, helperLines, HelperRule.ofRule, ← String.toList_inj]
  unfold titled
  rw [hjoin]
  cases rules <;> rfl

/-- A program is written as the files that it includes and its sections, in any namespace. -/
theorem render_eq (scope : Option String) (program : Program) : program.render { scope } =
    includeBlock program.includes ++ (program.layout scope).render := by
  have hfact (a : Atom) : Sentence.line [.fact a] = a.factLine := by
    simp [Sentence.line, Sentence.render, Atom.factLine, ← String.toList_inj]
  have hchecks := checkLines_eq program.checks { scope }
  simp only [render, hchecks, Layout.render, layout, List.map_cons, List.map_nil, List.map_map,
    titled_helpers, Function.comp_def, hfact, line_emitted]
  simp [String.join_cons, Function.comp_def, ← String.toList_inj]

/-- Facts come first, then each check with its announcement, and then each helper with its
    declaration. -/
theorem sentences_eq (scope : Option String) (program : Program) : program.sentences scope =
    (program.claims.map (·.atom) ++ program.ownership.map (·.atom) ++
      program.edges.map (·.atom)).map Sentence.fact ++
    (emittedFrom scope program.checks 0 0).flatMap (fun (announcement, rule) =>
      [.fact announcement, .rule rule]) ++
    (helpersFrom scope program.checks 0).flatMap fun rule =>
      [.declaration rule.head.relation, .rule rule] := by
  have hfacts {α : Type} (atom : α → Atom) (list : List α) :
      (list.map fun a => [Sentence.fact (atom a)]).flatten = list.map fun a => .fact (atom a) := by
    rw [← List.flatMap_def, ← List.map_eq_flatMap]
  have hhelpers (list : List Rule) :
      (list.flatMap fun rule => [[Sentence.declaration rule.head.relation], [.rule rule]]).flatten =
        list.flatMap fun rule => [.declaration rule.head.relation, .rule rule] := by
    induction list with
    | nil => rfl
    | cons rule rest ih => simp [ih]
  simp [sentences, Layout.sentences, layout, hfacts, hhelpers, Function.comp_def,
    ← List.flatMap_def]

/-- The facts of a program, in the order of its text. -/
theorem filterMap_fact?_sentences (scope : Option String) (program : Program) :
    (program.sentences scope).filterMap Sentence.fact? =
      program.claims.map (·.atom) ++ program.ownership.map (·.atom) ++ program.edges.map (·.atom) ++
        (emittedFrom scope program.checks 0 0).map Prod.fst := by
  simp [sentences_eq, List.filterMap_flatMap, List.filterMap_cons, Function.comp_def,
    ← List.map_eq_flatMap]

theorem filterMap_rule?_sentences (scope : Option String) (program : Program) :
    (program.sentences scope).filterMap Sentence.rule? = program.rules scope := by
  simp [sentences_eq, List.filterMap_flatMap, List.filterMap_cons, Function.comp_def, rules,
    ← List.map_eq_flatMap]

/-- What is declared are the helpers, in the order of their rules. -/
theorem filterMap_declared?_sentences (scope : Option String) (program : Program) :
    (program.sentences scope).filterMap Sentence.declared? =
      (helpersFrom scope program.checks 0).map (·.head.relation) := by
  simp [sentences_eq, List.filterMap_flatMap, List.filterMap_cons, Function.comp_def,
    ← List.map_eq_flatMap]

end

end Program

end InfoFlow
