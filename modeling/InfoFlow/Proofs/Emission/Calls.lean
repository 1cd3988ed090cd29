import InfoFlow.Proofs.Program.Names

namespace InfoFlow

open Datalog (Sentence)

/-- The helper relations that are issued while a predicate is put into a body, in the order in which
    the body asks for them. -/
def Predicate.issued (path : String) : Predicate → Emission → List String
  | .tag _, _ => []
  | .and left right, e | .or left right, e =>
    left.issued path e ++ right.issued path (left.body path e).2
  | .not (.tag _), _ => []
  | .not operand, e => e.nextHelper.1 :: operand.issued path e.nextHelper.2

namespace Emission

/-- A call on an emission. -/
inductive Call where
  | nextLabel
  | nextHelper
  | addRule (relation rule : String)
  | body (path : AccessPath) (predicate : Predicate)
  | check (check : TagCheck)

/-- What a call gives back, and the names that were issued for it. -/
structure Answer where
  text : String := ""
  labels : List String := []
  helpers : List String := []

/-- The answer to a call, and the emission after it. -/
def Call.perform : Call → Emission → Answer × Emission
  | .nextLabel, e =>
    let (label, e) := e.nextLabel
    ({ text := label, labels := [label] }, e)
  | .nextHelper, e =>
    let (relation, e) := e.nextHelper
    ({ text := relation, helpers := [relation] }, e)
  | .addRule relation rule, e => ({}, e.addRule relation rule)
  | .body path predicate, e =>
    let (conditions, after) := predicate.body path.term e
    ({ text := conditions.render, helpers := predicate.issued path.term e }, after)
  | .check c, e =>
    let (text, after) := c.emit e
    let (label, e) := e.nextLabel
    ({ text, labels := [label], helpers := c.predicate.issued c.path.term e }, after)

/-- The answers to calls, one after the other, and the emission after them. -/
def run : List Call → Emission → List Answer × Emission
  | [], e => ([], e)
  | call :: rest, e =>
    let (answer, e) := call.perform e
    let (answers, e) := run rest e
    (answer :: answers, e)

/-- On the way from one emission to another the next labels and the next helper relations of the
    namespace are issued. -/
structure Issues (e : Emission) (labels helpers : List String) (after : Emission) : Prop where
  scope_eq : after.scope = e.scope
  labels_eq : labels = (List.range' e.labelsIssued labels.length).map (label e.scope)
  labelsIssued_eq : after.labelsIssued = e.labelsIssued + labels.length
  helpers_eq : helpers = (List.range' e.helpersIssued helpers.length).map (helperName e.scope)
  helpersIssued_eq : after.helpersIssued = e.helpersIssued + helpers.length

namespace Issues

variable {e after last : Emission} {labels helpers labels' helpers' : List String}

theorem trans (h : Issues e labels helpers after) (h' : Issues after labels' helpers' last) :
    Issues e (labels ++ labels') (helpers ++ helpers') last where
  scope_eq := h'.scope_eq.trans h.scope_eq
  labels_eq := by
    have hmore := h'.labels_eq
    rw [h.scope_eq, h.labelsIssued_eq] at hmore
    rw [List.length_append, ← List.range'_append_1, List.map_append, ← h.labels_eq, ← hmore]
  labelsIssued_eq := by
    rw [h'.labelsIssued_eq, h.labelsIssued_eq, List.length_append, Nat.add_assoc]
  helpers_eq := by
    have hmore := h'.helpers_eq
    rw [h.scope_eq, h.helpersIssued_eq] at hmore
    rw [List.length_append, ← List.range'_append_1, List.map_append, ← h.helpers_eq, ← hmore]
  helpersIssued_eq := by
    rw [h'.helpersIssued_eq, h.helpersIssued_eq, List.length_append, Nat.add_assoc]

theorem nothing (e : Emission) : Issues e [] [] e :=
  ⟨rfl, rfl, rfl, rfl, rfl⟩

theorem addRule (e : Emission) (relation rule : String) :
    Issues e [] [] (e.addRule relation rule) :=
  ⟨rfl, rfl, rfl, rfl, rfl⟩

theorem nextLabel (e : Emission) : Issues e [e.nextLabel.1] [] e.nextLabel.2 :=
  ⟨rfl, rfl, rfl, rfl, rfl⟩

theorem nextHelper (e : Emission) : Issues e [] [e.nextHelper.1] e.nextHelper.2 :=
  ⟨rfl, rfl, rfl, rfl, rfl⟩

/-- A predicate takes the helper relations that its body asks for. -/
theorem body (path : String) (p : Predicate) (e : Emission) :
    Issues e [] (p.issued path e) (p.body path e).2 := by
  fun_induction Predicate.issued path p e with
  | case1 => exact nothing _
  | case2 left right e ihl ihr | case3 left right e ihl ihr => exact ihl.trans ihr
  | case4 => exact nothing _
  | case5 operand e hoperand ih =>
    rw [Predicate.body]
    · simpa using ((nextHelper e).trans ih).trans (addRule ..)
    · exact hoperand

/-- One call issues the names of its answer. -/
theorem perform (call : Call) (e : Emission) :
    Issues e (call.perform e).1.labels (call.perform e).1.helpers (call.perform e).2 := by
  cases call with
  | nextLabel => exact nextLabel e
  | nextHelper => exact nextHelper e
  | addRule relation rule => exact addRule e relation rule
  | body path predicate => exact body path.term predicate e
  | check c => exact (nextLabel e).trans (body c.path.term c.predicate e.nextLabel.2)

/-- So a run of calls issues the names of all its answers. -/
theorem run (calls : List Call) (e : Emission) :
    Issues e ((run calls e).1.flatMap (·.labels)) ((run calls e).1.flatMap (·.helpers))
      (run calls e).2 := by
  induction calls generalizing e with
  | nil => exact nothing e
  | cons call rest ih => exact (perform call e).trans (ih (call.perform e).2)

theorem nodup (h : Issues e labels helpers after) : labels.Nodup ∧ helpers.Nodup := by
  rw [h.labels_eq, h.helpers_eq]
  exact ⟨(List.nodup_range' ..).map (label_injective _),
    (List.nodup_range' ..).map (helperName_injective _)⟩

end Issues

/-- The answer at a place in a run is that to the call there, after the calls before it. -/
theorem getElem?_run (calls : List Call) (e : Emission) (k : Nat) :
    (run calls e).1[k]? =
      calls[k]?.map fun call => (call.perform (run (calls.take k) e).2).1 := by
  induction calls generalizing e k with
  | nil => rfl
  | cons call rest ih =>
    cases k with
    | zero => rfl
    | succ k => exact ih (call.perform e).2 k

/-- A text announces a label for a path and, right behind, has a rule that derives the same label
    for the path. -/
def Carries (text label path : String) : Prop :=
  ∃ conditions, text = "isCheck(\"" ++ label ++ "\", \"" ++ path ++ "\"). check(\"" ++ label ++
    "\", owner, \"" ++ path ++ "\") :- " ++ conditions

theorem carries_emit (c : TagCheck) (e : Emission) :
    Carries (c.emit e).1 e.nextLabel.1 c.path.term := by
  refine ⟨(Datalog.Atom.owns .owner c.path.term).render ++ ", " ++
    (c.predicate.body c.path.term e.nextLabel.2).1.render ++ ".", ?_⟩
  simp [TagCheck.emit, TagCheck.rule, Datalog.Rule.render, Datalog.Atom.render, Datalog.Term.render,
    Datalog.Atom.isCheck, Datalog.Atom.checkHolds, ← String.toList_inj]

/-- A text carries one label only among those of a namespace. -/
theorem Carries.eq {scope : Option String} {text path path' : String} {m n : Nat}
    (h : Carries text (label scope m) path) (h' : Carries text (label scope n) path') : m = n := by
  obtain ⟨conditions, rfl⟩ := h
  obtain ⟨conditions', h'⟩ := h'
  have hlist := congrArg String.toList h'
  simp only [label, String.toList_append, toList_numbered, List.append_assoc,
    List.append_cancel_left_eq] at hlist
  have hdigits (k : Nat) (rest : List Char) :
      ((toString k).toList ++ ("\", \"".toList ++ rest)).takeWhile (·.isDigit) =
        (toString k).toList := by
    rw [List.takeWhile_append_of_pos fun c => isDigit_of_mem_toString]
    simp
  have hnumber := congrArg (List.takeWhile (·.isDigit)) hlist
  rw [hdigits, hdigits, String.toList_inj] at hnumber
  exact toString_injective hnumber

/-- The check at a place in a run has one label, which its text carries. -/
theorem exists_label_of_check {calls : List Call} {e : Emission} {k : Nat} {c : TagCheck}
    (hk : calls[k]? = some (.check c)) : ∃ answer n, (run calls e).1[k]? = some answer ∧
      answer.labels = [label e.scope n] ∧
      Carries answer.text (label e.scope n) c.path.term := by
  have hbefore := Issues.run (calls.take k) e
  refine ⟨_, (run (calls.take k) e).2.labelsIssued, by rw [getElem?_run, hk]; rfl, ?_⟩
  rw [← hbefore.scope_eq]
  exact ⟨rfl, carries_emit c _⟩

/-- Answers that share a label are the same answer, when no label is issued twice. -/
theorem index_eq_of_mem_labels {answers : List Answer}
    (h : (answers.flatMap (·.labels)).Nodup) {j k : Nat} {a b : Answer}
    (hj : answers[j]? = some a) (hk : answers[k]? = some b) {label : String}
    (ha : label ∈ a.labels) (hb : label ∈ b.labels) : j = k := by
  have hpairwise := List.pairwise_iff_getElem.mp (List.nodup_flatMap.mp h).2
  obtain ⟨hj', rfl⟩ := List.getElem?_eq_some_iff.mp hj
  obtain ⟨hk', rfl⟩ := List.getElem?_eq_some_iff.mp hk
  obtain hlt | heq | hlt := Nat.lt_trichotomy j k
  · exact absurd hb (hpairwise j k hj' hk' hlt ha)
  · exact heq
  · exact absurd ha (hpairwise k j hk' hj' hlt hb)

/-- No name is issued twice in a run of calls on a new emission, whatever its namespace: all labels
    are different, and so are all helper relations, and there are as many of each as the emission
    counts. The text of each check announces and derives one label, which the text of no other check
    of the run carries. In the text of a program there are thus as many labels as checks, each
    announced once and derived by one rule. -/
theorem names_unique (scope : Option String) (calls : List Call) :
    let answers := (run calls { scope }).1
    let after := (run calls { scope }).2
    (answers.flatMap (·.labels)).Nodup ∧ (answers.flatMap (·.helpers)).Nodup ∧
    (answers.flatMap (·.labels)).length = after.labelsIssued ∧
    (answers.flatMap (·.helpers)).length = after.helpersIssued ∧
    (∀ (k : Nat) (c : TagCheck), calls[k]? = some (.check c) →
      ∃ answer label, answers[k]? = some answer ∧ answer.labels = [label] ∧
        Carries answer.text label c.path.term ∧
        ∀ (j : Nat) (d : TagCheck) (other : Answer) (path : String), calls[j]? = some (.check d) →
          answers[j]? = some other → Carries other.text label path → j = k) ∧
    ∀ program : Program, program.render { scope } =
        Program.includeBlock program.includes ++ (program.layout scope).render ∧
      (Sentence.announced (program.sentences scope)).Nodup ∧
      (Sentence.announced (program.sentences scope)).length = program.checks.length ∧
      Sentence.derived (program.sentences scope) =
        Sentence.announced (program.sentences scope) := by
  have hissues := Issues.run calls { scope }
  refine ⟨hissues.nodup.1, hissues.nodup.2, by simpa using hissues.labelsIssued_eq.symm,
    by simpa using hissues.helpersIssued_eq.symm, fun k c hk => ?_, fun program => ⟨?_, ?_, ?_, ?_⟩⟩
  · obtain ⟨answer, n, hanswer, hlabels, hcarries⟩ := exists_label_of_check (e := { scope }) hk
    refine ⟨answer, _, hanswer, hlabels, hcarries, fun j d other path hj hother htext => ?_⟩
    obtain ⟨other', m, hother', hlabels', hcarries'⟩ :=
      exists_label_of_check (e := { scope }) hj
    obtain rfl := Option.some.inj (hother.symm.trans hother')
    -- The text of the other check carries its own label, so it is that label.
    obtain rfl := htext.eq hcarries'
    exact index_eq_of_mem_labels hissues.nodup.1 hother hanswer
      (hlabels' ▸ List.mem_singleton_self _) (hlabels ▸ List.mem_singleton_self _)
  · exact Program.render_eq scope program
  · exact Program.nodup_announced scope program
  · simp [Program.announced_sentences]
  · rw [Program.derived_sentences, Program.announced_sentences]

end Emission

end InfoFlow
