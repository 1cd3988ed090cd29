import InfoFlow.Proofs.Predicate.Helpers
import InfoFlow.Proofs.Program.Rules

namespace InfoFlow

open Datalog (Atom Clause Lexes NegatesNames Reads Rule Statement)

namespace Datalog

/-- The text is read as the given statements and a rule with the given head behind them. The rule is
    safe for the path, and nothing in parentheses is negated in the text. -/
def EndsInSafeRule (text : String) (list : List Statement) (head : Atom) (path : String) : Prop :=
  ∃ ts clause, tokens text.toList = some ts ∧ NegatesNames ts ∧
    statements ts = some (list ++ [.rule clause]) ∧ clause.head = head ∧ clause.Safe path

/-- A rule whose guard asks for an owner of the path is safe behind any text that negates single
    atoms only. -/
theorem Rule.Readable.endsInSafeRule {rule : Rule} (h : rule.Readable) {path : String}
    (hguard : rule.guard = .owns .owner path) {text : String} {ts : List Token}
    {list : List Statement} (hlexes : Lexes text.toList ts) (hreads : Reads ts list)
    (hnegates : NegatesNames ts) :
    EndsInSafeRule (text ++ rule.render) list rule.head path := by
  have hall : Lexes (text ++ rule.render).toList (ts ++ rule.tokens) := by
    simpa using hlexes.append h.lexes
  exact ⟨_, rule.clause, hall.tokens_eq, hnegates.append rule.negatesNames,
    (hreads.append (Reads.rule h)).statements_eq, rfl, Rule.safe_clause hguard⟩

end Datalog

/-- The rules that a check of valid names is emitted as are guarded and range-restricted, whatever
    was emitted before in the same namespace. The text of the check announces it and ends in its
    rule, and the rule of each helper that is collected for it is a text of its own; all of these
    are read as a whole. -/
theorem TagCheck.rules_guarded (c : TagCheck) (hc : c.check = .ok ()) (e : Emission)
    (hscope : e.scope = none) :
    Datalog.EndsInSafeRule (c.emit e).1 [.fact (.isCheck e.nextLabel.1 c.path.term)]
      (.checkHolds e.nextLabel.1 c.path.term) c.path.term ∧
    ∃ added : List HelperRule, (c.emit e).2.helperRules = e.helperRules ++ added ∧
      ∀ helper ∈ added,
        Datalog.EndsInSafeRule helper.rule [] (.helper helper.relation) c.path.term := by
  obtain ⟨hpath, htags⟩ := TagCheck.check_eq_ok_iff.mp hc
  have hreadable : Emission.Readable e.scope := hscope ▸ Emission.readable_none
  have hlabel := Emission.ne_quote_label hreadable.ne_quote e.labelsIssued
  have hannouncement := readable_isCheck hlabel hpath.ne_quote
  rw [emit_eq]
  refine ⟨?_, _, rfl, fun helper hhelper => ?_⟩
  · have hrule : (c.ruleFrom e.scope e.labelsIssued e.helpersIssued).Readable :=
      ⟨readable_checkHolds hlabel hpath.ne_quote, readable_owns nofun hpath.ne_quote,
        Predicate.readable_bodyFrom hpath.ne_quote htags (fun _ => hreadable) _⟩
    have hlexes := hannouncement.lexes.append (Lexes.dot.append Lexes.space)
    have hfact := Reads.fact hannouncement.args_ne_nil
    refine hrule.endsInSafeRule rfl ?_ hfact ?_
    · simpa [announcement] using hlexes
    · exact (Datalog.Atom.negatesNames _).append (.of_notMem (by decide))
  · obtain ⟨rule, hrule, rfl⟩ := List.mem_map.mp hhelper
    have hread := Predicate.readable_of_mem_rulesFrom hreadable hpath.ne_quote htags hrule
    obtain ⟨m, inner, _, _, rfl⟩ := Predicate.exists_of_mem_rulesFrom hrule
    have hempty : Lexes "".toList [] := .nil
    have hsafe := hread.endsInSafeRule rfl hempty .nil (.of_notMem List.not_mem_nil)
    rw [String.empty_append] at hsafe
    exact hsafe

/-- A check that takes two helpers, one within the other. Its tags hold what separates the parts of
    a rule. -/
def alternativesCheck : TagCheck :=
  ⟨⟨.connection "r" "p" "h", [⟨"f"⟩]⟩,
    .or (.not (.tag "!e")) (.not (.and (.tag "c);d") (.not (.or (.tag ":-") (.tag "a,(b")))))⟩

/-- The rule of the check has the next label, and those of its helpers the next two numbers. -/
theorem TagCheck.rules_guarded_alternatives :
    alternativesCheck.check = .ok () ∧ Emission.underWay.scope = none ∧
    Datalog.EndsInSafeRule (alternativesCheck.emit .underWay).1
      [.fact (.isCheck "check_num_3" "r.p.h.f")] (.checkHolds "check_num_3" "r.p.h.f") "r.p.h.f" ∧
    ∃ added, (alternativesCheck.emit .underWay).2.helperRules =
        Emission.underWay.helperRules ++ added ∧
      added.map (·.relation) = ["notHelper8", "notHelper7"] ∧ ∀ helper ∈ added,
        Datalog.EndsInSafeRule helper.rule [] (.helper helper.relation) "r.p.h.f" := by
  obtain ⟨hrule, added, hadded, hhelpers⟩ := rules_guarded alternativesCheck rfl .underWay rfl
  refine ⟨rfl, rfl, hrule, added, hadded, ?_, hhelpers⟩
  rw [emit_eq] at hadded
  rw [← List.append_cancel_left hadded]
  rfl

end InfoFlow
