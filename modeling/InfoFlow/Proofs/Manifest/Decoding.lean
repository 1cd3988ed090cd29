import InfoFlow.Proofs.Manifest.Validity
import InfoFlow.Proofs.Program.Decoding

namespace InfoFlow.Manifest

/-- The text of a program determines it. Two manifests without included files whose programs have
    the same text state the same claims, ownership and edges in the same order, and the same checks
    with the same predicates. Paths need not agree, only their terms do: nothing in the text tells
    apart the names of a root and those of the fields below it. -/
theorem parts_eq_of_render_eq {m n : Manifest} (hm : m.includes = []) (hn : n.includes = [])
    {p q : Program} (hp : m.program = .ok p) (hq : n.program = .ok q)
    (htext : p.render {} = q.render {}) :
    p.claims.map (fun c => (c.particle, c.path.term, c.tag)) =
      q.claims.map (fun c => (c.particle, c.path.term, c.tag)) ∧
    p.ownership.map (fun o => (o.owner, o.path.term)) =
      q.ownership.map (fun o => (o.owner, o.path.term)) ∧
    p.edges.map (fun e => (e.source.term, e.target.term)) =
      q.edges.map (fun e => (e.source.term, e.target.term)) ∧
    p.checks.map (fun c => (c.path.term, c.predicate)) =
      q.checks.map (fun c => (c.path.term, c.predicate)) := by
  have hread := Program.read_render ((includes_of_program_eq_ok hp).trans hm)
    (valid_of_program_eq_ok hp) Emission.readable_none
  have hread' := Program.read_render ((includes_of_program_eq_ok hq).trans hn)
    (valid_of_program_eq_ok hq) Emission.readable_none
  rw [htext, hread'] at hread
  exact Program.parts_eq_of_statements_eq (Option.some.inj hread).symm

/-- A manifest with the check of a path for two tags that must not come together. -/
def exclusive (path : AccessPath) : Manifest where
  predicates := [("exclusive", .not (.and (.tag "a") (.tag "b")))]
  checks := [⟨path, "exclusive", []⟩]

/-- A field of a handle and a handle of that name have the same term, so the text does not tell the
    checks of the two apart. -/
theorem parts_eq_exclusive : ∃ p q : Program,
    (exclusive ⟨.specification "P" "h", [⟨"f"⟩]⟩).program = .ok p ∧
    (exclusive ⟨.connection "P" "h" "f", []⟩).program = .ok q ∧
    p.render {} = q.render {} ∧ p ≠ q ∧
    p.checks.map (fun c => (c.path.term, c.predicate)) =
      q.checks.map (fun c => (c.path.term, c.predicate)) := by
  let checkOf (path : AccessPath) : Program :=
    { checks := [⟨path, .not (.and (.tag "a") (.tag "b"))⟩] }
  have hp : (exclusive ⟨.specification "P" "h", [⟨"f"⟩]⟩).program = .ok (checkOf _) := rfl
  have hq : (exclusive ⟨.connection "P" "h" "f", []⟩).program = .ok (checkOf _) := rfl
  have htext : (checkOf ⟨.specification "P" "h", [⟨"f"⟩]⟩).render {} =
      (checkOf ⟨.connection "P" "h" "f", []⟩).render {} := by decide +kernel
  have hparts := parts_eq_of_render_eq rfl rfl hp hq htext
  exact ⟨_, _, hp, hq, htext, by decide, hparts.2.2.2⟩

end InfoFlow.Manifest
