import InfoFlow.Program.Collision

namespace InfoFlow

/-- Paths that are told apart by their terms. -/
def AccessPath.Unambiguous (paths : List AccessPath) : Prop :=
  ∀ p ∈ paths, ∀ q ∈ paths, p.term = q.term → p = q

theorem AccessPath.Unambiguous.push {paths : List AccessPath} (hpaths : Unambiguous paths)
    {path : AccessPath} (h : ∀ p ∈ paths, p.term = path.term → p = path) :
    Unambiguous (paths ++ [path]) := by
  intro p hp q hq hterm
  rw [List.mem_append, List.mem_singleton] at hp hq
  obtain hp | rfl := hp <;> obtain hq | rfl := hq
  · exact hpaths p hp q hq hterm
  · exact h p hp hterm
  · exact (h q hq hterm.symm).symm
  · rfl

namespace Collision

open AccessPath (Unambiguous)

/-- The paths that a search has passed, and what it remembers of them: under each term the first
    path with that term. As long as nothing was reported, paths with one term are the same, so that
    is enough. -/
structure Passed (seen : List (String × AccessPath)) (paths : List AccessPath) : Prop where
  lookup : ∀ term, seen.lookup term = paths.find? (·.term = term)
  unambiguous : Unambiguous paths

/-- A collision that is the first one of a list. Its second path is the earliest one with a
    different path of the same term before it, and its first path is the earliest one with the
    term. -/
structure FirstOf (c : Collision) (paths : List AccessPath) : Prop where
  split : ∃ before after, paths = before ++ c.second :: after ∧ Unambiguous before ∧
    before.find? (·.term = c.term) = some c.first
  term : c.second.term = c.term
  ne : c.first ≠ c.second

theorem Passed.nil : Passed [] [] where
  lookup _ := rfl
  unambiguous := nofun

section

variable {seen : List (String × AccessPath)} {before : List AccessPath} {path : AccessPath}

/-- A path with a term of its own is remembered. -/
theorem Passed.push (h : Passed seen before) (hnew : seen.lookup path.term = none) :
    Passed ((path.term, path) :: seen) (before ++ [path]) := by
  rw [h.lookup, List.find?_eq_none] at hnew
  refine ⟨fun term => ?_, h.unambiguous.push fun p hp hterm => ?_⟩
  · rw [List.lookup_cons, List.find?_append, h.lookup term]
    by_cases hterm : path.term = term
    · subst hterm
      simp [List.find?_eq_none.mpr hnew]
    · have hne : (term == path.term) = false := by simpa using Ne.symm hterm
      simp [hterm, hne]
  · exact absurd hterm (by simpa using hnew p hp)

/-- A path that is remembered itself may be passed. -/
theorem Passed.pass (h : Passed seen before) (hold : seen.lookup path.term = some path) :
    Passed seen (before ++ [path]) := by
  rw [h.lookup] at hold
  refine ⟨fun term => ?_, h.unambiguous.push fun p hp hterm => ?_⟩
  · rw [List.find?_append, h.lookup term]
    by_cases hterm : path.term = term
    · subst hterm
      simp [hold]
    · simp [hterm]
  · exact h.unambiguous p hp path (List.mem_of_find?_eq_some hold) hterm

end

section

variable {seen : List (String × AccessPath)} {before rest : List AccessPath}

/-- Terms tell apart the paths among which a search reports nothing. -/
theorem Passed.unambiguous_of_search (h : Passed seen before) (hsearch : search seen rest = none) :
    Unambiguous (before ++ rest) := by
  induction rest generalizing seen before with
  | nil => simpa using h.unambiguous
  | cons path rest ih =>
    rw [search] at hsearch
    split at hsearch
    · rename_i hnew
      simpa using ih (h.push hnew) hsearch
    · rename_i first hfirst
      split at hsearch
      · rename_i hsame
        simpa using ih (h.pass (hsame ▸ hfirst)) hsearch
      · cases hsearch

/-- A search reports the first collision. -/
theorem Passed.firstOf_of_search (h : Passed seen before) {c : Collision}
    (hsearch : search seen rest = some c) : c.FirstOf (before ++ rest) := by
  induction rest generalizing seen before with
  | nil => cases hsearch
  | cons path rest ih =>
    rw [search] at hsearch
    split at hsearch
    · rename_i hnew
      simpa using ih (h.push hnew) hsearch
    · rename_i first hfirst
      split at hsearch
      · rename_i hsame
        simpa using ih (h.pass (hsame ▸ hfirst)) hsearch
      · rename_i hne
        cases hsearch
        exact ⟨⟨before, rest, rfl, h.unambiguous, h.lookup _ ▸ hfirst⟩, rfl, hne⟩

end

/-- Where there is a collision, terms do not tell all paths apart. -/
theorem FirstOf.not_unambiguous {c : Collision} {paths : List AccessPath} (h : c.FirstOf paths) :
    ¬ Unambiguous paths := by
  obtain ⟨⟨before, after, rfl, _, hfirst⟩, hterm, hne⟩ := h
  intro hall
  have hmem : c.first ∈ before := List.mem_of_find?_eq_some hfirst
  have hsame : c.first.term = c.term := by simpa using List.find?_some hfirst
  exact hne (hall c.first (by simp [hmem]) c.second (by simp) (hsame.trans hterm.symm))

end Collision

namespace Program

variable {program : Program}

theorem firstOf_of_collision?_eq_some {c : Collision} (h : program.collision? = some c) :
    c.FirstOf program.paths := by
  simpa using Collision.Passed.nil.firstOf_of_search h

theorem collision?_eq_none_iff :
    program.collision? = none ↔ AccessPath.Unambiguous program.paths := by
  constructor
  · intro h
    simpa using Collision.Passed.nil.unambiguous_of_search h
  · intro h
    cases hcollision : program.collision? with
    | none => rfl
    | some c => exact absurd h (firstOf_of_collision?_eq_some hcollision).not_unambiguous

end Program

end InfoFlow
