import InfoFlow.Proofs.Datalog.RoundTrip

namespace InfoFlow.Datalog

/-- The names among the tokens of a text are made of name characters. -/
theorem isName_of_mem_tokens {text : List Char} {ts : List Token} (h : tokens text = some ts)
    {name : String} (hname : .name name ∈ ts) : IsName name := by
  fun_induction tokens text generalizing ts with
  | case1 =>
    cases h
    simp at hname
  | case2 rest ih => exact ih h hname
  | case3 rest ih =>
    obtain ⟨more, hmore, rfl⟩ := Option.map_eq_some_iff.mp h
    exact ih hmore (by simpa using hname)
  | case4 => simp at h
  | case5 rest _ more _ ih =>
    obtain ⟨others, hothers, rfl⟩ := Option.map_eq_some_iff.mp h
    exact ih hothers (by simpa using hname)
  | case6 c rest _ _ _ _ ih => exact ih h hname
  | case7 c rest _ _ _ _ hc ih =>
    obtain ⟨more, hmore, rfl⟩ := Option.map_eq_some_iff.mp h
    obtain heq | hname := List.mem_cons.mp hname
    · cases heq
      refine ⟨by simp, fun d hd => ?_⟩
      obtain rfl | hd := List.mem_cons.mp (String.toList_ofList ▸ hd)
      · exact hc
      · exact List.mem_takeWhile_imp hd
    · exact ih hmore hname
  | case8 c rest _ _ _ _ _ _ ih =>
    obtain ⟨more, hmore, rfl⟩ := Option.map_eq_some_iff.mp h
    exact ih hmore (by simpa using hname)
  | case9 => simp at h

theorem arguments_suffix {ts rest : List Token} {terms : List Term}
    (h : arguments ts = some (terms, rest)) : rest <:+ ts := by
  fun_induction arguments ts generalizing terms with
  | case1 token more =>
    obtain ⟨term, _, heq⟩ := Option.map_eq_some_iff.mp h
    cases heq
    exact ⟨[_, _], rfl⟩
  | case2 token more ih =>
    simp only [Option.bind_eq_bind, Option.bind_eq_some_iff, Option.pure_def,
      Option.some.injEq, Prod.mk.injEq] at h
    obtain ⟨term, _, ⟨terms, after⟩, hmore, _, rfl⟩ := h
    exact (ih hmore).trans ⟨[_, _], rfl⟩
  | case3 => simp at h

theorem columns_suffix {ts rest : List Token} {list : List (String × String)}
    (h : columns ts = some (list, rest)) : rest <:+ ts := by
  fun_induction columns ts generalizing list with
  | case1 column type =>
    cases h
    exact ⟨[_, _, _, _], rfl⟩
  | case2 column type more ih =>
    simp only [Option.bind_eq_bind, Option.bind_eq_some_iff, Option.pure_def,
      Option.some.injEq, Prod.mk.injEq] at h
    obtain ⟨⟨list, after⟩, hmore, _, rfl⟩ := h
    exact (ih hmore).trans ⟨[_, _, _, _], rfl⟩
  | case3 => simp at h

/-- The relation of an atom is the first of its tokens. -/
theorem atom_suffix {ts : List Token} {a : Atom} {after : After ts}
    (h : atom ts = some (a, after)) : .name a.relation ∈ ts ∧ after.1 <:+ ts := by
  unfold atom at h
  split at h
  · split at h
    · cases h
    · rename_i hargs
      cases h
      exact ⟨by simp, (arguments_suffix hargs).trans ⟨[_, _], rfl⟩⟩
  · cases h

/-- A reader of conditions leaves a rest of the given tokens. -/
def LeavesRest (reader : (ts : List Token) → Option (Formula × After ts))
    (ts : List Token) : Prop :=
  ∀ f after, reader ts = some (f, after) → after.1 <:+ ts

section

variable {ts : List Token}

theorem operand_leavesRest (hless : ∀ rest : List Token, rest.length < ts.length →
    LeavesRest operand rest ∧ LeavesRest disjunction rest) : LeavesRest operand ts := by
  intro f after h
  unfold operand at h
  split at h
  · rename_i rest
    split at h
    · cases h
    · rename_i negated more hlength heq
      cases h
      exact ((hless rest (by simp)).1 _ _ heq).trans (List.suffix_cons _ _)
  · rename_i rest
    split at h
    · rename_i inner more hlength heq
      cases h
      have hinner := (hless rest (by simp)).2 _ _ heq
      exact (List.suffix_cons _ _).trans (hinner.trans (List.suffix_cons _ _))
    · cases h
  · obtain ⟨⟨a, rest⟩, hatom, heq⟩ := Option.map_eq_some_iff.mp h
    cases heq
    exact (atom_suffix hatom).2

theorem conjunction_leavesRest (hoperand : LeavesRest operand ts)
    (hless : ∀ rest : List Token, rest.length < ts.length → LeavesRest conjunction rest) :
    LeavesRest conjunction ts := by
  intro f after h
  rw [conjunction] at h
  split at h
  · cases h
  · rename_i left rest hlength heq
    have hleft := hoperand _ _ heq
    split at h
    · cases h
    · rename_i right more hmore heq
      cases h
      have hright := hless rest (by simp at hlength; omega) _ _ heq
      exact hright.trans ((List.suffix_cons _ _).trans hleft)
  · rename_i heq
    cases h
    exact hoperand _ _ heq

theorem disjunction_leavesRest (hconjunction : LeavesRest conjunction ts)
    (hless : ∀ rest : List Token, rest.length < ts.length → LeavesRest disjunction rest) :
    LeavesRest disjunction ts := by
  intro f after h
  rw [disjunction] at h
  split at h
  · cases h
  · rename_i left rest hlength heq
    have hleft := hconjunction _ _ heq
    split at h
    · cases h
    · rename_i right more hmore heq
      cases h
      have hright := hless rest (by simp at hlength; omega) _ _ heq
      exact hright.trans ((List.suffix_cons _ _).trans hleft)
  · rename_i heq
    cases h
    exact hconjunction _ _ heq

end

/-- All three readers of conditions leave a rest. They call each other on tokens of the same length
    from the outside in, so for one length the innermost comes first. -/
theorem leavesRest (ts : List Token) :
    LeavesRest operand ts ∧ LeavesRest conjunction ts ∧ LeavesRest disjunction ts := by
  induction hn : ts.length using Nat.strong_induction_on generalizing ts with
  | _ n ih =>
    subst hn
    have hless (rest : List Token) (h : rest.length < ts.length) := ih _ h rest rfl
    have hoperand := operand_leavesRest fun rest h => ⟨(hless rest h).1, (hless rest h).2.2⟩
    have hconjunction := conjunction_leavesRest hoperand fun rest h => (hless rest h).2.1
    exact ⟨hoperand, hconjunction,
      disjunction_leavesRest hconjunction fun rest h => (hless rest h).2.2⟩

/-- The relation that a statement is about. -/
def Statement.relation : Statement → String
  | .declaration relation _ => relation
  | .fact a => a.relation
  | .rule c => c.head.relation

theorem statement_suffix {ts : List Token} {s : Statement} {after : After ts}
    (h : statement ts = some (s, after)) : .name s.relation ∈ ts ∧ after.1 <:+ ts := by
  unfold statement at h
  split at h
  · split at h
    · cases h
    · rename_i hcolumns
      cases h
      exact ⟨by simp [Statement.relation], (columns_suffix hcolumns).trans ⟨[_, _, _, _], rfl⟩⟩
  · split at h
    · rename_i heq
      cases h
      obtain ⟨hname, hrest⟩ := atom_suffix heq
      exact ⟨hname, (List.suffix_cons _ _).trans hrest⟩
    · rename_i heq
      obtain ⟨hname, hrest⟩ := atom_suffix heq
      split at h
      · rename_i hcondition
        cases h
        have hafter := (leavesRest _).2.2 _ _ hcondition
        exact ⟨hname, (List.suffix_cons _ _).trans
          (hafter.trans ((List.suffix_cons _ _).trans hrest))⟩
      · cases h
    · cases h

theorem mem_of_mem_statements {ts : List Token} {list : List Statement}
    (h : statements ts = some list) {s : Statement} (hs : s ∈ list) : .name s.relation ∈ ts := by
  fun_induction statements ts generalizing list with
  | case1 =>
    cases h
    simp at hs
  | case2 => cases h
  | case3 ts _ first rest _ heq ih =>
    obtain ⟨more, hmore, rfl⟩ := Option.map_eq_some_iff.mp h
    obtain ⟨hname, hrest⟩ := statement_suffix heq
    obtain rfl | hs := List.mem_cons.mp hs
    · exact hname
    · exact hrest.mem (ih hmore hs)

/-- Whatever is read from a text is about relations that are names. -/
theorem isName_of_read {text : String} {list : List Statement} (h : read text = some list)
    {s : Statement} (hs : s ∈ list) : IsName s.relation := by
  obtain ⟨ts, htokens, hlist⟩ := Option.bind_eq_some_iff.mp h
  exact isName_of_mem_tokens htokens (mem_of_mem_statements hlist hs)

end InfoFlow.Datalog
