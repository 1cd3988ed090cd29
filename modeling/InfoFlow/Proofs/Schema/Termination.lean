import Mathlib.Data.List.Chain
import InfoFlow.Proofs.Schema.Activations

namespace InfoFlow.Catalog

namespace State

/-- The calls in progress, the one that was made last first. A call that is about to be entered is
    one of them. -/
def activations : State → List Activation
  | ⟨.call activation, frames, _⟩ => activation :: frames.map Frame.activation
  | ⟨.answer _, frames, _⟩ => frames.map Frame.activation

/-- In each call in progress the names that are followed are declared, and none of them is followed
    twice; and each call was made by the one before it. -/
structure Nested (declared : Entries SchemaDecl) (activations : List Activation) : Prop where
  nodup : ∀ a ∈ activations, a.stack.Nodup
  known : ∀ a ∈ activations, ∀ name ∈ a.stack, declared.has name = true
  nests : activations.IsChain fun callee caller => caller.Nests declared callee

section

variable {declared : Entries SchemaDecl} {activations : List Activation}
  {caller callee : Activation}

theorem Nested.tail (h : Nested declared (callee :: activations)) :
    Nested declared activations where
  nodup a ha := h.nodup a (List.mem_cons_of_mem _ ha)
  known a ha := h.known a (List.mem_cons_of_mem _ ha)
  nests := h.nests.tail

/-- A call is made by the one that was made last. -/
theorem Nested.push (h : Nested declared (caller :: activations))
    (hcall : caller.Nests declared callee) : Nested declared (callee :: caller :: activations) where
  nodup := by
    refine List.forall_mem_cons.mpr ⟨?_, h.nodup⟩
    have hcaller := h.nodup caller List.mem_cons_self
    obtain ⟨name, _, hnew, hstack⟩ | ⟨hstack, _⟩ := hcall
    · rw [hstack]
      exact List.nodup_append_comm.mp (List.nodup_cons.mpr ⟨hnew, hcaller⟩)
    · rwa [hstack]
  known := by
    refine List.forall_mem_cons.mpr ⟨?_, h.known⟩
    have hcaller := h.known caller List.mem_cons_self
    obtain ⟨name, hname, _, hstack⟩ | ⟨hstack, _⟩ := hcall
    · rw [hstack]
      exact List.forall_mem_append.mpr ⟨hcaller, List.forall_mem_singleton.mpr hname⟩
    · rwa [hstack]
  nests := List.isChain_cons_cons.mpr ⟨hcall, h.nests⟩

/-- A call from outside follows no names yet. -/
theorem Nested.start (declared : Entries SchemaDecl) (work : Work) :
    Nested declared [⟨[], work⟩] where
  nodup := List.forall_mem_singleton.mpr List.nodup_nil
  known := List.forall_mem_singleton.mpr nofun
  nests := .singleton _

end

section

variable {declared : Entries SchemaDecl}

/-- A record in progress is left, or it hands on the type of its next field. -/
theorem Nested.nextField {stack : List String} {schema : Option String}
    {before rest : List (String × TypeDecl)} {frames : List Frame}
    (h : Nested declared (⟨stack, .record schema (before ++ rest)⟩ :: frames.map Frame.activation))
    (done : Entries DataType) (kept : Entries Schema) :
    Nested declared (State.nextField stack schema before done frames kept rest).activations := by
  cases rest with
  | nil => exact h.tail
  | cons field rest =>
    obtain ⟨field, decl⟩ := field
    rw [State.nextField]
    split
    · exact h.tail
    · split
      · exact h.tail
      · have hmem : (field, decl) ∈ before ++ (field, decl) :: rest := by simp
        exact h.push (.inr ⟨rfl, TypeDecl.size_lt_fieldsSize hmem⟩)

/-- A call that is entered ends at once, or makes a call. -/
theorem Nested.enter {a : Activation} {frames : List Frame}
    (h : Nested declared (a :: frames.map Frame.activation)) (kept : Entries Schema) :
    Nested declared (State.enter declared frames kept a).activations := by
  obtain ⟨stack, work⟩ := a
  cases work with
  | name name =>
    rw [State.enter]
    split
    · exact h.tail
    · split
      · exact h.tail
      · rename_i hnew
        split
        · exact h.tail
        · rename_i decl hget
          exact h.push (.inl ⟨name, by simp [Entries.has, hget], hnew, rfl⟩)
  | record schema fields => exact h.nextField [] kept
  | type decl =>
    cases decl with
    | primitive => exact h.tail
    | inline schema fields => exact h.push (.inr ⟨rfl, Nat.lt_succ_self _⟩)
    | named name => exact h.push (.inr ⟨rfl, Nat.one_pos⟩)

/-- A call that goes on ends, unless it is a record with more fields. -/
theorem Nested.resume {frame : Frame} {frames : List Frame}
    (h : Nested declared (frame.activation :: frames.map Frame.activation)) {kept : Entries Schema}
    {answer : Answer} {s : State} (hs : State.resume frames kept frame answer = some s) :
    Nested declared s.activations := by
  cases frame with
  | name stack target =>
    cases answer with
    | schema schema => cases hs; exact h.tail
    | type type => cases hs
  | record stack schema before done field decl rest =>
    cases answer with
    | schema schema => cases hs
    | type type =>
      cases hs
      refine Nested.nextField ?_ _ kept
      rw [List.append_assoc]
      exact h
  | type stack decl =>
    cases answer with
    | schema schema => cases hs; exact h.tail
    | type type => cases hs

/-- Every step keeps the calls in progress nested. -/
theorem Nested.step {s t : State} (h : Nested declared s.activations) (hstep : Step declared s t) :
    Nested declared t.activations := by
  obtain ⟨control, frames, kept⟩ := s
  cases control with
  | call a =>
    cases hstep
    exact h.enter kept
  | answer result =>
    cases frames with
    | nil => cases hstep
    | cons frame frames =>
      cases result with
      | error fault =>
        cases hstep
        exact h.tail
      | ok answer => exact h.resume hstep

theorem Nested.reaches {s t : State} (h : Nested declared s.activations)
    (hsteps : Reaches declared s t) : Nested declared t.activations := by
  induction hsteps with
  | refl => exact h
  | tail _ hstep ih => exact ih.step hstep

/-- Where steps lead to a state from which there is none, they cannot go on for ever. -/
theorem not_exists_run_of_reaches {s final : State} (h : Reaches declared s final)
    (hfinal : final.step? declared = none) :
    ¬ ∃ run : Nat → State, run 0 = s ∧ ∀ n, Step declared (run n) (run (n + 1)) := by
  induction h using Relation.ReflTransGen.head_induction_on with
  | refl =>
    rintro ⟨run, rfl, hrun⟩
    cases hfinal.symm.trans (hrun 0)
  | head hstep _ ih =>
    rintro ⟨run, rfl, hrun⟩
    -- There is one step from each state, so the run goes on along the same way.
    exact ih ⟨fun n => run (n + 1), Option.some.inj ((hrun 0).symm.trans hstep),
      fun n => hrun (n + 1)⟩

end

/-- The state in which a call is made from outside. -/
def start (work : Work) (kept : Entries Schema) : State :=
  ⟨.call ⟨[], work⟩, [], kept⟩

end State

/-- Resolution ends, on every catalog: whatever is declared and whatever schemas are kept. At every
    time the calls in progress are nested: the names that are followed are declared and different,
    and each call follows one name more than the one that made it, or works on a smaller
    declaration. So the steps cannot go on for ever, and they lead to the answer that the catalog
    gives and to the schemas that it then keeps. -/
theorem resolution_ends (catalog : Catalog) :
    (∀ work,
      (∀ s, Reaches catalog.declared (.start work catalog.resolved) s →
        State.Nested catalog.declared s.activations) ∧
      ¬ ∃ run : Nat → State, run 0 = .start work catalog.resolved ∧
        ∀ n, Step catalog.declared (run n) (run (n + 1))) ∧
    (∀ name, Reaches catalog.declared (.start (.name name) catalog.resolved)
      ⟨.answer ((catalog.schema name).1.map .schema), [], (catalog.schema name).2.resolved⟩) ∧
    ∀ decl, Reaches catalog.declared (.start (.type decl) catalog.resolved)
      ⟨.answer ((catalog.resolve decl).1.map .type), [], (catalog.resolve decl).2.resolved⟩ := by
  have hends (work : Work) := Activation.ends catalog.declared ⟨[], work⟩ [] catalog.resolved
  refine ⟨fun work => ⟨fun s => (State.Nested.start catalog.declared work).reaches,
    State.not_exists_run_of_reaches (hends work) rfl⟩, fun name => ?_, fun decl => ?_⟩
  · have hname := hends (.name name)
    rw [Activation.resolve, State.after_run_map] at hname
    exact hname
  · have htype := hends (.type decl)
    rw [Activation.resolve, State.after_run_map] at htype
    exact htype

end InfoFlow.Catalog
