import Mathlib.Data.Prod.Lex
import Mathlib.Order.WellFounded
import InfoFlow.Proofs.Schema.Cache

namespace InfoFlow

mutual

/-- How many fields and types a declared type is made of. -/
def TypeDecl.size : TypeDecl → Nat
  | .primitive | .named _ => 1
  | .inline _ fields => TypeDecl.fieldsSize fields + 1

/-- How many fields and types declared fields are made of. -/
def TypeDecl.fieldsSize : List (String × TypeDecl) → Nat
  | [] => 0
  | (_, decl) :: rest => decl.size + TypeDecl.fieldsSize rest + 1

end

theorem TypeDecl.fieldsSize_append (fields others : List (String × TypeDecl)) :
    fieldsSize (fields ++ others) = fieldsSize fields + fieldsSize others := by
  induction fields with
  | nil => simp [fieldsSize]
  | cons field rest ih =>
    simp only [List.cons_append, fieldsSize, ih]
    omega

theorem TypeDecl.size_lt_fieldsSize {field : String} {decl : TypeDecl}
    {fields : List (String × TypeDecl)} (h : (field, decl) ∈ fields) :
    decl.size < fieldsSize fields := by
  obtain ⟨before, after, rfl⟩ := List.append_of_mem h
  rw [fieldsSize_append, fieldsSize]
  omega

namespace Catalog

/-- What a call of the resolution works on. -/
inductive Work where
  | name (name : String)
  | record (schema : Option String) (fields : List (String × TypeDecl))
  | type (decl : TypeDecl)

/-- The size of the declaration that is worked on. A name on its own is no declaration. -/
def Work.size : Work → Nat
  | .name _ => 0
  | .record _ fields => TypeDecl.fieldsSize fields
  | .type decl => decl.size

/-- A call, with the names that are being followed when it is made. -/
structure Activation where
  stack : List String
  work : Work

/-- What a call gives when it succeeds. -/
inductive Answer where
  | schema (schema : Schema)
  | type (type : DataType)

/-- What resolution gives for a call. -/
def Activation.resolve (declared : Entries SchemaDecl) : Activation → Resolving Answer
  | ⟨stack, .name name⟩ => .schema <$> resolveName declared stack name
  | ⟨stack, .record schema fields⟩ =>
    (fun types => .schema ⟨schema, types⟩) <$>
      resolveFields (resolveName declared stack) schema fields []
  | ⟨stack, .type decl⟩ => .type <$> resolveType (resolveName declared stack) decl

/-- A call in progress that waits for one that it made. -/
inductive Frame where
  /-- A name, for the record that is declared under it. -/
  | name (stack : List String) (target : String)
  /-- A record, for the type of a field between those that are done and those that are left. -/
  | record (stack : List String) (schema : Option String) (before : List (String × TypeDecl))
    (done : Entries DataType) (field : String) (decl : TypeDecl) (rest : List (String × TypeDecl))
  /-- A declared type, for its record or its name. -/
  | type (stack : List String) (decl : TypeDecl)

/-- The call that is in progress. -/
def Frame.activation : Frame → Activation
  | .name stack target => ⟨stack, .name target⟩
  | .record stack schema before _ field decl rest =>
    ⟨stack, .record schema (before ++ (field, decl) :: rest)⟩
  | .type stack decl => ⟨stack, .type decl⟩

/-- What happens next: a call is made, or the one that was made last ends. -/
inductive Control where
  | call (activation : Activation)
  | answer (result : Except Fault Answer)

/-- A resolution on its way: what happens next, the calls in progress, the one that was made last
    first, and the schemas that are kept. -/
structure State where
  control : Control
  frames : List Frame
  kept : Entries Schema

/-- A record goes on to its next field, or ends with the types of its fields. -/
def State.nextField (stack : List String) (schema : Option String)
    (before : List (String × TypeDecl)) (done : Entries DataType) (frames : List Frame)
    (kept : Entries Schema) : List (String × TypeDecl) → State
  | [] => ⟨.answer (.ok (.schema ⟨schema, done⟩)), frames, kept⟩
  | (field, decl) :: rest =>
    match Identifier.check field with
    | .error fault => ⟨.answer (.error fault), frames, kept⟩
    | .ok () =>
      if done.has field then ⟨.answer (.error (.duplicateField schema field)), frames, kept⟩
      else ⟨.call ⟨stack, .type decl⟩, .record stack schema before done field decl rest :: frames,
        kept⟩

/-- A call is entered: it ends at once, or it makes a call. -/
def State.enter (declared : Entries SchemaDecl) (frames : List Frame) (kept : Entries Schema) :
    Activation → State
  | ⟨stack, .name name⟩ =>
    match kept.get? name with
    | some schema => ⟨.answer (.ok (.schema schema)), frames, kept⟩
    | none =>
      if name ∈ stack then ⟨.answer (.error (.cyclicSchema (cycle stack name))), frames, kept⟩
      else
        match declared.get? name with
        | none => ⟨.answer (.error (.unknownType name)), frames, kept⟩
        | some decl =>
          ⟨.call ⟨stack ++ [name], .record decl.name decl.fields⟩, .name stack name :: frames, kept⟩
  | ⟨stack, .record schema fields⟩ => nextField stack schema [] [] frames kept fields
  | ⟨_, .type .primitive⟩ => ⟨.answer (.ok (.type .primitive)), frames, kept⟩
  | ⟨stack, .type (.inline schema fields)⟩ =>
    ⟨.call ⟨stack, .record schema fields⟩, .type stack (.inline schema fields) :: frames, kept⟩
  | ⟨stack, .type (.named name)⟩ =>
    ⟨.call ⟨stack, .name name⟩, .type stack (.named name) :: frames, kept⟩

/-- A call in progress goes on with the answer that it waited for. No call waits for an answer of
    the wrong kind. -/
def State.resume (frames : List Frame) (kept : Entries Schema) : Frame → Answer → Option State
  | .name _ name, .schema schema =>
    some ⟨.answer (.ok (.schema schema)), frames, kept.put name schema⟩
  | .record stack schema before done field decl rest, .type type =>
    some (nextField stack schema (before ++ [(field, decl)]) (done.put field type) frames kept rest)
  | .type _ _, .schema schema => some ⟨.answer (.ok (.type schema.type)), frames, kept⟩
  | _, _ => none

/-- A step of a resolution. A fault ends all calls in progress, one after the other. -/
def State.step? (declared : Entries SchemaDecl) : State → Option State
  | ⟨.call activation, frames, kept⟩ => some (enter declared frames kept activation)
  | ⟨.answer _, [], _⟩ => none
  | ⟨.answer (.error fault), _ :: frames, kept⟩ => some ⟨.answer (.error fault), frames, kept⟩
  | ⟨.answer (.ok answer), frame :: frames, kept⟩ => resume frames kept frame answer

/-- A step leads from one state to the other. -/
def Step (declared : Entries SchemaDecl) (s t : State) : Prop :=
  s.step? declared = some t

/-- Steps lead from one state to the other. -/
abbrev Reaches (declared : Entries SchemaDecl) : State → State → Prop :=
  Relation.ReflTransGen (Step declared)

/-- The state in which a resolution has ended, with calls in progress around it. -/
def State.after {α : Type} (answer : α → Answer) (frames : List Frame) :
    Except Fault α × Entries Schema → State
  | (result, kept) => ⟨.answer (result.map answer), frames, kept⟩

theorem State.after_run_map {α β : Type} (answer : β → Answer) (frames : List Frame) (f : α → β)
    (x : Resolving α) (kept : Entries Schema) :
    after answer frames ((f <$> x).run.run kept) =
      after (answer ∘ f) frames (x.run.run kept) := by
  rw [map_eq_pure_bind, run_bind]
  obtain ⟨result, kept⟩ := x.run.run kept
  cases result <;> rfl

section

variable {declared : Entries SchemaDecl} {stack : List String}

theorem run_resolveFields_cons {follow : String → Resolving Schema} {schema : Option String}
    {field : String} {decl : TypeDecl} {rest : List (String × TypeDecl)} {done : Entries DataType}
    (kept : Entries Schema) :
    (resolveFields follow schema ((field, decl) :: rest) done).run.run kept =
      match Identifier.check field with
      | .error fault => (.error fault, kept)
      | .ok () =>
        if done.has field then (.error (.duplicateField schema field), kept)
        else (resolveType follow decl >>= fun type =>
          resolveFields follow schema rest (done.put field type)).run.run kept := by
  rw [resolveFields, run_bind]
  cases Identifier.check field with
  | error fault => rfl
  | ok =>
    have hok : (MonadExcept.ofExcept (.ok () : Except Fault Unit) : Resolving Unit).run.run kept =
        (.ok (), kept) := rfl
    rw [hok]
    by_cases hdone : done.has field = true
    · simp only [hdone, if_true]
      rfl
    · simp only [hdone, Bool.false_eq_true, if_false]

/-- The steps lead from the call to what resolution gives for it, whatever is in progress. -/
def Activation.Ends (declared : Entries SchemaDecl) (a : Activation) : Prop :=
  ∀ frames kept, Reaches declared ⟨.call a, frames, kept⟩
    (.after id frames ((a.resolve declared).run.run kept))

/-- A call that waits for another one goes on with its answer, or ends with its fault. -/
theorem reaches_bind {α β : Type} {x : Resolving α} {next : α → Resolving β} {frame : Frame}
    {frames : List Frame} {answer : α → Answer} {given : β → Answer}
    (h : ∀ a kept, Reaches declared ⟨.answer (.ok (answer a)), frame :: frames, kept⟩
      (.after given frames ((next a).run.run kept))) (kept : Entries Schema) :
    Reaches declared (.after answer (frame :: frames) (x.run.run kept))
      (.after given frames ((x >>= next).run.run kept)) := by
  rw [run_bind]
  obtain ⟨result, kept⟩ := x.run.run kept
  cases result with
  | error fault => exact .single rfl
  | ok a => exact h a kept

/-- If the types of its fields end, so does a record that goes on with them. -/
theorem reaches_nextField {schema : Option String} {before : List (String × TypeDecl)}
    {frames : List Frame} {rest : List (String × TypeDecl)}
    (h : ∀ field decl, (field, decl) ∈ rest → Activation.Ends declared ⟨stack, .type decl⟩)
    (done : Entries DataType) (kept : Entries Schema) :
    Reaches declared (.nextField stack schema before done frames kept rest)
      (.after (fun types => .schema ⟨schema, types⟩) frames
        ((resolveFields (resolveName declared stack) schema rest done).run.run kept)) := by
  induction rest generalizing before done kept with
  | nil => exact .refl
  | cons field rest ih =>
    obtain ⟨field, decl⟩ := field
    rw [State.nextField, run_resolveFields_cons]
    cases Identifier.check field with
    | error fault => exact .refl
    | ok =>
      by_cases hdone : done.has field = true
      · simp only [hdone, if_true]
        exact .refl
      · simp only [hdone, Bool.false_eq_true, if_false]
        have htype := h field decl List.mem_cons_self
          (.record stack schema before done field decl rest :: frames) kept
        rw [Activation.resolve, State.after_run_map] at htype
        refine htype.trans (reaches_bind (fun type kept => ?_) kept)
        refine .head rfl ?_
        exact ih (fun field decl hmem => h field decl (List.mem_cons_of_mem _ hmem)) _ _

/-- A name ends if the record that is declared under it does, where it is to be followed. -/
theorem ends_name {name : String}
    (h : ∀ decl, declared.get? name = some decl → name ∉ stack →
      Activation.Ends declared ⟨stack ++ [name], .record decl.name decl.fields⟩) :
    Activation.Ends declared ⟨stack, .name name⟩ := by
  intro frames kept
  rw [Activation.resolve, State.after_run_map]
  cases hkept : kept.get? name with
  | some schema =>
    rw [run_resolveName_of_kept hkept]
    exact .single (by simp [Step, State.step?, State.enter, hkept, State.after, Except.map])
  | none =>
    by_cases hstack : name ∈ stack
    · rw [run_resolveName_of_mem hkept hstack]
      exact .single (by
        simp [Step, State.step?, State.enter, hkept, hstack, State.after, Except.map])
    · cases hget : declared.get? name with
      | none =>
        rw [run_resolveName_of_get?_eq_none hkept hstack hget]
        exact .single (by
          simp [Step, State.step?, State.enter, hkept, hstack, hget, State.after, Except.map])
      | some decl =>
        have hrecord := h decl hget hstack (.name stack name :: frames) kept
        rw [Activation.resolve, State.after_run_map] at hrecord
        rw [run_resolveName_of_get?_eq_some hkept hstack hget]
        refine .head (by simp [Step, State.step?, State.enter, hkept, hstack, hget])
          (hrecord.trans ?_)
        obtain ⟨result, kept⟩ := (resolveFields (resolveName declared (stack ++ [name]))
          decl.name decl.fields []).run.run kept
        cases result with
        | error fault => exact .single rfl
        | ok types => exact .single rfl

theorem ends_inline {name : Option String} {fields : List (String × TypeDecl)}
    (h : Activation.Ends declared ⟨stack, .record name fields⟩) :
    Activation.Ends declared ⟨stack, .type (.inline name fields)⟩ := by
  intro frames kept
  have hrecord := h (.type stack (.inline name fields) :: frames) kept
  rw [Activation.resolve, State.after_run_map] at hrecord
  rw [Activation.resolve, State.after_run_map, resolveType]
  refine .head rfl (hrecord.trans (reaches_bind (fun types kept => ?_) kept))
  exact .single rfl

theorem ends_named {name : String} (h : Activation.Ends declared ⟨stack, .name name⟩) :
    Activation.Ends declared ⟨stack, .type (.named name)⟩ := by
  intro frames kept
  have hname := h (.type stack (.named name) :: frames) kept
  rw [Activation.resolve, State.after_run_map] at hname
  rw [Activation.resolve, State.after_run_map, resolveType]
  refine .head rfl (hname.trans (reaches_bind (fun schema kept => ?_) kept))
  exact .single rfl

/-- One call may make the other: that one follows a declared name that was not followed before, or
    it follows the same names and works on a smaller declaration. -/
def Activation.Nests (declared : Entries SchemaDecl) (caller callee : Activation) : Prop :=
  (∃ name, declared.has name = true ∧ name ∉ caller.stack ∧
    callee.stack = caller.stack ++ [name]) ∨
  (callee.stack = caller.stack ∧ callee.work.size < caller.work.size)

/-- The declared names that are left to be followed, and then the size of what is worked on. -/
def Activation.measure (declared : Entries SchemaDecl) (a : Activation) : Nat ×ₗ Nat :=
  toLex ((unvisited declared a.stack).length, a.work.size)

theorem Activation.Nests.measure_lt {caller callee : Activation}
    (h : caller.Nests declared callee) :
    callee.measure declared < caller.measure declared := by
  obtain ⟨name, hname, hnew, hstack⟩ | ⟨hstack, hsize⟩ := h
  · obtain ⟨decl, hget⟩ := Option.isSome_iff_exists.mp hname
    refine Prod.Lex.toLex_lt_toLex.mpr (.inl ?_)
    rw [hstack]
    exact unvisited_push_lt hget hnew
  · refine Prod.Lex.toLex_lt_toLex.mpr (.inr ⟨?_, hsize⟩)
    rw [hstack]

/-- Calls are not nested for ever. -/
theorem wellFounded_nests (declared : Entries SchemaDecl) :
    WellFounded fun callee caller => Activation.Nests declared caller callee :=
  Subrelation.wf Activation.Nests.measure_lt
    (InvImage.wf (Activation.measure declared) wellFounded_lt)

/-- Every call ends with what resolution gives for it. -/
theorem Activation.ends (declared : Entries SchemaDecl) (a : Activation) : a.Ends declared := by
  -- No induction over declarations would do: a name leads to one that may be larger.
  induction a using (wellFounded_nests declared).induction with
  | _ a ih =>
    obtain ⟨stack, work⟩ := a
    cases work with
    | name name =>
      refine ends_name fun decl hget hstack => ?_
      have hname : declared.has name = true := by rw [Entries.has, hget, Option.isSome_some]
      exact ih ⟨stack ++ [name], _⟩ (.inl ⟨name, hname, hstack, rfl⟩)
    | record schema fields =>
      intro frames kept
      rw [resolve, State.after_run_map]
      refine .head rfl (reaches_nextField (fun field decl hmem => ?_) [] kept)
      exact ih ⟨stack, .type decl⟩ (.inr ⟨rfl, TypeDecl.size_lt_fieldsSize hmem⟩)
    | type decl =>
      cases decl with
      | primitive => exact fun frames kept => .single rfl
      | inline name fields => exact ends_inline (ih _ (.inr ⟨rfl, Nat.lt_succ_self _⟩))
      | named name => exact ends_named (ih _ (.inr ⟨rfl, Nat.one_pos⟩))

end

end Catalog

end InfoFlow
