import InfoFlow.Proofs.Config.Documents

namespace InfoFlow

/-- The types of settings that are kept on a shelf. -/
inductive Setting.Kind where
  | toolchain
  | strings
  | table

namespace Setting.Kind

/-- The values of a type. -/
def Content : Kind → Type
  | .toolchain => HostToolchain
  | .strings => List String
  | .table => Entries String

def setting : (kind : Kind) → Setting kind.Content
  | .toolchain => .hostToolchain
  | .strings => .strings
  | .table => .table

/-- A table has its names in ascending order. Nothing is asked of other values. -/
def Proper : (kind : Kind) → kind.Content → Prop
  | .table, entries => Entries.Ascending entries
  | _, _ => True

theorem Proper.keeps {kind : Kind} {value : kind.Content} (h : kind.Proper value) :
    kind.setting.Keeps value := by
  cases kind with
  | toolchain => exact keeps_hostToolchain value
  | strings => exact keeps_strings value
  | table => exact keeps_table h

end Setting.Kind

open Setting (Kind)

namespace Shelf

/-- What a call gives on the shelf. -/
def ask {α : Type} (shelf : Shelf) (call : StateM Shelf α) : α :=
  (call.run shelf).1

/-- An operation on the settings, or the start or end of a period without answers. -/
inductive Operation where
  | write (key : String) (document : ByteArray)
  | put (kind : Kind) (key : String) (value : kind.Content)
  | setToolchain (value : HostToolchain)
  | get (kind : Kind) (key : String)
  | getToolchain
  | answer (answering : Bool)

namespace Operation

/-- The operation as it is carried out. Of what it reads only remains whether it could be read. -/
def perform : Operation → StateM Shelf (Except ConfigFault Unit)
  | .write key document => store.write key document
  | .put kind key value => store.put kind.setting key value
  | .setToolchain value => store.setToolchain value
  | .get kind key => do return (← store.get kind.setting key).map fun _ => ()
  | .getToolchain => do return (← store.toolchain).map fun _ => ()
  | .answer answering => do
    modify fun shelf => { shelf with answering }
    return .ok ()

/-- The shelf after an operation. -/
def apply (shelf : Shelf) (op : Operation) : Shelf :=
  (op.perform.run shelf).2

/-- The key whose document the operation is to replace. -/
def target? : Operation → Option String
  | .write key _ | .put _ key _ => some key
  | .setToolchain _ => some Toolchain.key
  | .get _ _ | .getToolchain | .answer _ => none

/-- The operation updates the key when it is carried out on the shelf, and succeeds. -/
def Updates (op : Operation) (shelf : Shelf) (key : String) : Prop :=
  op.target? = some key ∧ shelf.ask op.perform = .ok ()

end Operation

/-- The shelf after some operations, to begin with an empty one. -/
def after (ops : List Operation) : Shelf :=
  ops.foldl Operation.apply {}

/-- The last of the operations that updated the key, of those that succeeded. -/
inductive LastUpdate (key : String) (op : Operation) : List Operation → Prop where
  | now {ops : List Operation} (h : op.Updates (after ops) key) : LastUpdate key op (ops ++ [op])
  | earlier {ops : List Operation} {other : Operation} (h : LastUpdate key op ops)
    (hother : ¬ other.Updates (after ops) key) : LastUpdate key op (ops ++ [other])

section

variable {shelf : Shelf} {op : Operation} {key other : String} {document : ByteArray}

theorem run_write (key : String) (document : ByteArray) (shelf : Shelf) :
    (store.write key document).run shelf =
      if shelf.answering then (.ok (), { shelf with documents := shelf.documents.put key document })
      else (.error .noDirectory, shelf) := by
  obtain ⟨documents, answering⟩ := shelf
  cases answering <;> rfl

/-- What is read depends on the document under the key alone, and nothing is changed by it. -/
theorem run_get {α : Type} (setting : Setting α) (key : String) (shelf : Shelf) :
    (store.get setting key).run shelf =
      (if shelf.answering then
        match shelf.documents.get? key with
        | none => .ok none
        | some document => (setting.ofDocument document).mapError (.json key)
      else .error .noDirectory, shelf) := by
  obtain ⟨documents, answering⟩ := shelf
  rw [Store.get, StateT.run_bind]
  cases answering with
  | false => rfl
  | true =>
    have hread : (store.read key).run ⟨documents, true⟩ =
        (.ok (documents.get? key), ⟨documents, true⟩) := rfl
    rw [hread]
    cases documents.get? key <;> rfl

theorem run_toolchain (shelf : Shelf) : store.toolchain.run shelf =
    ((shelf.ask (store.get .toolchain Toolchain.key)).map (·.getD {}), shelf) := by
  rw [Store.toolchain, StateT.run_bind, ask, run_get]
  rfl

/-- The document that an operation stores under a key when the shelf answers. -/
inductive Operation.Stores : Operation → String → ByteArray → Prop where
  | write {key : String} {document : ByteArray} : Stores (.write key document) key document
  | put {kind : Kind} {key : String} {value : kind.Content} {document : ByteArray}
    (h : kind.setting.document value = .ok document) : Stores (.put kind key value) key document
  | setToolchain {value : HostToolchain} {document : ByteArray}
    (h : Setting.hostToolchain.document value = .ok document) :
    Stores (.setToolchain value) Toolchain.key document

theorem Operation.Stores.perform_eq (h : op.Stores key document) :
    op.perform = store.write key document := by
  cases h with
  | write => rfl
  | put h => rw [perform, Store.put, h]
  | setToolchain h => rw [perform, Store.setToolchain, Store.put, h]

/-- An operation on the document of a key stores one, or is refused before the store is asked. -/
theorem Operation.stores_or_refused (h : op.target? = some key) :
    (∃ document, op.Stores key document) ∨
    ∃ refusal, op.perform = pure (.error (.json key refusal)) := by
  cases op with
  | write =>
    cases h
    exact .inl ⟨_, .write⟩
  | put kind key value =>
    cases h
    cases hdocument : kind.setting.document value with
    | error refusal => exact .inr ⟨refusal, by rw [perform, Store.put, hdocument]⟩
    | ok document => exact .inl ⟨document, .put hdocument⟩
  | setToolchain value =>
    cases h
    cases hdocument : Setting.hostToolchain.document value with
    | error refusal =>
      exact .inr ⟨refusal, by rw [perform, Store.setToolchain, Store.put, hdocument]⟩
    | ok document => exact .inl ⟨document, .setToolchain hdocument⟩
  | get | getToolchain | answer => cases h

theorem Operation.Stores.target?_eq (h : op.Stores key document) : op.target? = some key := by
  cases h <;> rfl

/-- An operation updates a key when it stores a document there and the shelf answers. -/
theorem Operation.updates_iff : op.Updates shelf key ↔
    shelf.answering = true ∧ ∃ document, op.Stores key document := by
  constructor
  · rintro ⟨htarget, hsuccess⟩
    obtain ⟨document, hstores⟩ | ⟨refusal, hperform⟩ := stores_or_refused htarget
    · rw [ask, hstores.perform_eq, run_write] at hsuccess
      split at hsuccess
      · exact ⟨‹_›, document, hstores⟩
      · cases hsuccess
    · rw [ask, hperform] at hsuccess
      cases hsuccess
  · rintro ⟨hanswering, document, hstores⟩
    refine ⟨hstores.target?_eq, ?_⟩
    rw [ask, hstores.perform_eq, run_write, if_pos hanswering]

theorem Operation.Stores.apply_eq (h : op.Stores key document)
    (hanswering : shelf.answering = true) :
    op.apply shelf = { shelf with documents := shelf.documents.put key document } := by
  rw [apply, h.perform_eq, run_write, if_pos hanswering]

/-- An update that fails leaves the shelf as it is. -/
theorem Operation.apply_eq_self (htarget : op.target? = some key) (h : ¬ op.Updates shelf key) :
    op.apply shelf = shelf := by
  obtain ⟨document, hstores⟩ | ⟨refusal, hperform⟩ := stores_or_refused htarget
  · have hanswering : ¬ shelf.answering = true := fun hanswering =>
      h (updates_iff.mpr ⟨hanswering, document, hstores⟩)
    rw [apply, hstores.perform_eq, run_write, if_neg hanswering]
  · rw [apply, hperform]
    rfl

theorem Operation.apply_get (kind : Kind) (key : String) :
    (Operation.get kind key).apply shelf = shelf := by
  rw [apply, perform, StateT.run_bind, run_get]
  rfl

theorem Operation.apply_getToolchain : Operation.getToolchain.apply shelf = shelf := by
  rw [apply, perform, StateT.run_bind, run_toolchain]
  rfl

theorem Operation.apply_eq_self_of_error {fault : ConfigFault}
    (h : shelf.ask op.perform = .error fault) : op.apply shelf = shelf := by
  cases htarget : op.target? with
  | none =>
    cases op with
    | write | put | setToolchain => cases htarget
    | get kind key => exact apply_get kind key
    | getToolchain => exact apply_getToolchain
    | answer => cases h
  | some key =>
    refine apply_eq_self htarget fun hupdates => ?_
    cases h.symm.trans hupdates.2

/-- No document changes but that of the key which is updated. -/
theorem Operation.get?_apply (h : ¬ op.Updates shelf key) :
    (op.apply shelf).documents.get? key = shelf.documents.get? key := by
  cases htarget : op.target? with
  | none =>
    cases op with
    | write | put | setToolchain => cases htarget
    | get kind key => rw [apply_get]
    | getToolchain => rw [apply_getToolchain]
    | answer => rfl
  | some other =>
    by_cases hother : op.Updates shelf other
    · obtain ⟨hanswering, document, hstores⟩ := updates_iff.mp hother
      have hne : other ≠ key := by
        rintro rfl
        exact h hother
      rw [hstores.apply_eq hanswering, Entries.get?_put_of_ne hne]
    · rw [apply_eq_self htarget hother]

theorem Operation.answering_apply (htarget : op.target? = some key) :
    (op.apply shelf).answering = shelf.answering := by
  by_cases h : op.Updates shelf key
  · obtain ⟨hanswering, document, hstores⟩ := updates_iff.mp h
    rw [hstores.apply_eq hanswering]
  · rw [apply_eq_self htarget h]

end

section

variable {ops : List Operation} {op : Operation} {key : String}

theorem after_append (ops : List Operation) (op : Operation) :
    after (ops ++ [op]) = op.apply (after ops) := by
  rw [after, List.foldl_append]
  rfl

/-- After any operations a key has the document that its last update stored. -/
theorem LastUpdate.get?_after (h : LastUpdate key op ops) :
    ∃ document, op.Stores key document ∧ (after ops).documents.get? key = some document := by
  induction h with
  | now h =>
    obtain ⟨hanswering, document, hstores⟩ := Operation.updates_iff.mp h
    refine ⟨document, hstores, ?_⟩
    rw [after_append, hstores.apply_eq hanswering, Entries.get?_put_self]
  | earlier _ hother ih =>
    obtain ⟨document, hstores, hget⟩ := ih
    refine ⟨document, hstores, ?_⟩
    rw [after_append, Operation.get?_apply hother, hget]

/-- There is no document under the key, or it consists of blanks. -/
def Vacant (shelf : Shelf) (key : String) : Prop :=
  ∀ document, shelf.documents.get? key = some document →
    ∀ byte ∈ document.toList, Setting.isBlankByte byte = true

theorem ofDocument_eq_none_iff {α : Type} (setting : Setting α) {document : ByteArray} :
    setting.ofDocument document = .ok none ↔
      ∀ byte ∈ document.toList, Setting.isBlankByte byte = true := by
  rw [← List.all_eq_true, Setting.ofDocument]
  split
  · simp_all
  · cases Json.readMarks setting.read (Text.Utf8.marks document) <;> simp_all

theorem ask_get_eq_none_iff {shelf : Shelf} (hanswering : shelf.answering = true) {α : Type}
    {setting : Setting α} : shelf.ask (store.get setting key) = .ok none ↔ shelf.Vacant key := by
  rw [ask, run_get, if_pos hanswering, Vacant]
  cases shelf.documents.get? key with
  | none => simp
  | some document =>
    simp only [Option.some.injEq, forall_eq', ← ofDocument_eq_none_iff setting]
    cases setting.ofDocument document <;> simp [Except.mapError]

theorem ask_get_of_keeps {shelf : Shelf} (hanswering : shelf.answering = true) {α : Type}
    {setting : Setting α} {value : α} (hkeeps : setting.Keeps value) {document : ByteArray}
    (hdocument : setting.document value = .ok document)
    (hget : shelf.documents.get? key = some document) :
    shelf.ask (store.get setting key) = .ok (some value) := by
  rw [ask, run_get, if_pos hanswering, hget]
  show (setting.ofDocument document).mapError _ = _
  rw [hkeeps document hdocument]
  rfl

/-- The shelf keeps settings faithfully, whatever operations are carried out on it and for how long
    it does not answer. Where it answers, nothing is read under a key exactly when there is nothing
    but blanks, and a value is read when the last update of the key put it there. An operation that
    fails changes no document, and neither does one that reads; an update of one key is not seen
    under another. The toolchain is the one that was set last, or by default that of no settings. -/
theorem settings_kept (ops : List Operation) :
    let shelf := after ops
    (shelf.answering = true → ∀ (kind : Kind) key,
      shelf.ask (store.get kind.setting key) = .ok none ↔ shelf.Vacant key) ∧
    (shelf.answering = true → ∀ (kind : Kind) key value, kind.Proper value →
      LastUpdate key (.put kind key value) ops →
      shelf.ask (store.get kind.setting key) = .ok (some value)) ∧
    (∀ (op : Operation) fault, shelf.ask op.perform = .error fault → op.apply shelf = shelf) ∧
    (∀ kind key, (Operation.get kind key).apply shelf = shelf) ∧
    Operation.getToolchain.apply shelf = shelf ∧
    (∀ (op : Operation) key other, op.target? = some key → key ≠ other → ∀ kind : Kind,
      (op.apply shelf).ask (store.get kind.setting other) =
        shelf.ask (store.get kind.setting other)) ∧
    (shelf.answering = true → ∀ value, LastUpdate Toolchain.key (.setToolchain value) ops →
      shelf.ask (store.get .hostToolchain Toolchain.key) = .ok (some value) ∧
      Toolchain.onHost <$> shelf.ask store.toolchain = .ok value) ∧
    (shelf.answering = true → shelf.Vacant Toolchain.key →
      shelf.ask store.toolchain = .ok {}) := by
  intro shelf
  refine ⟨fun hanswering kind key => ask_get_eq_none_iff hanswering, ?_,
    fun op fault hfault => Operation.apply_eq_self_of_error hfault, Operation.apply_get,
    Operation.apply_getToolchain, ?_, ?_, ?_⟩
  · intro hanswering kind key value hproper hlast
    obtain ⟨document, hstores, hget⟩ := hlast.get?_after
    cases hstores with
    | put hdocument => exact ask_get_of_keeps hanswering hproper.keeps hdocument hget
  · intro op key other htarget hne kind
    have hother : ¬ op.Updates shelf other := fun h =>
      hne (Option.some.inj (htarget.symm.trans h.1))
    simp only [ask, run_get, Operation.answering_apply htarget, Operation.get?_apply hother]
  · intro hanswering value hlast
    obtain ⟨document, hstores, hget⟩ := hlast.get?_after
    cases hstores with
    | setToolchain hdocument =>
      obtain ⟨text, rfl, htext⟩ := Setting.exists_document_toolchain hdocument
      have hask := ask_get_of_keeps hanswering (Setting.keeps_toolchain text) htext hget
      refine ⟨ask_get_of_keeps hanswering (Setting.keeps_hostToolchain _) hdocument hget, ?_⟩
      rw [ask, run_toolchain, hask]
      rfl
  · intro hanswering hvacant
    rw [ask, run_toolchain, (ask_get_eq_none_iff hanswering).mpr hvacant]
    rfl

/-- Settings of a compiler with its arguments in order. -/
def positional : HostToolchain where
  compiler := "authc".toUTF8
  leadingArgs := ["-q"]
  argStyle := .positional
  includes := []

/-- A list is put, another value of its key is refused while there are no answers, and the toolchain
    is set. -/
def interrupted : List Operation :=
  [.put .strings "rules" ["base.dl", "\"\n"], .answer false, .put .table "rules" [("a", "b")],
    .answer true, .setToolchain positional]

theorem settings_kept_interrupted :
    LastUpdate "rules" (.put .strings "rules" ["base.dl", "\"\n"]) interrupted ∧
    (after interrupted).ask (store.get .strings "rules") = .ok (some ["base.dl", "\"\n"]) ∧
    (after interrupted).ask (store.get .table "other") = .ok none ∧
    Toolchain.onHost <$> (after interrupted).ask store.toolchain = .ok positional := by
  have hput : LastUpdate "rules" (.put .strings "rules" ["base.dl", "\"\n"]) [_] :=
    @LastUpdate.now _ _ [] ⟨rfl, rfl⟩
  have hrules : LastUpdate "rules" (.put .strings "rules" ["base.dl", "\"\n"]) interrupted := by
    refine (((hput.earlier ?_).earlier ?_).earlier ?_).earlier ?_
    · exact fun h => nomatch h.1
    · exact fun h => nomatch (Operation.updates_iff.mp h).1
    · exact fun h => nomatch h.1
    · exact fun h => nomatch h.1
  have htoolchain : LastUpdate Toolchain.key (.setToolchain positional) interrupted :=
    @LastUpdate.now _ _ (interrupted.take 4) ⟨rfl, rfl⟩
  have hother : (after interrupted).documents.get? "other" = none := rfl
  obtain ⟨hnone, hsome, _, _, _, _, hset, _⟩ := settings_kept interrupted
  refine ⟨hrules, hsome rfl .strings "rules" _ trivial hrules, (hnone rfl .table "other").mpr ?_,
    (hset rfl positional htoolchain).2⟩
  intro document hdocument
  cases hother.symm.trans hdocument

end

end Shelf

end InfoFlow
