import InfoFlow.Config.Store
import InfoFlow.Proofs.Host.Making
import InfoFlow.Proofs.Host.Meetings

namespace InfoFlow

open InfoFlow.Path (IsEntry IsExtension)

/-- A call of a store. -/
inductive Store.Call where
  | read (key : String)
  | write (key : String) (document : ByteArray)

namespace Store

def Call.key : Call → String
  | .read key | .write key _ => key

/-- What a call is answered. A document that is written is only acknowledged. -/
def Call.perform {m : Type → Type} [Monad m] (store : Store m) :
    Call → m (Except ConfigFault (Option ByteArray))
  | .read key => store.read key
  | .write key document => do return (← store.write key document).map fun _ => none

/-- What calls that are made one after the other are answered. -/
def answers {m : Type → Type} [Monad m] (store : Store m) (calls : List Call) :
    m (List (Except ConfigFault (Option ByteArray))) :=
  calls.mapM (·.perform store)

theorem run_answers_cons {σ : Type} (store : Store (StateM σ)) (call : Call) (rest : List Call)
    (state : σ) : (store.answers (call :: rest)).run state =
      let (answer, between) := (call.perform store).run state
      let (more, after) := (store.answers rest).run between
      (answer :: more, after) := by
  rw [answers, List.mapM_cons]
  rfl

end Store

/-- A directory on a machine. -/
structure Folder where
  directory : String
  workDir : Location := []
  programs : Tree.Programs := fun _ _ => .error .notFound

namespace Folder

variable {folder : Folder} {tree made after : Tree} {documents : Entries ByteArray}
  {keys : Set String} {key other : String} {document : ByteArray}

/-- The store that keeps its documents in the directory. -/
def store (folder : Folder) : Store (StateM Tree) :=
  .inDirectory (Tree.host folder.workDir folder.programs) folder.directory

def file (folder : Folder) (key : String) : String :=
  Store.file folder.directory key

/-- What becomes of making the directory, with those above it. -/
def making (folder : Folder) (tree : Tree) : Except IoFault Unit × Tree :=
  ((Tree.host folder.workDir folder.programs).makeDirs folder.directory).run tree

theorem run_read : (folder.store.read key).run tree =
    (match tree.readFile folder.workDir (folder.file key) with
      | .ok document => .ok (some document)
      | .error .notFound => .ok none
      | .error fault => .error (.io (folder.file key) fault), tree) := by
  change ((Tree.host folder.workDir folder.programs).readFile (folder.file key) >>= _).run tree = _
  rw [StateT.run_bind, Tree.run_readFile]
  cases tree.readFile folder.workDir (folder.file key) with
  | ok document => rfl
  | error fault => cases fault <;> rfl

/-- Settings are only read. -/
theorem run_toolchain (folder : Folder) (tree : Tree) :
    (folder.store.toolchain.run tree).2 = tree := by
  rw [Store.toolchain, StateT.run_bind, Store.get, StateT.run_bind, Folder.run_read]
  cases tree.readFile folder.workDir (folder.file Toolchain.key) with
  | ok document => rfl
  | error fault => cases fault <;> rfl

theorem run_write : (folder.store.write key document).run tree =
    match folder.making tree with
    | (.error fault, made) => (.error (.io folder.directory fault), made)
    | (.ok (), made) =>
      match made.writeFile folder.workDir (folder.file key) document with
      | .error fault => (.error (.io (folder.file key) fault), made)
      | .ok after => (.ok (), after) := by
  simp only [store, Store.inDirectory]
  rw [StateT.run_bind]
  have hmaking : ((Tree.host folder.workDir folder.programs).makeDirs folder.directory).run tree =
    folder.making tree := rfl
  rw [hmaking]
  rcases folder.making tree with ⟨_ | _, made⟩
  · rfl
  · change (do
      let written ← (Tree.host folder.workDir folder.programs).writeFile (folder.file key) document
      return written.mapError (ConfigFault.io (folder.file key))).run made = _
    rw [StateT.run_bind, Tree.run_writeFile]
    dsimp only
    cases made.writeFile folder.workDir (folder.file key) document <;> rfl

theorem run_perform_write_eq_ok {answer : Option ByteArray}
    (h : ((Store.Call.write key document).perform folder.store).run tree = (.ok answer, after)) :
    answer = none ∧ ∃ made, folder.making tree = (.ok (), made) ∧
      made.writeFile folder.workDir (folder.file key) document = .ok after := by
  rw [Store.Call.perform, StateT.run_bind, run_write] at h
  rcases hmaking : folder.making tree with ⟨_ | _, made⟩
  · rw [hmaking] at h
    cases h
  · rw [hmaking] at h
    dsimp only at h
    cases hwrite : made.writeFile folder.workDir (folder.file key) document with
    | error fault =>
      rw [hwrite] at h
      cases h
    | ok written =>
      rw [hwrite] at h
      cases h
      exact ⟨rfl, made, rfl, hwrite⟩

/-- No two of the keys meet in a file. -/
def Apart (folder : Folder) (tree : Tree) (keys : Set String) : Prop :=
  ∀ key ∈ keys, ∀ other ∈ keys,
    tree.Meets folder.workDir (folder.file key) (folder.file other) → key = other

/-- What a run of calls is answered. -/
def answers (folder : Folder) (tree : Tree) (calls : List Store.Call) :
    List (Except ConfigFault (Option ByteArray)) :=
  ((folder.store.answers calls).run tree).1

/-- Every run of calls for some keys, if none of them fails, is answered as by a shelf with the
    documents. -/
def Refines (folder : Folder) (tree : Tree) (documents : Entries ByteArray) (keys : Set String) :
    Prop :=
  ∀ calls : List Store.Call, (∀ call ∈ calls, call.key ∈ keys) →
    (∀ answer ∈ folder.answers tree calls, ∃ document?, answer = .ok document?) →
    folder.answers tree calls = ((Shelf.store.answers calls).run ⟨documents, true⟩).1

/-- The files of the keys show the documents, and do so after the directory is made. By then nothing
    but files is changed in the tree that making it gave in the first place. -/
structure Mirrors (folder : Folder) (keys : Set String) (made tree : Tree)
    (documents : Entries ByteArray) : Prop where
  shows : ∀ key ∈ keys, tree.Shows folder.workDir (folder.file key) (documents.get? key)
  showsMade : ∀ key ∈ keys,
    (folder.making tree).2.Shows folder.workDir (folder.file key) (documents.get? key)
  written : made.Written (folder.making tree).2

theorem Mirrors.write (h : folder.Mirrors keys made tree documents)
    (hapart : folder.Apart made keys) (hkey : key ∈ keys) {between : Tree}
    (hmaking : folder.making tree = (.ok (), between))
    (hwrite : between.writeFile folder.workDir (folder.file key) document = .ok after) :
    folder.Mirrors keys made after (documents.put key document) := by
  have hbetween : (folder.making tree).2 = between := by rw [hmaking]
  have hshows : ∀ other ∈ keys, after.Shows folder.workDir (folder.file other)
      ((documents.put key document).get? other) := by
    intro other hother
    have hold := h.showsMade other hother
    rw [hbetween] at hold
    by_cases hsame : key = other
    · subst hsame
      rw [Entries.get?_put_self]
      exact hold.of_writeFile_self hwrite
    · rw [Entries.get?_put_of_ne hsame]
      exact hold.of_writeFile hwrite fun hmeets =>
        hsame (hapart key hkey other hother ((hbetween ▸ h.written).meets hmeets))
  -- The directory is there from now on.
  have hkept := Tree.written_writeFile hwrite
  have hstays : (folder.making after).2 = after :=
    Tree.run_makeDirs_of_stands <| (Tree.stands_of_run_makeDirs hmaking).imp_right
      (.of_keepsWays hkept.keepsWays hkept.kept)
  refine ⟨hshows, ?_, ?_⟩
  · rwa [hstays]
  · rw [hstays]
    exact (hbetween ▸ h.written).trans hkept

/-- A call that does not fail is answered as by the shelf. -/
theorem Mirrors.perform (h : folder.Mirrors keys made tree documents)
    (hapart : folder.Apart made keys) {call : Store.Call} (hkey : call.key ∈ keys)
    {answer : Option ByteArray}
    (hcall : (call.perform folder.store).run tree = (.ok answer, after)) :
    ∃ more : Entries ByteArray,
      (call.perform Shelf.store).run ⟨documents, true⟩ = (.ok answer, ⟨more, true⟩) ∧
      folder.Mirrors keys made after more := by
  cases call with
  | read key =>
    have hrun := run_read.symm.trans hcall
    obtain ⟨hread, rfl⟩ := Prod.mk.inj hrun
    refine ⟨documents, ?_, h⟩
    have hanswer : documents.get? key = answer := by
      split at hread
      · cases hread
        exact (h.shows key hkey).eq_some_of_readFile ‹_›
      · cases hread
        exact (h.shows key hkey).eq_none_of_readFile ‹_›
      · cases hread
    rw [← hanswer]
    rfl
  | write key document =>
    obtain ⟨rfl, between, hmaking, hwrite⟩ := run_perform_write_eq_ok hcall
    exact ⟨_, rfl, h.write hapart hkey hmaking hwrite⟩

/-- A run of calls that do not fail is answered as by the shelf. -/
theorem Mirrors.refines (h : folder.Mirrors keys made tree documents)
    (hapart : folder.Apart made keys) : folder.Refines tree documents keys := by
  intro calls hkeys
  induction calls generalizing tree documents with
  | nil => exact fun _ => rfl
  | cons call rest ih =>
    rw [List.forall_mem_cons] at hkeys
    rw [answers, Store.run_answers_cons, Store.run_answers_cons]
    rcases hcall : (call.perform folder.store).run tree with ⟨answer, after⟩
    intro hanswers
    obtain ⟨⟨value, rfl⟩, hrest⟩ := List.forall_mem_cons.mp hanswers
    obtain ⟨more, hshelf, hafter⟩ := h.perform hapart hkeys.1 hcall
    rw [hshelf]
    exact congrArg _ (ih hafter hkeys.2 hrest)

/-- Two keys that meet tell the directory from the shelf, once the directory can be made. -/
theorem Refines.apart (h : folder.Refines tree documents keys)
    (hmaking : folder.making tree = (.ok (), made))
    (hmade : ∀ key ∈ keys, made.Holds folder.workDir (folder.file key) (documents.get? key)) :
    folder.Apart made keys := by
  rintro key hkey other hother ⟨document, after, hwrite, hread, hnew⟩
  by_contra hne
  have hrun : folder.answers tree [.write key document, .read other] =
      [.ok none, .ok (some document)] := by
    have hfirst : ((Store.Call.write key document).perform folder.store).run tree =
        (.ok none, after) := by
      rw [Store.Call.perform, StateT.run_bind, run_write, hmaking]
      dsimp only
      rw [hwrite]
      rfl
    have hsecond : ((Store.Call.read other).perform folder.store).run after =
        (.ok (some document), after) := by
      rw [Store.Call.perform, run_read, hread]
    rw [answers, Store.run_answers_cons, hfirst]
    dsimp only
    rw [Store.run_answers_cons, hsecond]
    rfl
  have hsame := h [.write key document, .read other] (by simp [Store.Call.key, hkey, hother])
    (by simp [hrun])
  have hshelf : ((Shelf.store.answers [.write key document, .read other]).run
      ⟨documents, true⟩).1 = [.ok none, .ok ((documents.put key document).get? other)] := rfl
  rw [hrun, hshelf, Entries.get?_put_of_ne hne] at hsame
  have hdocument : documents.get? other = some document := by simpa using hsame.symm
  obtain ⟨place, mode, hfind⟩ := hdocument ▸ hmade other hother
  exact hnew (Tree.readFile_of_find hfind)

theorem isExtension_json : IsExtension ".json" := ⟨by decide, by decide⟩

/-- The key is a single step, and its file is no link. -/
def Plain (folder : Folder) (tree : Tree) (key : String) : Prop :=
  '/' ∉ key.toList ∧ ∀ place target,
    tree.look false folder.workDir (folder.file key) ≠ .ok (place, .link target)

theorem apart_of_plain (h : ∀ key ∈ keys, folder.Plain tree key) : folder.Apart tree keys := by
  intro key hkey other hother hmeets
  obtain ⟨hslash, hlink⟩ := h key hkey
  obtain ⟨hotherSlash, hotherLink⟩ := h other hother
  have hsteps := (Tree.meets_iff_shares.mp hmeets).steps_eq
    (Path.isEntry_join isExtension_json hslash) (Path.isEntry_join isExtension_json hotherSlash)
    hlink hotherLink
  rw [file, file, Store.file, Store.file, isExtension_json.steps_join hslash,
    isExtension_json.steps_join hotherSlash] at hsteps
  have hnames : key ++ ".json" = other ++ ".json" := by
    simpa using List.append_cancel_left hsteps
  exact (String.append_left_inj ".json").mp hnames

theorem isAbsolute_append_json (key : String) :
    Path.isAbsolute (key ++ ".json") = Path.isAbsolute key := by
  by_cases hkey : key = ""
  · rw [hkey]
    rfl
  · exact Path.isAbsolute_append hkey

theorem endsInSlash_file (folder : Folder) (key : String) :
    Tree.endsInSlash (folder.file key) = false := by
  have hlast : (folder.file key).toList.getLast? ≠ some '/' := by
    rw [file, Store.file]
    cases habsolute : Path.isAbsolute (key ++ ".json") with
    | true =>
      rw [Path.join_of_isAbsolute habsolute]
      exact isExtension_json.getLast?_ne key
    | false =>
      rw [Path.join_eq_append habsolute, ← String.append_assoc]
      exact isExtension_json.getLast?_ne _
  simpa [Tree.endsInSlash] using hlast

/-- Another key that names the same file: one with another slash in front if there is one already,
    and with a step that stays in front of any other name. -/
def namesake (key : String) : String :=
  if Path.isAbsolute key then "/" ++ key else "./" ++ key

theorem namesake_ne (key : String) : namesake key ≠ key := by
  intro h
  have hlength := congrArg String.length h
  unfold namesake at hlength
  split at hlength <;> simp [String.length_append] at hlength

theorem file_of_isAbsolute (folder : Folder) (h : Path.isAbsolute key = true) :
    folder.file key = key ++ ".json" ∧ folder.file (namesake key) = "/" ++ (key ++ ".json") := by
  have hjson : Path.isAbsolute (key ++ ".json") = true := by rw [isAbsolute_append_json, h]
  have hslash : Path.isAbsolute ("/" ++ (key ++ ".json")) = true :=
    Path.isAbsolute_append (by decide)
  rw [namesake, if_pos h, file, file, Store.file, Store.file, String.append_assoc,
    Path.join_of_isAbsolute hjson, Path.join_of_isAbsolute hslash]
  exact ⟨rfl, rfl⟩

theorem isAbsolute_idle (key : String) : Path.isAbsolute ("./" ++ (key ++ ".json")) = false :=
  Path.isAbsolute_append (by decide)

theorem file_of_not_isAbsolute (folder : Folder) (h : Path.isAbsolute key = false) :
    folder.file key = Path.join folder.directory "" ++ (key ++ ".json") ∧
      folder.file (namesake key) =
        Path.join folder.directory "" ++ ("./" ++ (key ++ ".json")) := by
  have hname : namesake key = "./" ++ key := by rw [namesake, h]; rfl
  rw [file, file, Store.file, Store.file, hname, String.append_assoc,
    Path.join_eq_append (isAbsolute_idle key),
    Path.join_eq_append (by rw [isAbsolute_append_json, h])]
  exact ⟨rfl, rfl⟩

theorem walk_namesake {links : Nat} {found : Location}
    (h : tree.walk links true folder.workDir (folder.file key) = .ok found) :
    tree.walk links true folder.workDir (folder.file (namesake key)) = .ok found := by
  cases habsolute : Path.isAbsolute key with
  | true =>
    obtain ⟨hkey, hnamesake⟩ := file_of_isAbsolute folder habsolute
    rw [hkey] at h
    rw [hnamesake]
    refine Tree.walk_of_steps ?_ ?_ h
    · rw [isAbsolute_append_json, habsolute]
      exact Path.isAbsolute_append (by decide)
    · simpa using Path.steps_append_slash "" (key ++ ".json")
  | false =>
    have hjson : Path.isAbsolute (key ++ ".json") = false := by
      rw [isAbsolute_append_json, habsolute]
    have hidle := isAbsolute_idle key
    have hsteps : Path.steps ("./" ++ (key ++ ".json")) = "." :: Path.steps (key ++ ".json") :=
      Path.steps_append_slash "." (key ++ ".json")
    have hname : namesake key = "./" ++ key := by rw [namesake, habsolute]; rfl
    rw [file, Store.file] at h ⊢
    rw [hname, String.append_assoc]
    refine Tree.walk_insert_dot ?_ (Path.steps_join hjson) ?_ ?_ h
    · rw [Path.isAbsolute_join hidle, Path.isAbsolute_join hjson]
    · rw [Path.steps_join hidle, hsteps]
    · exact Path.steps_ne_nil ⟨'.', by simp, by decide⟩

/-- There is another key for every file that is written and read, unless its path is too long. -/
theorem exists_meets (folder : Folder) (key : String)
    (hlength : (folder.file key).utf8ByteSize + 2 ≤ Path.maxLength) :
    ∃ other, other ≠ key ∧ ∀ tree : Tree,
      tree.Meets folder.workDir (folder.file key) (folder.file key) →
      tree.Meets folder.workDir (folder.file key) (folder.file other) := by
  refine ⟨namesake key, namesake_ne key, fun tree hmeets => ?_⟩
  rw [Tree.meets_iff_shares] at hmeets ⊢
  refine hmeets.of_walk ?_ (by rw [endsInSlash_file, endsInSlash_file]) fun _ => walk_namesake
  obtain ⟨_, _, _, hrefuse, _⟩ := hmeets
  obtain ⟨hzero, _, _⟩ := Tree.refuse_eq_ok_iff.mp hrefuse
  rw [Tree.refuse_eq_ok_iff]
  cases habsolute : Path.isAbsolute key with
  | true =>
    obtain ⟨hkey, hnamesake⟩ := file_of_isAbsolute folder habsolute
    rw [hkey] at hzero hlength
    rw [hnamesake]
    refine ⟨by simpa using hzero, by simp, ?_⟩
    rw [String.utf8ByteSize_append, show "/".utf8ByteSize = 1 from rfl]
    omega
  | false =>
    obtain ⟨hkey, hnamesake⟩ := file_of_not_isAbsolute folder habsolute
    rw [hkey] at hzero hlength
    rw [hnamesake]
    refine ⟨by simpa using hzero, by simp, ?_⟩
    rw [String.utf8ByteSize_append] at hlength ⊢
    rw [String.utf8ByteSize_append, show "./".utf8ByteSize = 2 from rfl]
    omega

/-- For every directory and some keys whose documents are found, or missed, both before and after
    the directory is made: if no two of the keys meet in a file, every run of calls for them in
    which none fails is answered as by a shelf with the documents. If the directory can be made,
    this is so only when no two of them meet. Keys that hold no slash, and whose files are no links,
    are apart. But every key shares its file with another one, as far as paths can be that long, so
    the directory is never a shelf for all keys at once. -/
theorem refines_iff_apart (folder : Folder) (tree : Tree) (documents : Entries ByteArray)
    (keys : Set String)
    (hstart : ∀ key ∈ keys, tree.Holds folder.workDir (folder.file key) (documents.get? key) ∧
      (folder.making tree).2.Holds folder.workDir (folder.file key) (documents.get? key)) :
    (folder.Apart (folder.making tree).2 keys → folder.Refines tree documents keys) ∧
    ((folder.making tree).1 = .ok () → folder.Refines tree documents keys →
      folder.Apart (folder.making tree).2 keys) ∧
    ((∀ key ∈ keys, folder.Plain (folder.making tree).2 key) →
      folder.Apart (folder.making tree).2 keys) ∧
    (∀ key, (folder.file key).utf8ByteSize + 2 ≤ Path.maxLength → ∃ other, other ≠ key ∧
      ∀ tree : Tree, tree.Meets folder.workDir (folder.file key) (folder.file key) →
        tree.Meets folder.workDir (folder.file key) (folder.file other)) := by
  refine ⟨fun hapart => ?_, fun hmaking hrefines => ?_, apart_of_plain, exists_meets folder⟩
  · have hmirrors : folder.Mirrors keys (folder.making tree).2 tree documents :=
      ⟨fun key hkey => (hstart key hkey).1.shows, fun key hkey => (hstart key hkey).2.shows,
        .refl _⟩
    exact hmirrors.refines hapart
  · exact hrefines.apart (Prod.ext hmaking rfl) fun key hkey => (hstart key hkey).2

/-- A directory that is missing to begin with. -/
def missing : Folder where
  directory := "cfg"

/-- The tree of the directory alone. -/
theorem making_missing : missing.making {} =
    (.ok (), ⟨[(["cfg"], .directory Node.directoryMode)]⟩) := rfl

theorem refines_missing :
    (∀ key ∈ ({"a", "b"} : Set String),
      Tree.Holds {} missing.workDir (missing.file key) none ∧
      (missing.making {}).2.Holds missing.workDir (missing.file key) none) ∧
    missing.Refines {} [] {"a", "b"} := by
  have hstart : ∀ key ∈ ({"a", "b"} : Set String),
      Tree.Holds {} missing.workDir (missing.file key) none ∧
      (missing.making {}).2.Holds missing.workDir (missing.file key) none := by
    rw [making_missing]
    rintro key (rfl | rfl)
    · exact ⟨Tree.holds_none_of_find rfl, Tree.holds_none_of_find rfl⟩
    · exact ⟨Tree.holds_none_of_find rfl, Tree.holds_none_of_find rfl⟩
  obtain ⟨hrefines, _, hplain, _⟩ := refines_iff_apart missing {} [] {"a", "b"} hstart
  refine ⟨hstart, hrefines (hplain ?_)⟩
  rw [making_missing]
  rintro key (rfl | rfl)
  · exact ⟨by decide, fun _ _ h => by cases h⟩
  · exact ⟨by decide, fun _ _ h => by cases h⟩

/-- A directory without documents gives one under a key that none was written under. -/
theorem not_refines_idle :
    (∀ key ∈ ({"b", "./b"} : Set String),
      Tree.Holds {} missing.workDir (missing.file key) none ∧
      (missing.making {}).2.Holds missing.workDir (missing.file key) none) ∧
    missing.answers {} [.write "./b" "x\n".toUTF8, .read "b"] =
      [.ok none, .ok (some "x\n".toUTF8)] ∧
    ¬ missing.Refines {} [] {"b", "./b"} := by
  have hrun : missing.answers {} [.write "./b" "x\n".toUTF8, .read "b"] =
      [.ok none, .ok (some "x\n".toUTF8)] := by decide +kernel
  refine ⟨?_, hrun, fun h => ?_⟩
  · rw [making_missing]
    rintro key (rfl | rfl)
    · exact ⟨Tree.holds_none_of_find rfl, Tree.holds_none_of_find rfl⟩
    · exact ⟨Tree.holds_none_of_find rfl, Tree.holds_none_of_find rfl⟩
  · have hkeys : ∀ call ∈ [Store.Call.write "./b" "x\n".toUTF8, .read "b"],
        call.key ∈ ({"b", "./b"} : Set String) := by
      simp only [List.forall_mem_cons, Store.Call.key]
      exact ⟨.inr rfl, .inl rfl, fun _ h => by cases h⟩
    have hsame := h _ hkeys (by rw [hrun]; simp)
    rw [hrun] at hsame
    exact absurd hsame (by decide +kernel)

end Folder

end InfoFlow
