import InfoFlow.Proofs.Host.Ways

namespace InfoFlow

/-- What comes of a fault in making a directory, which may be there after all. -/
def Host.excuse {m : Type → Type} [Monad m] (host : Host m) (path : String) (fault : IoFault) :
    m (Except IoFault Unit) := do
  if ← host.isDir path then return .ok () else return .error fault

/-- Makes a directory that may be there already. -/
def Host.ensureDir {m : Type → Type} [Monad m] (host : Host m) (path : String) :
    m (Except IoFault Unit) := do
  match ← host.makeDir path with
  | .ok () => return .ok ()
  | .error fault => host.excuse path fault

namespace Tree

variable {tree before after : Tree} {workDir place found : Location} {path : String}
  {programs : Programs} {mode : Nat}

theorem run_readFile : ((host workDir programs).readFile path).run tree =
    (tree.readFile workDir path, tree) := rfl

/-- A file that must be text. -/
def readText (tree : Tree) (workDir : Location) (path : String) : Except IoFault String :=
  match tree.readFile workDir path with
  | .error fault => .error fault
  | .ok document =>
    match String.fromUTF8? document with
    | some text => .ok text
    | none => .error .notText

theorem run_readText :
    ((host workDir programs).readText path).run tree = (tree.readText workDir path, tree) := by
  rw [Host.readText, StateT.run_bind, run_readFile, readText]
  cases tree.readFile workDir path with
  | error fault => rfl
  | ok document =>
    change StateT.run _ tree = _
    dsimp only
    cases String.fromUTF8? document <;> rfl

theorem run_isDir : ((host workDir programs).isDir path).run tree =
    (tree.isDir workDir path, tree) := rfl

theorem run_change (attempt : Tree → Except IoFault Tree) (tree : Tree) :
    (change attempt).run tree =
      match attempt tree with
      | .error fault => (.error fault, tree)
      | .ok after => (.ok (), after) := by
  simp only [change, StateT.run_bind, StateT.run_get, pure_bind]
  cases attempt tree <;> rfl

theorem run_makeDir : ((host workDir programs).makeDir path).run tree =
    match tree.makeDir workDir path with
    | .error fault => (.error fault, tree)
    | .ok after => (.ok (), after) :=
  run_change (·.makeDir workDir path) tree

theorem run_writeFile {document : ByteArray} :
    ((host workDir programs).writeFile path document).run tree =
      match tree.writeFile workDir path document with
      | .error fault => (.error fault, tree)
      | .ok after => (.ok (), after) :=
  run_change (·.writeFile workDir path document) tree

/-- A directory that is put where nothing was leaves the ways as they are. -/
theorem keepsWays_put_directory (hplace : tree.node? place = none) :
    tree.KeepsWays (tree.put place (.directory mode)) := by
  have hself : (tree.put place (.directory mode)).node? place = some (.directory mode) :=
    node?_put_self <| ne_nil_of_node? fun mode h => by cases hplace.symm.trans h
  constructor
  · intro other mode h
    by_cases hother : other = place
    · rw [hother, hplace] at h
      cases h
    · rwa [node?_put_of_ne hother]
  · intro other target
    by_cases hother : other = place
    · rw [hother, hself, hplace]
      simp
    · rw [node?_put_of_ne hother]

/-- There is something at a path already, so nothing can be made there. -/
def Stands (tree : Tree) (workDir : Location) (path : String) : Prop :=
  ∃ place step?, tree.findParent workDir path = .ok (place, step?) ∧
    ∀ step, step? = some step → tree.node? (place ++ [step]) ≠ none

theorem Stands.makeDir_eq (h : tree.Stands workDir path) :
    tree.makeDir workDir path = .error .alreadyExists := by
  obtain ⟨place, step?, hparent, hstands⟩ := h
  refine bind_eq_error_iff.mpr (.inr ⟨(place, step?), hparent, ?_⟩)
  cases step? with
  | none => rfl
  | some step =>
    obtain ⟨node, hnode⟩ := Option.ne_none_iff_exists'.mp (hstands step rfl)
    simp only [hnode]
    rfl

theorem Stands.of_keepsWays (hways : before.KeepsWays after)
    (hkept : ∀ {place}, before.node? place ≠ none → after.node? place ≠ none)
    (h : before.Stands workDir path) : after.Stands workDir path := by
  obtain ⟨place, step?, hparent, hstands⟩ := h
  exact ⟨place, step?, hways.findParent hparent, fun step hstep => hkept (hstands step hstep)⟩

/-- A directory stands once it is made. -/
theorem stands_of_makeDir (h : tree.makeDir workDir path = .ok after) :
    after.Stands workDir path := by
  obtain ⟨⟨place, step?⟩, hparent, h⟩ := bind_eq_ok_iff.mp h
  cases step? with
  | none => cases h
  | some step =>
    simp only at h
    split at h
    · cases h
    · rename_i hplace
      cases h
      refine ⟨place, some step, (keepsWays_put_directory hplace).findParent hparent, ?_⟩
      rintro _ ⟨⟩
      rw [node?_put_self (by simp)]
      simp

/-- The last step to a directory is taken from a directory, and stays or goes up, or leads over
    something that is at its name. -/
theorem Goes.single {follow : Location → String → Except IoFault Location} {step : String}
    (h : tree.Goes follow true place [step] found) (hfound : tree.IsDirectory found) :
    tree.IsDirectory place ∧ (step = "." ∨ step = ".." ∨
      tree.Enters place step ∧ tree.node? (place ++ [step]) ≠ none) := by
  cases h with
  | stay hplace _ => exact ⟨hplace, .inl rfl⟩
  | up hplace _ => exact ⟨hplace, .inr (.inl rfl)⟩
  | into hstep _ hrest =>
    cases hrest with
    | done =>
      obtain ⟨mode, hmode⟩ := hfound
      exact ⟨hstep.directory, .inr (.inr ⟨hstep, by simp [hmode]⟩)⟩
  | through hstep hlink => exact ⟨hstep.directory, .inr (.inr ⟨hstep, by simp [hlink]⟩)⟩
  | link _ _ hlast => cases hlast

/-- A directory that is there stands. -/
theorem stands_of_isDir (h : tree.isDir workDir path = true) : tree.Stands workDir path := by
  obtain ⟨found, mode, hfind⟩ : ∃ found mode,
      tree.find workDir path = .ok (found, .directory mode) := by
    unfold isDir at h
    split at h
    · exact ⟨_, _, ‹_›⟩
    · cases h
  obtain ⟨hrefuse, hwalk, hmode, _⟩ := find_eq_ok_iff.mp hfind
  replace hwalk := walk_succ hwalk
  rw [walk] at hwalk
  unfold Stands
  simp only [findParent_eq_ok_iff, lastStep, walkParent]
  rcases List.eq_nil_or_concat' (Path.steps path) with hsteps | ⟨init, step, hsteps⟩
  · rw [hsteps] at hwalk ⊢
    cases hwalk
    refine ⟨start workDir path, none, ⟨hrefuse, rfl, ⟨mode, hmode⟩, rfl⟩, ?_⟩
    rintro _ ⟨⟩
  · rw [hsteps, walkSteps_concat] at hwalk
    obtain ⟨place, hplace, hlast⟩ := bind_eq_ok_iff.mp hwalk
    rw [hsteps, List.dropLast_concat, List.getLast?_concat]
    obtain ⟨hdirectory, hstep⟩ := (Goes.of_walkSteps hlast).single ⟨mode, hmode⟩
    by_cases hend : step = "." ∨ step = ".."
    · refine ⟨place, none, ⟨hrefuse, hplace, hdirectory, by simp [hend]⟩, ?_⟩
      rintro _ ⟨⟩
    · obtain ⟨hshort, hnode⟩ : tree.Enters place step ∧ tree.node? (place ++ [step]) ≠ none := by
        tauto
      have hlong : ¬ step.utf8ByteSize > Path.maxStep := Nat.not_lt.mpr hshort.short
      refine ⟨place, some step, ⟨hrefuse, hplace, hdirectory, by simp [hend, hlong]⟩, ?_⟩
      rintro _ ⟨⟩
      exact hnode

theorem run_excuse {fault : IoFault} : ((host workDir programs).excuse path fault).run tree =
    (if tree.isDir workDir path then .ok () else .error fault, tree) := by
  rw [Host.excuse, StateT.run_bind, run_isDir]
  cases tree.isDir workDir path <;> rfl

theorem run_ensureDir : ((host workDir programs).ensureDir path).run tree =
    match tree.makeDir workDir path with
    | .ok after => (.ok (), after)
    | .error fault => (if tree.isDir workDir path then .ok () else .error fault, tree) := by
  rw [Host.ensureDir, StateT.run_bind, run_makeDir]
  cases tree.makeDir workDir path with
  | ok after => rfl
  | error fault => exact run_excuse

/-- A missing directory above is the only fault that more is done about. -/
theorem run_makeDirs (hpath : path ≠ "") : ((host workDir programs).makeDirs path).run tree =
    match tree.makeDir workDir path with
    | .error .notFound =>
      match Path.parent? path with
      | none => (.error .noParent, tree)
      | some parent =>
        match ((host workDir programs).makeDirsUpTo path.length parent).run tree with
        | (.error fault, after) => (.error fault, after)
        | (.ok (), after) => ((host workDir programs).ensureDir path).run after
    | _ => ((host workDir programs).ensureDir path).run tree := by
  have hempty : path.isEmpty = false := by simpa using hpath
  rw [Host.makeDirs, Host.makeDirsUpTo, hempty, if_neg (by decide), StateT.run_bind, run_makeDir,
    run_ensureDir]
  cases hmake : tree.makeDir workDir path with
  | ok after => rfl
  | error fault =>
    cases fault with
    | notFound =>
      cases Path.parent? path with
      | none => rfl
      | some parent =>
        dsimp only
        change ((host workDir programs).makeDirsUpTo path.length parent >>= _).run tree = _
        rw [StateT.run_bind]
        rcases ((host workDir programs).makeDirsUpTo path.length parent).run tree with
          ⟨_ | _, after⟩ <;> rfl
    | _ => exact run_excuse

/-- Making a directory once more does nothing. -/
theorem run_makeDirs_of_stands (h : path = "" ∨ tree.Stands workDir path) :
    (((host workDir programs).makeDirs path).run tree).2 = tree := by
  by_cases hpath : path = ""
  · rw [hpath]
    rfl
  · have hmake := (h.resolve_left hpath).makeDir_eq
    rw [run_makeDirs hpath, run_ensureDir, hmake]

theorem stands_of_run_ensureDir {made : Tree}
    (h : ((host workDir programs).ensureDir path).run tree = (.ok (), made)) :
    made.Stands workDir path := by
  rw [run_ensureDir] at h
  split at h
  · rename_i hmake
    cases h
    exact stands_of_makeDir hmake
  · split at h
    · cases h
      exact stands_of_isDir ‹_›
    · cases h

/-- A directory stands once it is made with those above it. -/
theorem stands_of_run_makeDirs {made : Tree}
    (h : ((host workDir programs).makeDirs path).run tree = (.ok (), made)) :
    path = "" ∨ made.Stands workDir path := by
  refine or_iff_not_imp_left.mpr fun hpath => ?_
  rw [run_makeDirs hpath] at h
  split at h
  · split at h
    · cases h
    · split at h
      · cases h
      · exact stands_of_run_ensureDir h
  · exact stands_of_run_ensureDir h

end Tree

end InfoFlow
