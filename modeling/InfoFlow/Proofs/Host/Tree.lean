import InfoFlow.Host.Tree
import InfoFlow.Proofs.Host.Path
import InfoFlow.Proofs.Steps

namespace InfoFlow.Tree

open InfoFlow.Path (IsEntry IsExtension)

section

variable {tree : Tree} {follow : Location → String → Except IoFault Location}
  {place found : Location}

/-- The last step is taken from where the steps before it lead, over all links. -/
theorem walkSteps_concat (tree : Tree) (follow : Location → String → Except IoFault Location)
    (follows : Bool) (place : Location) (steps : List String) (last : String) :
    tree.walkSteps follow follows place (steps ++ [last]) =
      tree.walkSteps follow true place steps >>= fun between =>
        tree.walkSteps follow follows between [last] := by
  induction steps generalizing place with
  | nil => rfl
  | cons step rest ih =>
    have hrest : (rest ++ [last]).isEmpty = false := by simp
    rw [List.cons_append, walkSteps.eq_def tree follow true,
      walkSteps.eq_def tree follow follows]
    cases hplace : tree.node? place with
    | none => rfl
    | some node =>
      cases node with
      | directory mode =>
        simp only [hrest]
        split
        · exact ih _
        · split
          · exact ih _
          · split
            · rfl
            · split
              · -- A link on the way is followed in either case.
                rename_i target _
                simp only [Bool.false_and, Bool.not_true, Bool.and_false, Bool.false_eq_true,
                  if_false]
                cases follow place target with
                | error fault => rfl
                | ok next => exact ih next
              · exact ih _
      | _ => rfl

theorem eq_of_walkSteps_singleton {mode : Nat} {step : String}
    (hplace : tree.node? place = some (.directory mode)) (hdot : step ≠ ".") (hup : step ≠ "..")
    (h : tree.walkSteps follow false place [step] = .ok found) : found = place ++ [step] := by
  rw [walkSteps, hplace] at h
  simp only [hdot, hup, if_false] at h
  split at h
  · cases h
  · split at h
    · cases h
      rfl
    · cases h
      rfl

end

section

variable {tree : Tree} {workDir place found : Location} {directory path : String} {node : Node}

theorem walk_of_look {follows : Bool} (h : tree.look follows workDir path = .ok (found, node)) :
    tree.walk Path.maxLinks (follows || endsInSlash path) workDir path = .ok found ∧
      tree.node? found = some node := by
  obtain ⟨_, other, hwalk, hfound⟩ := check_bind_eq_ok_iff.mp h |>.imp id bind_eq_ok_iff.mp
  cases hnode : tree.node? other with
  | none =>
    rw [hnode] at hfound
    cases hfound
  | some known =>
    rw [hnode] at hfound
    cases known with
    | directory mode =>
      cases hfound
      exact ⟨hwalk, hnode⟩
    | _ =>
      simp only at hfound
      split at hfound
      · cases hfound
      · cases hfound
        exact ⟨hwalk, hnode⟩

/-- What is at an entry of a directory is in the directory, wherever the path of the directory
    leads. It may be a link itself. -/
theorem place_of_isEntry {mode : Nat} (hentry : IsEntry directory path)
    (hdirectory : tree.find workDir directory = .ok (place, .directory mode))
    (hlook : tree.look false workDir path = .ok (found, node)) :
    ∃ name, Path.steps path = Path.steps directory ++ [name] ∧ found = place ++ [name] := by
  obtain ⟨habsolute, hslash, name, hdot, hup, hsteps⟩ := hentry
  obtain ⟨hplace, hmode⟩ := walk_of_look hdirectory
  obtain ⟨hfound, _⟩ := walk_of_look hlook
  have hends : endsInSlash path = false := by simpa [endsInSlash] using hslash
  have hstart : start workDir path = start workDir directory := by rw [start, start, habsolute]
  rw [hends, Path.maxLinks, walk, hsteps, hstart, Bool.or_false, walkSteps_concat,
    bind_eq_ok_iff] at hfound
  rw [Path.maxLinks, walk, Bool.true_or] at hplace
  obtain ⟨between, hbetween, hlast⟩ := hfound
  cases hplace.symm.trans hbetween
  exact ⟨name, hsteps, eq_of_walkSteps_singleton hmode hdot hup hlast⟩

/-- A file whose name holds no slash is in its directory under this name. -/
theorem place_of_join {name extension : String} {mode : Nat} (hextension : IsExtension extension)
    (hname : '/' ∉ name.toList)
    (hdirectory : tree.find workDir directory = .ok (place, .directory mode))
    (hlook : tree.look false workDir (Path.join directory (name ++ extension)) =
      .ok (found, node)) :
    found = place ++ [name ++ extension] := by
  obtain ⟨step, hsteps, hfound⟩ :=
    place_of_isEntry (Path.isEntry_join hextension hname) hdirectory hlook
  rw [hextension.steps_join hname] at hsteps
  rw [hfound, List.append_cancel_left hsteps]

end

end InfoFlow.Tree
