import InfoFlow.Proofs.Manifest.Expansion

namespace InfoFlow

/-- A relation that depends on the right one of two related lists only. -/
theorem forall₂_iff_forall_right {α β : Type} {R P : α → β → Prop} {Q : β → Prop} {list : List α}
    {others : List β} (h : List.Forall₂ R list others) (hiff : ∀ a b, R a b → (P a b ↔ Q b)) :
    List.Forall₂ P list others ↔ ∀ b ∈ others, Q b := by
  induction h with
  | nil => simp
  | cons hfirst _ ih => rw [List.forall₂_cons, List.forall_mem_cons, hiff _ _ hfirst, ih]

/-- A path is refused another root when it starts at a handle connection, whatever the root. -/
theorem AccessPath.instantiate_eq_error_iff {path : AccessPath} {root : Root} {fault : Fault} :
    path.instantiate root = .error fault ↔
      path.root.isInstantiated = true ∧ .alreadyInstantiated path.term = fault := by
  unfold instantiate
  split <;> simp_all

theorem TagCheck.instantiate_eq_error_iff {c : TagCheck} {root : Root} {fault : Fault} :
    c.instantiate root = .error fault ↔
      c.path.root.isInstantiated = true ∧ .alreadyInstantiated c.path.term = fault := by
  rw [← @AccessPath.instantiate_eq_error_iff c.path root, instantiate]
  cases c.path.instantiate root <;> simp [bind, Except.bind, pure, Except.pure]

namespace Manifest

variable {m : Manifest} {program : Program}

/-- For each check of the program, in order, the root that it is an instance for, or none if it is
    the check as it was declared. -/
def targets (m : Manifest) : List (Option Root) :=
  m.checks.flatMap fun decl => none :: decl.instances.map some

theorem some_mem_targets {root : Root} :
    some root ∈ m.targets ↔ ∃ decl ∈ m.checks, root ∈ decl.instances := by
  simp [targets]

/-- An instance starts at the root that it is made for. -/
theorem Expands.forall₂_targets (h : m.Expands program) :
    List.Forall₂ (fun c target => ∀ root, target = some root → c.path.root = root)
      program.checks m.targets := by
  obtain ⟨_, _, _, _, _, _, _, _, _, checks, hchecks, rfl⟩ := h
  rw [targets, List.flatMap_def]
  refine List.rel_flatten ?_
  rw [List.forall₂_map_right_iff]
  refine (forall₂_of_mapM_eq_ok hchecks).flip.imp fun list decl hlist => ?_
  obtain ⟨predicate, _, _, _, _, rfl⟩ := checksOf_eq_ok_iff.mp hlist
  refine .cons nofun ?_
  rw [List.forall₂_map_left_iff, List.forall₂_map_right_iff, List.forall₂_same]
  rintro root _ _ ⟨⟩
  rfl

/-- Every check of the program that is an instance starts at a handle connection. -/
def Concrete (m : Manifest) (program : Program) : Prop :=
  List.Forall₂ (fun c target => target.isSome = true → c.path.root.isInstantiated = true)
    program.checks m.targets

/-- The instances of a program are as concrete as the roots that they are made for. -/
theorem Expands.concrete_iff (h : m.Expands program) : m.Concrete program ↔
    ∀ decl ∈ m.checks, ∀ root ∈ decl.instances, root.isInstantiated = true := by
  have htargets : m.Concrete program ↔
      ∀ target ∈ m.targets, ∀ root, target = some root → root.isInstantiated = true := by
    refine forall₂_iff_forall_right h.forall₂_targets fun c target hroot => ?_
    cases target with
    | none => simp
    | some root => simp [hroot root rfl]
  rw [htargets]
  constructor
  · intro hroots decl hdecl root hroot
    exact hroots _ (some_mem_targets.mpr ⟨decl, hdecl, hroot⟩) root rfl
  · rintro hroots _ htarget root rfl
    obtain ⟨decl, hdecl, hroot⟩ := some_mem_targets.mp htarget
    exact hroots decl hdecl root hroot

/-- Instantiation leads to a handle connection exactly when its root is one. The instances in the
    program of a manifest are all concrete exactly when all roots that the manifest lists for
    instances are, and any path or check that was given a root is refused every other root exactly
    when that root is a handle connection. -/
theorem concrete_iff_targets_concrete (h : m.program = .ok program) :
    (m.Concrete program ↔
      ∀ decl ∈ m.checks, ∀ root ∈ decl.instances, root.isInstantiated = true) ∧
    (∀ (path result : AccessPath) (root : Root), path.instantiate root = .ok result →
      result.root.isInstantiated = root.isInstantiated ∧
      ∀ other, result.instantiate other = .error (.alreadyInstantiated result.term) ↔
        root.isInstantiated = true) ∧
    ∀ (c copy : TagCheck) (root : Root), c.instantiate root = .ok copy →
      copy.path.root.isInstantiated = root.isInstantiated ∧
      ∀ other, copy.instantiate other = .error (.alreadyInstantiated copy.path.term) ↔
        root.isInstantiated = true := by
  refine ⟨(program_eq_ok_iff.mp h).1.concrete_iff, ?_, ?_⟩
  · intro path result root hresult
    obtain ⟨_, rfl⟩ := AccessPath.instantiate_eq_ok_iff.mp hresult
    simp [AccessPath.instantiate_eq_error_iff]
  · intro c copy root hcopy
    obtain ⟨_, rfl⟩ := TagCheck.instantiate_eq_ok_iff.mp hcopy
    simp [TagCheck.instantiate_eq_error_iff]

/-- A check of a specification's field that is repeated for one other root. -/
def repeatedFor (root : Root) : Manifest where
  predicates := [("t", .tag "t")]
  checks := [⟨⟨.specification "P" "h", [⟨"f"⟩]⟩, "t", [root]⟩]

/-- Repeated for a handle connection, the check cannot be instantiated once more. -/
theorem concrete_repeatedFor_connection : ∃ program,
    (repeatedFor (.connection "R" "Q" "g")).program = .ok program ∧
    (repeatedFor (.connection "R" "Q" "g")).Concrete program ∧
    ∃ copy : AccessPath,
      AccessPath.instantiate ⟨.specification "P" "h", [⟨"f"⟩]⟩ (.connection "R" "Q" "g") =
        .ok copy ∧
      ∀ other, copy.instantiate other = .error (.alreadyInstantiated "R.Q.g.f") := by
  have hprogram : (repeatedFor (.connection "R" "Q" "g")).program = .ok _ := rfl
  obtain ⟨hconcrete, hpaths, _⟩ := concrete_iff_targets_concrete hprogram
  have hcopy : AccessPath.instantiate ⟨.specification "P" "h", [⟨"f"⟩]⟩
      (.connection "R" "Q" "g") = .ok ⟨.connection "R" "Q" "g", [⟨"f"⟩]⟩ := rfl
  refine ⟨_, hprogram, hconcrete.mpr ?_, _, hcopy, fun other => ?_⟩
  · simp [repeatedFor, Root.isInstantiated]
  · exact ((hpaths _ _ _ hcopy).2 other).mpr rfl

/-- Repeated for another specification, it still has no handle connection at its root, and is given
    a third root without being refused. -/
theorem not_concrete_repeatedFor_specification : ∃ program,
    (repeatedFor (.specification "Q" "g")).program = .ok program ∧
    ¬ (repeatedFor (.specification "Q" "g")).Concrete program ∧
    ∃ copy again : AccessPath,
      AccessPath.instantiate ⟨.specification "P" "h", [⟨"f"⟩]⟩ (.specification "Q" "g") = .ok copy ∧
      copy.root.isInstantiated = false ∧
      copy.instantiate (.connection "R" "Q" "g") = .ok again := by
  have hprogram : (repeatedFor (.specification "Q" "g")).program = .ok _ := rfl
  refine ⟨_, hprogram, ?_, _, _, rfl, rfl, rfl⟩
  rw [(program_eq_ok_iff.mp hprogram).1.concrete_iff]
  simp [repeatedFor, Root.isInstantiated]

end Manifest

end InfoFlow
