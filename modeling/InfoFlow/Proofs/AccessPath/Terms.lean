import InfoFlow.Proofs.Validity

namespace InfoFlow

namespace AccessPath

/-- The path starts at a handle connection, and the other one, with the same names, at the
    specification: what is the handle of the one is the outermost field of the other. The root of a
    connection has three names, and that of a specification has two. -/
def Overlays (path other : AccessPath) : Prop :=
  ∃ recipe particle handle selectors, path = ⟨.connection recipe particle handle, selectors⟩ ∧
    other = ⟨.specification recipe particle, ⟨handle⟩ :: selectors⟩

theorem Overlays.isInstantiated_ne {path other : AccessPath} (h : path.Overlays other) :
    path.root.isInstantiated ≠ other.root.isInstantiated := by
  obtain ⟨_, _, _, _, rfl, rfl⟩ := h
  simp [Root.isInstantiated]

theorem names_ne_nil (path : AccessPath) : path.names ≠ [] := by
  obtain ⟨root, selectors⟩ := path
  cases root <;> simp [names, Root.names]

theorem fields_injective : Function.Injective Chain.fields :=
  List.map_injective_iff.mpr fun ⟨_⟩ ⟨_⟩ h => congrArg Selector.mk h

/-- Paths with the same names are the same or overlay each other. Nothing is asked of the names. -/
theorem names_eq_names_iff {p q : AccessPath} :
    p.names = q.names ↔ p = q ∨ p.Overlays q ∨ q.Overlays p := by
  constructor
  · -- With roots of one kind the names divide in one way; with both kinds the shorter root leaves
    -- a name over for the first field.
    intro h
    obtain ⟨proot, pselectors⟩ := p
    obtain ⟨qroot, qselectors⟩ := q
    cases proot with
    | connection recipe particle handle =>
      cases qroot with
      | connection recipe' particle' handle' =>
        obtain ⟨rfl, rfl, rfl, hfields⟩ : recipe = recipe' ∧ particle = particle' ∧
            handle = handle' ∧ pselectors.fields = qselectors.fields := by
          simpa [names, Root.names] using h
        exact .inl (congrArg _ (fields_injective hfields))
      | specification particle' handle' =>
        obtain ⟨rfl, rfl, hfields⟩ : recipe = particle' ∧ particle = handle' ∧
            handle :: pselectors.fields = qselectors.fields := by
          simpa [names, Root.names] using h
        have hselectors : Chain.fields (⟨handle⟩ :: pselectors) = qselectors.fields := hfields
        exact .inr (.inl ⟨_, _, _, _, rfl, congrArg _ (fields_injective hselectors).symm⟩)
    | specification particle handle =>
      cases qroot with
      | connection recipe' particle' handle' =>
        obtain ⟨rfl, rfl, hfields⟩ : particle = recipe' ∧ handle = particle' ∧
            pselectors.fields = handle' :: qselectors.fields := by
          simpa [names, Root.names] using h
        have hselectors : pselectors.fields = Chain.fields (⟨handle'⟩ :: qselectors) := hfields
        exact .inr (.inr ⟨_, _, _, _, rfl, congrArg _ (fields_injective hselectors)⟩)
      | specification particle' handle' =>
        obtain ⟨rfl, rfl, hfields⟩ : particle = particle' ∧ handle = handle' ∧
            pselectors.fields = qselectors.fields := by
          simpa [names, Root.names] using h
        exact .inl (congrArg _ (fields_injective hfields))
  · rintro (rfl | ⟨_, _, _, _, rfl, rfl⟩ | ⟨_, _, _, _, rfl, rfl⟩)
    · rfl
    · rfl
    · rfl

/-- The names along a valid path are what stands between the dots of its term. -/
theorem Valid.splitOn_term {path : AccessPath} (h : path.Valid) :
    path.term.toList.splitOn '.' = path.names.map String.toList := by
  have hdot : ".".toList = ['.'] := rfl
  rw [term, String.toList_intercalate, hdot]
  refine List.splitOn_intercalate _ (fun part hpart => ?_) (by simpa using path.names_ne_nil)
  obtain ⟨name, hname, rfl⟩ := List.mem_map.mp hpart
  exact (h name hname).ne_dot

theorem Valid.term_eq_term_iff {p q : AccessPath} (hp : p.Valid) (hq : q.Valid) :
    p.term = q.term ↔ p.names = q.names := by
  constructor
  · intro h
    have hsplit : p.names.map String.toList = q.names.map String.toList := by
      rw [← hp.splitOn_term, ← hq.splitOn_term, h]
    exact List.map_injective_iff.mpr (fun _ _ => String.toList_injective) hsplit
  · intro h
    rw [term, term, h]

/-- The collisions of terms among the paths that pass their checks: two of them have one term when
    they are the same, or when one starts at a handle connection and the other one at the
    specification that is named by its recipe and particle, with the handle as its outermost field.
    So no two of them that start at roots of one kind collide. -/
theorem term_collision_iff {p q : AccessPath} (hp : p.check = .ok ()) (hq : q.check = .ok ()) :
    (p.term = q.term ↔ p = q ∨ p.Overlays q ∨ q.Overlays p) ∧
    (p.root.isInstantiated = q.root.isInstantiated → (p.term = q.term ↔ p = q)) := by
  have hiff : p.term = q.term ↔ p = q ∨ p.Overlays q ∨ q.Overlays p := by
    rw [(check_eq_ok_iff.mp hp).term_eq_term_iff (check_eq_ok_iff.mp hq), names_eq_names_iff]
  refine ⟨hiff, fun hroots => ⟨fun hterm => ?_, congrArg term⟩⟩
  obtain heq | hover | hover := hiff.mp hterm
  · exact heq
  · exact absurd hroots hover.isInstantiated_ne
  · exact absurd hroots.symm hover.isInstantiated_ne

/-- A field of a handle connection and a field of a field of a specification with one term, and a
    third path that has another one though its names are made of the same letters. -/
theorem term_collision_connection :
    let concrete : AccessPath := ⟨.connection "R" "P" "in", [⟨"f"⟩]⟩
    let spec : AccessPath := ⟨.specification "R" "P", [⟨"in"⟩, ⟨"f"⟩]⟩
    let other : AccessPath := ⟨.specification "R" "P", [⟨"inf"⟩]⟩
    concrete.check = .ok () ∧ spec.check = .ok () ∧ other.check = .ok () ∧
    concrete.term = spec.term ∧ concrete ≠ spec ∧ other.term ≠ spec.term := by
  intro concrete spec other
  have hconcrete : concrete.check = .ok () := by decide
  have hspec : spec.check = .ok () := by decide
  have hother : other.check = .ok () := by decide
  refine ⟨hconcrete, hspec, hother, ?_, by decide, ?_⟩
  · exact (term_collision_iff hconcrete hspec).1.mpr (.inr (.inl ⟨_, _, _, _, rfl, rfl⟩))
  · rw [ne_eq, (term_collision_iff hother hspec).2 rfl]
    decide

end AccessPath

end InfoFlow
