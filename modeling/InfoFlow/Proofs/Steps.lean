import Mathlib.Data.List.Forall2

namespace InfoFlow

/-- A computation succeeds when both of its steps do. -/
theorem bind_eq_ok_iff {ε α β : Type} {x : Except ε α} {f : α → Except ε β} {b : β} :
    (x >>= f) = .ok b ↔ ∃ a, x = .ok a ∧ f a = .ok b := by
  cases x <;> simp [Bind.bind, Except.bind]

theorem check_bind_eq_ok_iff {ε β : Type} {x : Except ε Unit} {f : Unit → Except ε β} {b : β} :
    (x >>= f) = .ok b ↔ x = .ok () ∧ f () = .ok b :=
  bind_eq_ok_iff.trans ⟨fun ⟨(), h⟩ => h, fun h => ⟨(), h⟩⟩

/-- A computation fails when one of its steps does. -/
theorem bind_eq_error_iff {ε α β : Type} {x : Except ε α} {f : α → Except ε β} {e : ε} :
    (x >>= f) = .error e ↔ x = .error e ∨ ∃ a, x = .ok a ∧ f a = .error e := by
  cases x <;> simp [Bind.bind, Except.bind]

theorem map_eq_ok_iff {ε α β : Type} {f : α → β} {x : Except ε α} {b : β} :
    f <$> x = .ok b ↔ ∃ a, x = .ok a ∧ f a = b := by
  cases x <;> simp [Functor.map, Except.map]

theorem forM_eq_ok_iff {ε α : Type} {f : α → Except ε Unit} {list : List α} :
    forM list f = .ok () ↔ ∀ a ∈ list, f a = .ok () := by
  induction list with
  | nil => simp [pure, Except.pure]
  | cons a rest ih => simp [check_bind_eq_ok_iff, ih]

/-- A failure comes from a member of the list. -/
theorem exists_of_forM_eq_error {ε α : Type} {f : α → Except ε Unit} {list : List α} {e : ε}
    (h : forM list f = .error e) : ∃ a ∈ list, f a = .error e := by
  induction list with
  | nil => cases h
  | cons a rest ih =>
    rw [List.forM_cons, bind_eq_error_iff] at h
    obtain h | ⟨_, _, h⟩ := h
    · exact ⟨a, List.mem_cons_self, h⟩
    · obtain ⟨other, hother, h⟩ := ih h
      exact ⟨other, List.mem_cons_of_mem _ hother, h⟩

section

variable {ε α β : Type} {f : α → Except ε β} {list : List α} {results : List β}

theorem mapM_cons_eq_ok_iff {a : α} : (a :: list).mapM f = .ok results ↔
    ∃ b, f a = .ok b ∧ ∃ rest, list.mapM f = .ok rest ∧ b :: rest = results := by
  simp [List.mapM_cons, bind_eq_ok_iff, pure, Except.pure]

/-- A list is gone through when each of its members gives a result. -/
theorem exists_mapM_eq_ok_iff :
    (∃ results, list.mapM f = .ok results) ↔ ∀ a ∈ list, ∃ b, f a = .ok b := by
  induction list with
  | nil => simp [pure, Except.pure]
  | cons a rest ih =>
    rw [List.forall_mem_cons, ← ih]
    constructor
    · rintro ⟨results, h⟩
      obtain ⟨b, hfirst, bs, hrest, _⟩ := mapM_cons_eq_ok_iff.mp h
      exact ⟨⟨b, hfirst⟩, bs, hrest⟩
    · rintro ⟨⟨b, hfirst⟩, bs, hrest⟩
      exact ⟨b :: bs, mapM_cons_eq_ok_iff.mpr ⟨b, hfirst, bs, hrest, rfl⟩⟩

theorem mem_of_mapM_eq_ok (h : list.mapM f = .ok results) {b : β} :
    b ∈ results ↔ ∃ a ∈ list, f a = .ok b := by
  induction list generalizing results with
  | nil =>
    cases h
    simp
  | cons a rest ih =>
    obtain ⟨first, hfirst, bs, hrest, rfl⟩ := mapM_cons_eq_ok_iff.mp h
    simp [hfirst, ih hrest, eq_comm]

/-- Each result is that of the member at its place. -/
theorem forall₂_of_mapM_eq_ok (h : list.mapM f = .ok results) :
    List.Forall₂ (fun a b => f a = .ok b) list results := by
  induction list generalizing results with
  | nil =>
    cases h
    exact .nil
  | cons a rest ih =>
    obtain ⟨first, hfirst, bs, hrest, rfl⟩ := mapM_cons_eq_ok_iff.mp h
    exact .cons hfirst (ih hrest)

theorem mem_flatten_of_mapM_eq_ok {f : α → Except ε (List β)} {results : List (List β)}
    (h : list.mapM f = .ok results) {b : β} :
    b ∈ results.flatten ↔ ∃ a ∈ list, ∃ bs, f a = .ok bs ∧ b ∈ bs := by
  simp only [List.mem_flatten, mem_of_mapM_eq_ok h]
  constructor
  · rintro ⟨bs, ⟨a, ha, hbs⟩, hb⟩
    exact ⟨a, ha, bs, hbs, hb⟩
  · rintro ⟨a, ha, bs, hbs, hb⟩
    exact ⟨bs, ⟨a, ha, hbs⟩, hb⟩

/-- Going through a list is mapping when the single results are known. -/
theorem mapM_eq_ok_iff_map {P : α → Prop} {g : α → β} (hf : ∀ a b, f a = .ok b ↔ P a ∧ g a = b) :
    list.mapM f = .ok results ↔ (∀ a ∈ list, P a) ∧ list.map g = results := by
  induction list generalizing results with
  | nil => simp [pure, Except.pure]
  | cons a rest ih =>
    rw [mapM_cons_eq_ok_iff]
    simp [hf, ih, and_assoc]

/-- A list that is gone through by one function is gone through by any other one that gives the same
    wherever the first one succeeds. -/
theorem mapM_eq_ok_of_imp {g : α → Except ε β} (himp : ∀ a b, f a = .ok b → g a = .ok b)
    (h : list.mapM f = .ok results) : list.mapM g = .ok results := by
  induction list generalizing results with
  | nil => exact h
  | cons a rest ih =>
    obtain ⟨b, hb, bs, hbs, rfl⟩ := mapM_cons_eq_ok_iff.mp h
    exact mapM_cons_eq_ok_iff.mpr ⟨b, himp a b hb, bs, ih hbs, rfl⟩

end

end InfoFlow
