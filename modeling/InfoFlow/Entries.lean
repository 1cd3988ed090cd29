namespace InfoFlow

/-- Values under names, each name once and in ascending order. All tables that are looked up by name
    are kept this way, so what is written from them comes in the order of names. -/
abbrev Entries (α : Type) := List (String × α)

namespace Entries

variable {α : Type}

/-- The value under a name. -/
def get? (name : String) : Entries α → Option α
  | [] => none
  | (key, value) :: rest => if key = name then some value else get? name rest

/-- Whether there is a value under a name. -/
def has (name : String) (entries : Entries α) : Bool :=
  (get? name entries).isSome

/-- Puts a value under a name, in place of the value that was there. -/
def put (name : String) (value : α) : Entries α → Entries α
  | [] => [(name, value)]
  | (key, old) :: rest =>
    match compare name key with
    | .lt => (name, value) :: (key, old) :: rest
    | .eq => (name, value) :: rest
    | .gt => (key, old) :: put name value rest

/-- The names, in ascending order. -/
def names (entries : Entries α) : List String :=
  entries.map Prod.fst

theorem get?_put_self (name : String) (value : α) (entries : Entries α) :
    get? name (put name value entries) = some value := by
  induction entries with
  | nil => simp [put, get?]
  | cons entry rest ih =>
    rw [put]
    split
    · simp [get?]
    · simp [get?]
    · rename_i h
      have : entry.1 ≠ name := by
        rintro rfl
        simp [Std.ReflCmp.compare_self] at h
      simp [get?, this, ih]

theorem get?_put_of_ne {name other : String} (h : name ≠ other) (value : α)
    (entries : Entries α) : get? other (put name value entries) = get? other entries := by
  induction entries with
  | nil => simp [put, get?, h]
  | cons entry rest ih =>
    rw [put]
    split
    · simp [get?, h]
    · rename_i heq
      have : name = entry.1 := Std.LawfulEqCmp.eq_of_compare heq
      simp [get?, h, ← this]
    · simp [get?, ih]

theorem has_put {name other : String} {value : α} {entries : Entries α} :
    (entries.put name value).has other = (decide (name = other) || entries.has other) := by
  by_cases h : name = other
  · subst h
    simp [has, get?_put_self]
  · simp [has, get?_put_of_ne h, h]

theorem mem_names_iff {name : String} {entries : Entries α} :
    name ∈ entries.names ↔ entries.has name = true := by
  induction entries with
  | nil => simp [names, has, get?]
  | cons entry rest ih =>
    have hrest : name ∈ rest.map Prod.fst ↔ (get? name rest).isSome = true := ih
    by_cases h : entry.1 = name
    · simp [names, has, get?, h]
    · simp [names, has, get?, h, Ne.symm h, hrest]

theorem mem_of_get?_eq_some {name : String} {value : α} {entries : Entries α}
    (h : entries.get? name = some value) : (name, value) ∈ entries := by
  induction entries with
  | nil => cases h
  | cons entry rest ih =>
    obtain ⟨key, first⟩ := entry
    rw [get?] at h
    split at h
    · cases h
      simp_all
    · exact List.mem_cons_of_mem _ (ih h)

end Entries

end InfoFlow
