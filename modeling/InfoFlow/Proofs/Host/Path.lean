import InfoFlow.Host.Path

namespace InfoFlow.Path

section

variable {held chars : List Char} {path directory : String}

theorem splitSteps_cons {c : Char} (hc : c ≠ '/') (held rest : List Char) :
    splitSteps held (c :: rest) = splitSteps (c :: held) rest := by
  rw [splitSteps]
  exact hc

theorem splitSteps_append_slash (held before after : List Char) :
    splitSteps held (before ++ '/' :: after) = splitSteps held before ++ splitSteps [] after := by
  induction before generalizing held with
  | nil => simp [splitSteps]
  | cons c rest ih =>
    by_cases hc : c = '/'
    · subst hc
      simp [splitSteps, ih]
    · rw [List.cons_append, splitSteps_cons hc, splitSteps_cons hc, ih]

theorem splitSteps_of_notMem (h : '/' ∉ chars) :
    splitSteps held chars = [String.ofList (held.reverse ++ chars)] := by
  induction chars generalizing held with
  | nil => simp [splitSteps]
  | cons c rest ih =>
    obtain ⟨hc, hrest⟩ := not_or.mp (mt List.mem_cons.mpr h)
    rw [splitSteps_cons (Ne.symm hc), ih hrest]
    simp

theorem steps_append_slash (before after : String) :
    steps (before ++ "/" ++ after) = steps before ++ steps after := by
  have hchars : (before ++ "/" ++ after).toList = before.toList ++ '/' :: after.toList := by simp
  rw [steps, hchars, splitSteps_append_slash, List.filter_append]
  rfl

@[simp] theorem steps_empty : steps "" = [] := rfl

/-- A text without slashes is a step. -/
theorem steps_of_notMem (hne : path ≠ "") (h : '/' ∉ path.toList) : steps path = [path] := by
  rw [steps, splitSteps_of_notMem h]
  simp [hne]

theorem isAbsolute_empty : isAbsolute "" = false := rfl

theorem isAbsolute_append {first rest : String} (hne : first ≠ "") :
    isAbsolute (first ++ rest) = isAbsolute first := by
  rw [isAbsolute, isAbsolute, String.toList_append]
  cases hfirst : first.toList with
  | nil => exact absurd (String.toList_eq_nil_iff.mp hfirst) hne
  | cons c more => rfl

/-- The directory does not matter to an absolute path. -/
theorem join_of_isAbsolute (h : isAbsolute path = true) (directory : String) :
    join directory path = path := by
  rw [join, h]
  rfl

@[simp] theorem join_empty (path : String) : join "" path = path := by
  simp [join]

/-- A path that is not absolute stands behind its directory, with a slash in between. -/
theorem join_cases (h : isAbsolute path = false) (directory : String) :
    (directory = "" ∧ join directory path = path) ∨
    (∃ above, directory = above ++ "/" ∧ join directory path = directory ++ path) ∨
    (directory ≠ "" ∧ join directory path = directory ++ "/" ++ path) := by
  by_cases hempty : directory = ""
  · exact .inl ⟨hempty, by rw [hempty, join_empty]⟩
  · have hisEmpty : directory.isEmpty = false := by simpa using hempty
    by_cases hslash : directory.toList.getLast? = some '/'
    · obtain ⟨chars, hchars⟩ := List.getLast?_eq_some_iff.mp hslash
      refine .inr (.inl ⟨String.ofList chars, String.toList_injective (by simpa using hchars), ?_⟩)
      simp [join, h, hisEmpty, hslash]
    · refine .inr (.inr ⟨hempty, ?_⟩)
      simp [join, h, hisEmpty, hslash]

/-- What stands before such a path depends on the directory alone. -/
theorem join_eq_append (h : isAbsolute path = false) (directory : String) :
    join directory path = join directory "" ++ path := by
  rw [join, join, h, isAbsolute_empty]
  split
  · rw [String.empty_append]
  · split
    · rw [String.append_empty]
    · rw [String.append_empty]

theorem isAbsolute_join (h : isAbsolute path = false) :
    isAbsolute (join directory path) = isAbsolute directory := by
  obtain ⟨rfl, hjoin⟩ | ⟨above, rfl, hjoin⟩ | ⟨hne, hjoin⟩ := join_cases h directory
  · rw [hjoin, h, isAbsolute_empty]
  · rw [hjoin, isAbsolute_append (by simp)]
  · rw [hjoin, String.append_assoc, isAbsolute_append hne]

theorem steps_join (h : isAbsolute path = false) :
    steps (join directory path) = steps directory ++ steps path := by
  obtain ⟨rfl, hjoin⟩ | ⟨above, rfl, hjoin⟩ | ⟨_, hjoin⟩ := join_cases h directory
  · rw [hjoin, steps_empty, List.nil_append]
  · -- The slash at the end of a directory makes no step.
    have habove : steps (above ++ "/") = steps above := by simpa using steps_append_slash above ""
    rw [hjoin, habove, steps_append_slash]
  · rw [hjoin, steps_append_slash]

theorem exists_ne_empty_of_mem_splitSteps (h : held ≠ [] ∨ ∃ c ∈ chars, c ≠ '/') :
    ∃ step ∈ splitSteps held chars, step ≠ "" := by
  induction chars generalizing held with
  | nil =>
    obtain hheld | ⟨_, hc, _⟩ := h
    · exact ⟨_, List.mem_singleton_self _, by simpa using hheld⟩
    · cases hc
  | cons c rest ih =>
    by_cases hc : c = '/'
    · subst hc
      by_cases hheld : held = []
      · have hrest : ∃ c ∈ rest, c ≠ '/' := by simpa [hheld] using h
        obtain ⟨step, hstep, hne⟩ := ih (.inr hrest)
        exact ⟨step, List.mem_cons_of_mem _ hstep, hne⟩
      · exact ⟨_, List.mem_cons_self, by simpa using hheld⟩
    · rw [splitSteps_cons hc]
      exact ih (.inl (List.cons_ne_nil c held))

/-- A text leads somewhere unless it is made of slashes. -/
theorem steps_ne_nil (h : ∃ c ∈ path.toList, c ≠ '/') : steps path ≠ [] := by
  have hsome : ([] : List Char) ≠ [] ∨ ∃ c ∈ path.toList, c ≠ '/' := .inr h
  obtain ⟨step, hstep, hne⟩ := exists_ne_empty_of_mem_splitSteps hsome
  exact List.ne_nil_of_mem (List.mem_filter.mpr ⟨hstep, by simpa using hne⟩)

end

/-- The path names an entry of the directory itself: the way to it goes through the directory, and
    then there is a single step by a name. -/
def IsEntry (directory path : String) : Prop :=
  isAbsolute path = isAbsolute directory ∧ path.toList.getLast? ≠ some '/' ∧
    ∃ name, name ≠ "." ∧ name ≠ ".." ∧ steps path = steps directory ++ [name]

/-- What names of files end in: a text that is no step of its own, and holds no slash. -/
structure IsExtension (extension : String) : Prop where
  length : 2 < extension.length
  noSlash : '/' ∉ extension.toList

theorem isAbsolute_of_notMem {path : String} (h : '/' ∉ path.toList) : isAbsolute path = false := by
  rw [isAbsolute, beq_eq_false_iff_ne]
  exact fun hhead => h (List.mem_of_mem_head? hhead)

theorem exists_join_eq_append {path : String} (h : isAbsolute path = false) (directory : String) :
    ∃ before, join directory path = before ++ path := by
  obtain ⟨_, hjoin⟩ | ⟨_, _, hjoin⟩ | ⟨_, hjoin⟩ := join_cases h directory
  · exact ⟨"", by rw [hjoin, String.empty_append]⟩
  · exact ⟨directory, hjoin⟩
  · exact ⟨directory ++ "/", hjoin⟩

section

variable {directory name extension : String} (hextension : IsExtension extension)

include hextension

theorem IsExtension.ne_nil : extension.toList ≠ [] := by
  intro h
  have hlength := hextension.length
  rw [← String.length_toList, h] at hlength
  simp at hlength

/-- A name with an extension is too long to be idle or to lead up. -/
theorem IsExtension.append_ne {short : String} (hshort : short.length ≤ 2) :
    name ++ extension ≠ short := by
  rintro rfl
  have hlength := hextension.length
  rw [String.length_append] at hshort
  omega

/-- A path that ends in an extension names a file. -/
theorem IsExtension.getLast?_ne (before : String) :
    (before ++ extension).toList.getLast? ≠ some '/' := by
  rw [String.toList_append, List.getLast?_append, List.getLast?_eq_some_getLast hextension.ne_nil,
    Option.some_or]
  intro hlast
  exact hextension.noSlash (Option.some.inj hlast ▸ List.getLast_mem hextension.ne_nil)

theorem IsExtension.notMem_append (h : '/' ∉ name.toList) : '/' ∉ (name ++ extension).toList := by
  rw [String.toList_append, List.mem_append, not_or]
  exact ⟨h, hextension.noSlash⟩

theorem IsExtension.steps_join (h : '/' ∉ name.toList) (directory : String) :
    steps (join directory (name ++ extension)) = steps directory ++ [name ++ extension] := by
  have hslash := hextension.notMem_append h
  rw [Path.steps_join (isAbsolute_of_notMem hslash),
    steps_of_notMem (hextension.append_ne (by decide)) hslash]

/-- A name with an extension, and no slash, is an entry of every directory. -/
theorem isEntry_join (h : '/' ∉ name.toList) :
    IsEntry directory (join directory (name ++ extension)) := by
  have habsolute := isAbsolute_of_notMem (hextension.notMem_append h)
  obtain ⟨before, hbefore⟩ := exists_join_eq_append habsolute directory
  refine ⟨isAbsolute_join habsolute, ?_, name ++ extension, hextension.append_ne (by decide),
    hextension.append_ne (by decide), hextension.steps_join h directory⟩
  rw [hbefore, ← String.append_assoc]
  exact hextension.getLast?_ne _

/-- A name that leads further down is an entry of no directory. -/
theorem not_isEntry_join (h : '/' ∈ name.toList) (hname : isAbsolute name = false) :
    ¬ IsEntry directory (join directory (name ++ extension)) := by
  obtain ⟨first, rest, hsplit, hfirst⟩ := List.eq_append_cons_of_mem h
  have hne : name ≠ "" := by
    rintro rfl
    cases h
  have hpath : name ++ extension =
      String.ofList first ++ "/" ++ (String.ofList rest ++ extension) := by
    refine String.toList_injective ?_
    simp [hsplit]
  have habsolute : isAbsolute (name ++ extension) = false := by rw [isAbsolute_append hne, hname]
  have hfirstStep : steps (String.ofList first) ≠ [] := by
    have hfirstNe : first ≠ [] := by
      rintro rfl
      simp [isAbsolute, hsplit] at hname
    obtain ⟨c, hc⟩ := List.exists_mem_of_ne_nil first hfirstNe
    exact steps_ne_nil ⟨c, by simpa using hc, ne_of_mem_of_not_mem hc hfirst⟩
  have hrestStep : steps (String.ofList rest ++ extension) ≠ [] := by
    obtain ⟨c, hc⟩ := List.exists_mem_of_ne_nil _ hextension.ne_nil
    exact steps_ne_nil ⟨c, by simp [hc], ne_of_mem_of_not_mem hc hextension.noSlash⟩
  -- There is a step on either side of the slash, and an entry has a single one.
  rintro ⟨_, _, step, _, _, hsteps⟩
  rw [steps_join habsolute, hpath, steps_append_slash] at hsteps
  have hlength := congrArg List.length (List.append_cancel_left hsteps)
  have := List.length_pos_iff.mpr hfirstStep
  have := List.length_pos_iff.mpr hrestStep
  simp only [List.length_append, List.length_singleton] at hlength
  omega

end

end InfoFlow.Path
