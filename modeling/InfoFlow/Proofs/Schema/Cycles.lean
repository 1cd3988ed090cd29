import Mathlib.Data.List.Chain
import Mathlib.Data.List.Nodup
import InfoFlow.Proofs.Schema.Calls

namespace InfoFlow.Catalog

open Relation (TransGen)

section

variable {follow : String → Except Fault Schema} {names : List String}

theorem check_ne_cyclicSchema (name : String) :
    Identifier.check name ≠ .error (.cyclicSchema names) := by
  unfold Identifier.check
  split <;> simp

mutual

/-- A circle that is met while a type is resolved is met by following one of its references. -/
theorem exists_reference_of_resolveType (decl : TypeDecl)
    (h : resolveType follow decl = .error (.cyclicSchema names)) :
    ∃ target ∈ decl.references, follow target = .error (.cyclicSchema names) := by
  cases decl with
  | primitive => cases h
  | inline name fields =>
    rw [resolveType, bind_eq_error_iff] at h
    obtain h | ⟨_, _, h⟩ := h
    · exact exists_reference_of_resolveFields name fields [] h
    · cases h
  | named name =>
    rw [resolveType, bind_eq_error_iff] at h
    obtain h | ⟨_, _, h⟩ := h
    · exact ⟨name, List.mem_singleton_self name, h⟩
    · cases h

theorem exists_reference_of_resolveFields (schema : Option String)
    (fields : List (String × TypeDecl)) (done : Entries DataType)
    (h : resolveFields follow schema fields done = .error (.cyclicSchema names)) :
    ∃ target ∈ TypeDecl.fieldReferences fields, follow target = .error (.cyclicSchema names) := by
  cases fields with
  | nil => cases h
  | cons field rest =>
    obtain ⟨name, decl⟩ := field
    simp only [TypeDecl.fieldReferences, List.mem_append, or_and_right, exists_or]
    rw [resolveFields, ofExcept_eq, bind_eq_error_iff] at h
    obtain h | ⟨_, _, h⟩ := h
    · exact absurd h (check_ne_cyclicSchema name)
    · split at h
      · cases h
      · rw [bind_eq_error_iff] at h
        obtain h | ⟨type, _, h⟩ := h
        · exact .inl (exists_reference_of_resolveType decl h)
        · exact .inr (exists_reference_of_resolveFields schema rest _ h)

end

end

/-- The names being followed when a further one is met: declared names, none of them twice, each of
    which refers to the next one, and the last one to the one that is met. -/
structure Trail (declared : Entries SchemaDecl) (stack : List String) (name : String) : Prop where
  nodup : stack.Nodup
  known : ∀ other ∈ stack, declared.has other = true
  refers : (stack ++ [name]).IsChain (Refers declared)

/-- A circle of references: different declared names, each of which refers to the next one, and the
    last one to the first one, which is repeated at the end. -/
def IsCircle (declared : Entries SchemaDecl) (names : List String) : Prop :=
  ∃ first rest, names = first :: rest ++ [first] ∧ (first :: rest).Nodup ∧
    (∀ name ∈ first :: rest, declared.has name = true) ∧ names.IsChain (Refers declared)

section

variable {declared : Entries SchemaDecl} {stack names : List String} {name : String}

theorem Trail.start (name : String) : Trail declared [] name where
  nodup := .nil
  known := nofun
  refers := .singleton name

/-- What a declared name refers to is followed when the name was not met before. -/
theorem Trail.push (h : Trail declared stack name) (hnew : name ∉ stack) {target : String}
    (hrefers : Refers declared name target) : Trail declared (stack ++ [name]) target where
  nodup := List.nodup_append.mpr ⟨h.nodup, List.nodup_singleton name, by
    rintro other hother _ hname rfl
    exact hnew (List.mem_singleton.mp hname ▸ hother)⟩
  known := by
    obtain ⟨decl, hget, _⟩ := hrefers
    have hname : declared.has name = true := by simp [Entries.has, hget]
    exact List.forall_mem_append.mpr ⟨h.known, List.forall_mem_singleton.mpr hname⟩
  refers := by
    rw [List.append_assoc]
    exact List.isChain_append_cons_cons.mpr ⟨h.refers, hrefers, .singleton target⟩

/-- A name that is met again closes a circle. The names before it on the stack are cut off. -/
theorem Trail.isCircle_cycle (h : Trail declared stack name) (hmem : name ∈ stack) :
    IsCircle declared (cycle stack name) := by
  obtain ⟨before, after, rfl, hbefore⟩ := List.eq_append_cons_of_mem hmem
  have hdrop : (before ++ name :: after).dropWhile (· != name) = name :: after := by
    rw [List.dropWhile_append_of_pos]
    · simp
    · rintro other hother
      simpa using ne_of_mem_of_not_mem hother hbefore
  have hrefers := h.refers
  rw [List.append_assoc] at hrefers
  rw [cycle, hdrop]
  exact ⟨name, after, rfl, (List.nodup_append.mp h.nodup).2.1,
    fun other hother => h.known other (List.mem_append_right _ hother),
    hrefers.right_of_append⟩

/-- A circle that is reported while a name is expanded is one. -/
theorem Trail.isCircle_of_expandName (htrail : Trail declared stack name)
    (h : expandName declared stack name = .error (.cyclicSchema names)) :
    IsCircle declared names := by
  induction stack, name using expandName.induct declared with
  | case1 stack name hmem =>
    rw [expandName_of_mem hmem] at h
    cases h
    exact htrail.isCircle_cycle hmem
  | case2 stack name hnot hget =>
    rw [expandName_of_get?_eq_none hnot hget] at h
    cases h
  | case3 stack name hnot decl hget ih =>
    rw [expandName_of_get?_eq_some hnot hget, bind_eq_error_iff] at h
    obtain h | ⟨_, _, h⟩ := h
    · obtain ⟨target, htarget, h⟩ := exists_reference_of_resolveFields decl.name decl.fields [] h
      exact ih target (htrail.push hnot ⟨decl, hget, htarget⟩) h
    · cases h

theorem IsCircle.ne_nil (h : IsCircle declared names) : names ≠ [] := by
  obtain ⟨first, rest, rfl, _⟩ := h
  exact List.cons_ne_nil _ _

theorem IsCircle.has_declared (h : IsCircle declared names) (hname : name ∈ names) :
    declared.has name = true := by
  obtain ⟨first, rest, rfl, _, hknown, _⟩ := h
  obtain hname | hname := List.mem_append.mp hname
  · exact hknown name hname
  · exact hknown name (List.mem_singleton.mp hname ▸ List.mem_cons_self)

/-- Every name of a circle leads back to itself. -/
theorem IsCircle.transGen_self (h : IsCircle declared names) (hname : name ∈ names) :
    TransGen (Refers declared) name name := by
  obtain ⟨first, rest, rfl, _, _, hrefers⟩ := h
  have hleads : (first :: rest ++ [first]).Pairwise (TransGen (Refers declared)) :=
    List.isChain_iff_pairwise.mp (hrefers.imp fun _ _ => .single)
  obtain ⟨hfirst, _⟩ := List.pairwise_cons.mp hleads
  have hlast : ∀ other ∈ first :: rest, TransGen (Refers declared) other first :=
    fun other hother =>
      (List.pairwise_append.mp hleads).2.2 other hother first (List.mem_singleton_self first)
  obtain hname | hname := List.mem_append.mp hname
  · obtain rfl | hrest := List.mem_cons.mp hname
    · exact hlast _ List.mem_cons_self
    · exact (hlast name hname).trans (hfirst name (List.mem_append_left _ hrest))
  · obtain rfl := List.mem_singleton.mp hname
    exact hlast _ List.mem_cons_self

end

/-- The parts of a text between arrows, found from left to right. -/
def betweenArrows : List Char → List (List Char)
  | [] => [[]]
  | ' ' :: '-' :: '>' :: ' ' :: rest => [] :: betweenArrows rest
  | c :: rest => (betweenArrows rest).modifyHead (c :: ·)

/-- A text is split at its arrows. Names hold no blanks, so those between arrows come back, even a
    name that is an arrow itself. -/
def splitArrows (text : String) : List String :=
  (betweenArrows text.toList).map String.ofList

theorem betweenArrows_cons {c : Char} (hc : c ≠ ' ') (rest : List Char) :
    betweenArrows (c :: rest) = (betweenArrows rest).modifyHead (c :: ·) := by
  rw [betweenArrows]
  rintro _ rfl
  exact absurd rfl hc

theorem betweenArrows_of_notMem {part : List Char} (h : ' ' ∉ part) :
    betweenArrows part = [part] := by
  induction part with
  | nil => rfl
  | cons c rest ih =>
    obtain ⟨hc, hrest⟩ := not_or.mp (mt List.mem_cons.mpr h)
    rw [betweenArrows_cons (Ne.symm hc), ih hrest]
    rfl

theorem betweenArrows_append {part : List Char} (h : ' ' ∉ part) (rest : List Char) :
    betweenArrows (part ++ " -> ".toList ++ rest) = part :: betweenArrows rest := by
  induction part with
  | nil => rfl
  | cons c more ih =>
    obtain ⟨hc, hmore⟩ := not_or.mp (mt List.mem_cons.mpr h)
    rw [List.cons_append, List.cons_append, betweenArrows_cons (Ne.symm hc), ih hmore]
    rfl

/-- Parts without blanks are found again between the arrows that join them. -/
theorem splitArrows_intercalate {parts : List String} (hne : parts ≠ [])
    (h : ∀ part ∈ parts, ' ' ∉ part.toList) : splitArrows (" -> ".intercalate parts) = parts := by
  have hchars : betweenArrows (" -> ".intercalate parts).toList = parts.map String.toList := by
    rw [String.toList_intercalate]
    induction parts with
    | nil => exact absurd rfl hne
    | cons part rest ih =>
      obtain ⟨hpart, hrest⟩ := List.forall_mem_cons.mp h
      cases rest with
      | nil => simpa using betweenArrows_of_notMem hpart
      | cons second rest =>
        have hmore := ih (List.cons_ne_nil second rest) hrest
        rw [List.map_cons, List.map_cons, List.intercalate_cons_cons, betweenArrows_append hpart,
          ← List.map_cons, hmore]
  rw [splitArrows, hchars, List.map_map]
  exact List.map_id'' (fun _ => String.ofList_toList) parts

/-- A call that resolves something ends with the fault. -/
def Reports (catalog : Catalog) (fault : Fault) : Prop :=
  (∃ name, (catalog.schema name).1 = .error fault) ∨
  (∃ decl, (catalog.resolve decl).1 = .error fault) ∨ catalog.resolveAll.1 = .error fault

section

variable {names : List String}

/-- A circle that a call reports is met by expanding a name. -/
theorem Coherent.exists_expandName_of_reports {catalog : Catalog} (hcatalog : catalog.Coherent)
    (h : catalog.Reports (.cyclicSchema names)) :
    ∃ name, expandName catalog.declared [] name = .error (.cyclicSchema names) := by
  obtain ⟨name, h⟩ | ⟨decl, h⟩ | h := h
  · rw [(hcatalog.schema name).1] at h
    exact ⟨name, h⟩
  · rw [(hcatalog.resolve decl).1] at h
    obtain ⟨target, _, h⟩ := exists_reference_of_resolveType decl h
    exact ⟨target, h⟩
  · rw [hcatalog.resolveAll.1] at h
    obtain ⟨name, _, h⟩ := exists_of_forM_eq_error h
    obtain h | ⟨_, _, h⟩ := bind_eq_error_iff.mp h
    · exact ⟨name, h⟩
    · cases h

/-- A circle that is reported is one: whatever calls were made before, failed or not, the names that
    the fault carries are those of different declared schemas, each of which refers to the next one
    somewhere in its declaration, and the first one once more at the end, to which the last one
    refers. Names that only lead to the circle are not among them, as each one leads back to itself.
    The message shows these names with arrows between them, and its text can be split at the arrows
    in no other way into parts without blanks. -/
theorem circle_exact (calls : List Call) (h : (after calls).Reports (.cyclicSchema names)) :
    IsCircle (after calls).declared names ∧
    (∀ name ∈ names, TransGen (Refers (after calls).declared) name name) ∧
    ∃ text, (Fault.cyclicSchema names).message = "cyclic schema: " ++ text ∧
      " -> ".intercalate names = text ∧ splitArrows text = names ∧
      ∀ parts, (∀ part ∈ parts, ' ' ∉ part.toList) → " -> ".intercalate parts = text →
        parts = names := by
  obtain ⟨name, hname⟩ := (coherent_after calls).exists_expandName_of_reports h
  have hcircle := (Trail.start name).isCircle_of_expandName hname
  have hblank : ∀ name ∈ names, ' ' ∉ name.toList := fun name hmem =>
    (valid_of_has_declared calls name (hcircle.has_declared hmem)).ne_blank
  have hsplit := splitArrows_intercalate hcircle.ne_nil hblank
  refine ⟨hcircle, fun _ => hcircle.transGen_self, _, rfl, rfl, hsplit, fun parts hparts heq => ?_⟩
  by_cases hne : parts = []
  · -- The empty text has one part, and a circle has two names at least.
    have hempty : names = splitArrows "" := by rw [← hsplit, ← heq, hne]; rfl
    obtain ⟨first, rest, rfl, _⟩ := hcircle
    simp [splitArrows, betweenArrows] at hempty
  · rw [← hsplit, ← heq, splitArrows_intercalate hne hparts]

/-- Two schemas that refer to each other, one of them from a record in a record, and a third one
    that refers to them. The name of one is an arrow; the other one is declared a second time, which
    is refused; and there were calls that failed. -/
def arrows : List Call :=
  [.declare ⟨some "Entry", [("a", .primitive), ("b", .inline none [("c", .named "->")])]⟩,
    .declare ⟨some "->", [("outer", .inline none [("inner", .inline none
      [("to", .named "Loop")])])]⟩,
    .declare ⟨some "Loop", [("back", .named "->")]⟩, .declare ⟨some "Loop", []⟩,
    .resolveAll, .schema "Entry", .schema "Missing"]

/-- The schema at which the references are entered is not part of the circle. -/
theorem circle_exact_arrows : (after arrows).Reports (.cyclicSchema ["->", "Loop", "->"]) ∧
    IsCircle (after arrows).declared ["->", "Loop", "->"] ∧
    splitArrows "-> -> Loop -> ->" = ["->", "Loop", "->"] := by
  have hreports : (after arrows).Reports (.cyclicSchema ["->", "Loop", "->"]) := by
    refine .inl ⟨"Entry", ?_⟩
    with_unfolding_all rfl
  obtain ⟨hcircle, _, text, _, htext, hsplit, _⟩ := circle_exact arrows hreports
  subst htext
  exact ⟨hreports, hcircle, hsplit⟩

end

end InfoFlow.Catalog
