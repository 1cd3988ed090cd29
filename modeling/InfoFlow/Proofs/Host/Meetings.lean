import InfoFlow.Proofs.Host.Ways

namespace InfoFlow.Tree

section

variable {tree before after : Tree} {workDir place found : Location} {path other : String}
  {node : Node} {document : ByteArray}

theorem writeFile_eq_ok_iff : tree.writeFile workDir path document = .ok after ↔
    ∃ place, tree.placeToWrite workDir path = .ok place ∧
      tree.putDocument place document = after := by
  rw [writeFile, bind_eq_ok_iff]
  simp [pure, Except.pure]

theorem written_writeFile (h : tree.writeFile workDir path document = .ok after) :
    tree.Written after := by
  obtain ⟨place, _, rfl⟩ := writeFile_eq_ok_iff.mp h
  exact written_putDocument tree place document

theorem readFile_of_find {mode : Nat}
    (h : tree.find workDir path = .ok (place, .file document mode)) :
    tree.readFile workDir path = .ok document := by
  rw [readFile, h]
  rfl

/-- A path that leads to a file does not end in a slash. -/
theorem endsInSlash_of_find (h : tree.find workDir path = .ok (place, node))
    (hnode : node.isFile = true) : endsInSlash path = false := by
  obtain ⟨_, _, hplace, hslash⟩ := find_eq_ok_iff.mp h
  refine Bool.eq_false_iff.mpr fun hends => ?_
  obtain ⟨mode, hmode⟩ := hslash hends
  cases hplace.symm.trans hmode
  cases hnode

/-- There is a file at a place, or one can be put there. -/
def TakesFile (tree : Tree) (place : Location) : Prop :=
  ∀ node, tree.node? place = some node → node.isFile = true

/-- Where no file can be, nothing is changed by writing. -/
theorem putDocument_of_not_takesFile (h : ¬ tree.TakesFile place) :
    tree.putDocument place document = tree := by
  simp only [TakesFile, not_forall, Bool.not_eq_true] at h
  obtain ⟨node, hplace, hnode⟩ := h
  exact putDocument_of_not_isFile hplace hnode

theorem node?_putDocument_ne_none :
    (tree.putDocument place document).node? place ≠ none := by
  by_cases h : tree.TakesFile place
  · obtain ⟨mode, hmode⟩ := node?_putDocument_self document h
    simp [hmode]
  · rw [putDocument_of_not_takesFile h]
    intro hnone
    exact h fun node hnode => by cases hnone.symm.trans hnode

/-- A document that is written to one path is what is then read at the other one, and was not
    before. Different paths may meet, over links or by steps that stay or go up. -/
def Meets (tree : Tree) (workDir : Location) (path other : String) : Prop :=
  ∃ document after, tree.writeFile workDir path document = .ok after ∧
    after.readFile workDir other = .ok document ∧ tree.readFile workDir other ≠ .ok document

/-- Both paths lead to one place, and a file can be there. -/
def Shares (tree : Tree) (workDir : Location) (path other : String) : Prop :=
  ∃ place, tree.placeToWrite workDir path = .ok place ∧ tree.TakesFile place ∧
    refuse other = .ok () ∧ tree.walk Path.maxLinks true workDir other = .ok place ∧
    endsInSlash other = false

/-- What is found after a path was written was there before, unless it is at the same place. -/
theorem find_of_writeFile (hwrite : tree.writeFile workDir path document = .ok after)
    (hfind : after.find workDir other = .ok (found, node)) :
    tree.find workDir other = .ok (found, node) ∨ tree.Shares workDir path other := by
  have hwritten := written_writeFile hwrite
  obtain ⟨place, hplace, rfl⟩ := writeFile_eq_ok_iff.mp hwrite
  obtain ⟨hrefuse, hwalk, hnode, hslash⟩ := find_eq_ok_iff.mp hfind
  rw [hwritten.walk_eq_ok_iff] at hwalk
  by_cases hsame : found = place ∧ tree.TakesFile place
  · obtain ⟨rfl, htakes⟩ := hsame
    obtain ⟨mode, hmode⟩ := node?_putDocument_self document htakes
    cases hnode.symm.trans hmode
    exact .inr ⟨found, hplace, htakes, hrefuse, hwalk, endsInSlash_of_find hfind rfl⟩
  · left
    have hkept : tree.node? found = some node := by
      by_cases hfound : found = place
      · rwa [putDocument_of_not_takesFile (fun h => hsame ⟨hfound, h⟩)] at hnode
      · rwa [node?_putDocument_of_ne hfound] at hnode
    exact find_eq_ok_iff.mpr ⟨hrefuse, hwalk, hkept,
      fun hends => hwritten.keepsWays_symm.isDirectory (hslash hends)⟩

theorem exists_ne_ok (result : Except IoFault ByteArray) :
    ∃ document, result ≠ .ok document := by
  by_cases h : result = .ok .empty
  · refine ⟨⟨#[0]⟩, fun hother => ?_⟩
    cases h.symm.trans hother
  · exact ⟨_, h⟩

/-- Paths meet exactly when they share a place. -/
theorem meets_iff_shares : tree.Meets workDir path other ↔ tree.Shares workDir path other := by
  constructor
  · rintro ⟨document, after, hwrite, hread, hnew⟩
    obtain ⟨⟨found, node⟩, hfind, hend⟩ := bind_eq_ok_iff.mp hread
    refine (find_of_writeFile hwrite hfind).resolve_left fun hold => hnew ?_
    exact bind_eq_ok_iff.mpr ⟨(found, node), hold, hend⟩
  · rintro ⟨place, hplace, htakes, hrefuse, hwalk, hslash⟩
    obtain ⟨document, hnew⟩ := exists_ne_ok (tree.readFile workDir other)
    refine ⟨document, _, writeFile_eq_ok_iff.mpr ⟨place, hplace, rfl⟩, ?_, hnew⟩
    obtain ⟨mode, hmode⟩ := node?_putDocument_self document htakes
    have hafter := (written_putDocument tree place document).walk_eq_ok_iff.mpr hwalk
    exact readFile_of_find (find_eq_ok_iff.mpr ⟨hrefuse, hafter, hmode, by simp [hslash]⟩)

/-- Files that are written do not change which paths meet. -/
theorem Written.meets (h : before.Written after) (hmeets : after.Meets workDir path other) :
    before.Meets workDir path other := by
  rw [meets_iff_shares] at hmeets ⊢
  obtain ⟨place, hplace, htakes, hrefuse, hwalk, hslash⟩ := hmeets
  refine ⟨place, h.placeToWrite_eq_ok_iff.mp hplace, fun node hnode => ?_, hrefuse,
    h.walk_eq_ok_iff.mp hwalk, hslash⟩
  by_contra hfile
  exact hfile (htakes node ((h.node?_iff (Bool.not_eq_true _ ▸ hfile)).mpr hnode))

variable {document? : Option ByteArray}

/-- A file with the document is found at the path, or nothing is if there is no document. -/
def Holds (tree : Tree) (workDir : Location) (path : String) : Option ByteArray → Prop
  | none => ∀ place node, tree.find workDir path ≠ .ok (place, node)
  | some document => ∃ place mode, tree.find workDir path = .ok (place, .file document mode)

theorem holds_none_of_find {fault : IoFault} (h : tree.find workDir path = .error fault) :
    tree.Holds workDir path none :=
  fun place node hfind => by cases h.symm.trans hfind

/-- Whatever is found at the path is a file with the document. A path that was written leads to
    something, though it may be over a link more than is followed when it is read. -/
structure Shows (tree : Tree) (workDir : Location) (path : String)
    (document? : Option ByteArray) : Prop where
  found : ∀ {place node}, tree.find workDir path = .ok (place, node) →
    ∃ document mode, document? = some document ∧ node = .file document mode
  there : document? ≠ none → refuse path = .ok () ∧
    ∃ place, tree.walk (Path.maxLinks + 1) true workDir path = .ok place ∧ tree.node? place ≠ none

theorem Holds.shows (h : tree.Holds workDir path document?) :
    tree.Shows workDir path document? := by
  cases document? with
  | none => exact ⟨fun hfind => absurd hfind (h _ _), fun hne => absurd rfl hne⟩
  | some document =>
    obtain ⟨place, mode, hfind⟩ := h
    refine ⟨fun {other node} hother => ?_, fun _ => ?_⟩
    · cases hfind.symm.trans hother
      exact ⟨document, mode, rfl, rfl⟩
    · obtain ⟨hrefuse, hwalk, hnode, _⟩ := find_eq_ok_iff.mp hfind
      exact ⟨hrefuse, place, walk_succ hwalk, by simp [hnode]⟩

theorem Shows.eq_some_of_readFile (h : tree.Shows workDir path document?)
    (hread : tree.readFile workDir path = .ok document) : document? = some document := by
  obtain ⟨⟨place, node⟩, hfind, hend⟩ := bind_eq_ok_iff.mp hread
  obtain ⟨known, mode, rfl, rfl⟩ := h.found hfind
  cases hend
  rfl

theorem Shows.eq_none_of_readFile (h : tree.Shows workDir path document?)
    (hread : tree.readFile workDir path = .error .notFound) : document? = none := by
  by_contra hne
  obtain ⟨hrefuse, place, hwalk, hplace⟩ := h.there hne
  obtain hfind | ⟨⟨found, node⟩, _, hend⟩ := bind_eq_error_iff.mp hread
  · exact find_ne_notFound hrefuse hwalk hplace hfind
  · cases node <;> cases hend

/-- A path shows what is written to it. -/
theorem Shows.of_writeFile_self (h : tree.Shows workDir path document?)
    (hwrite : tree.writeFile workDir path document = .ok after) :
    after.Shows workDir path (some document) := by
  have hwritten := written_writeFile hwrite
  obtain ⟨place, hplace, rfl⟩ := writeFile_eq_ok_iff.mp hwrite
  have hwalk := walk_of_placeToWrite hplace
  constructor
  · intro found node hfind
    obtain ⟨hrefuse, hfound, hnode, hslash⟩ := find_eq_ok_iff.mp hfind
    rw [hwritten.walk_eq_ok_iff] at hfound
    cases (walk_succ hfound).symm.trans hwalk
    -- What is found there is a file, before and after.
    by_cases htakes : tree.TakesFile place
    · obtain ⟨mode, hmode⟩ := node?_putDocument_self document htakes
      cases hnode.symm.trans hmode
      exact ⟨document, mode, rfl, rfl⟩
    · rw [putDocument_of_not_takesFile htakes] at hfind hnode
      obtain ⟨known, mode, _, rfl⟩ := h.found hfind
      exact absurd (fun other hother => by cases hnode.symm.trans hother; rfl) htakes
  · intro _
    obtain ⟨_, _, hparent, _⟩ := placeToWrite_eq_ok_iff.mp hplace
    exact ⟨(findParent_eq_ok_iff.mp hparent).1, place, hwritten.keepsWays.walk hwalk,
      node?_putDocument_ne_none⟩

/-- A path that does not meet the one that is written shows what it showed before. -/
theorem Shows.of_writeFile (h : tree.Shows workDir other document?)
    (hwrite : tree.writeFile workDir path document = .ok after)
    (hapart : ¬ tree.Meets workDir path other) : after.Shows workDir other document? := by
  have hwritten := written_writeFile hwrite
  constructor
  · intro place node hfind
    rw [meets_iff_shares] at hapart
    exact h.found ((find_of_writeFile hwrite hfind).resolve_right hapart)
  · intro hne
    obtain ⟨hrefuse, place, hwalk, hplace⟩ := h.there hne
    exact ⟨hrefuse, place, hwritten.keepsWays.walk hwalk, hwritten.kept hplace⟩

end

section

variable {tree : Tree} {workDir place between : Location} {directory path other : String}

open InfoFlow.Path (IsEntry)

/-- An entry of a directory that is no link is where the directory is. -/
theorem place_of_walk_isEntry (hentry : IsEntry directory path)
    (hlink : ∀ place target, tree.look false workDir path ≠ .ok (place, .link target))
    (hrefuse : refuse path = .ok ())
    (hdirectory : tree.walk Path.maxLinks true workDir directory = .ok between)
    (hwalk : tree.walk (Path.maxLinks + 1) true workDir path = .ok place) :
    ∃ name, Path.steps path = Path.steps directory ++ [name] ∧ place = between ++ [name] := by
  obtain ⟨habsolute, hslash, name, hdot, hup, hsteps⟩ := hentry
  have hends : endsInSlash path = false := by simpa [endsInSlash] using hslash
  have hstart : start workDir path = start workDir directory := by rw [start, start, habsolute]
  refine ⟨name, hsteps, ?_⟩
  rw [walk, hsteps, hstart, walkSteps_concat] at hwalk
  obtain ⟨other, hother, hlast⟩ := bind_eq_ok_iff.mp hwalk
  cases (walk_succ hdirectory).symm.trans hother
  cases Goes.of_walkSteps hlast with
  | stay => exact absurd rfl hdot
  | up => exact absurd rfl hup
  | into _ _ hrest =>
    cases hrest with
    | done => rfl
  | link _ _ hfollows => cases hfollows
  | @through _ _ _ _ target _ hstep hnode =>
    refine absurd ?_ (hlink (between ++ [name]) target)
    refine check_bind_eq_ok_iff.mpr ⟨hrefuse, bind_eq_ok_iff.mpr ⟨between ++ [name], ?_, ?_⟩⟩
    · rw [Path.maxLinks, walk] at hdirectory
      rw [hends, Path.maxLinks, walk, hsteps, hstart, Bool.or_false, walkSteps_concat]
      exact bind_eq_ok_iff.mpr ⟨between, hdirectory, (Goes.link hstep hnode rfl).walkSteps_eq⟩
    · rw [hnode, hends]
      rfl

/-- Entries of one directory that are no links share a place only with themselves. -/
theorem Shares.steps_eq (h : tree.Shares workDir path other) (hpath : IsEntry directory path)
    (hother : IsEntry directory other)
    (hlink : ∀ place target, tree.look false workDir path ≠ .ok (place, .link target))
    (hotherLink : ∀ place target, tree.look false workDir other ≠ .ok (place, .link target)) :
    Path.steps path = Path.steps other := by
  obtain ⟨place, hplace, _, hrefuse, hwalk, _⟩ := h
  obtain ⟨_, _, hparent, _⟩ := placeToWrite_eq_ok_iff.mp hplace
  obtain ⟨hpathRefuse, _⟩ := findParent_eq_ok_iff.mp hparent
  obtain ⟨between, hbetween⟩ : ∃ between,
      tree.walk Path.maxLinks true workDir directory = .ok between := by
    obtain ⟨habsolute, _, name, _, _, hsteps⟩ := hother
    have hstart : start workDir other = start workDir directory := by rw [start, start, habsolute]
    rw [Path.maxLinks, walk, hsteps, hstart, walkSteps_concat] at hwalk
    exact (bind_eq_ok_iff.mp hwalk).imp fun _ => And.left
  obtain ⟨name, hname, rfl⟩ := place_of_walk_isEntry hpath hlink hpathRefuse hbetween
    (walk_of_placeToWrite hplace)
  obtain ⟨otherName, hotherName, hsame⟩ := place_of_walk_isEntry hother hotherLink hrefuse hbetween
    (walk_succ hwalk)
  rw [hname, hotherName, List.append_cancel_left hsame]

end

section

variable {tree : Tree} {follow : Location → String → Except IoFault Location}
  {workDir place found : Location} {path other longer : String} {first last : List String}
  {links : Nat}

theorem Goes.isDirectory (h : tree.Goes follow true place last found) (hlast : last ≠ []) :
    tree.IsDirectory place := by
  cases h with
  | done => exact absurd rfl hlast
  | stay hplace _ | up hplace _ => exact hplace
  | into hstep _ _ | through hstep _ _ _ _ | link hstep _ _ => exact hstep.directory

/-- Before another step one may stay. -/
theorem Goes.insert_dot (hlast : last ≠ [])
    (h : tree.Goes follow true place (first ++ last) found) :
    tree.Goes follow true place (first ++ "." :: last) found := by
  induction first generalizing place with
  | nil => exact .stay (h.isDirectory hlast) h
  | cons step rest ih =>
    rw [List.cons_append] at h ⊢
    generalize hsteps : rest ++ last = steps at h
    cases h with
    | stay hplace h => exact .stay hplace (ih (hsteps ▸ h))
    | up hplace h => exact .up hplace (ih (hsteps ▸ h))
    | into hstep hlink h => exact .into hstep hlink (ih (hsteps ▸ h))
    | through hstep hlink _ hfollow h =>
      exact .through hstep hlink (by simp) hfollow (ih (hsteps ▸ h))
    | link _ _ hfollows => cases hfollows

theorem walk_insert_dot (hstart : Path.isAbsolute longer = Path.isAbsolute path)
    (hpath : Path.steps path = first ++ last) (hlonger : Path.steps longer = first ++ "." :: last)
    (hlast : last ≠ []) (h : tree.walk links true workDir path = .ok found) :
    tree.walk links true workDir longer = .ok found := by
  cases links with
  | zero => cases h
  | succ links =>
    rw [walk, hpath, start] at h
    rw [walk, hlonger, start, hstart]
    exact ((Goes.of_walkSteps h).insert_dot hlast).walkSteps_eq

theorem refuse_eq_ok_iff : refuse path = .ok () ↔
    '\x00' ∉ path.toList ∧ path ≠ "" ∧ path.utf8ByteSize ≤ Path.maxLength := by
  unfold refuse
  simp only [List.contains_iff_mem, String.isEmpty_iff]
  split
  · simp [*]
  · split
    · simp [*]
    · split
      · simp [*]
      · simp_all

/-- A path of the same steps, from the same start, leads to the same place. -/
theorem walk_of_steps (hstart : Path.isAbsolute longer = Path.isAbsolute path)
    (hsteps : Path.steps longer = Path.steps path)
    (h : tree.walk links true workDir path = .ok found) :
    tree.walk links true workDir longer = .ok found := by
  cases links with
  | zero => cases h
  | succ links =>
    rw [walk, start, ← hsteps, ← hstart] at h
    rw [walk, start]
    exact h

/-- A path that leads wherever another one does shares the places of that one. -/
theorem Shares.of_walk (h : tree.Shares workDir path other) (hrefuse : refuse longer = .ok ())
    (hslash : endsInSlash longer = endsInSlash other)
    (hwalk : ∀ place, tree.walk Path.maxLinks true workDir other = .ok place →
      tree.walk Path.maxLinks true workDir longer = .ok place) :
    tree.Shares workDir path longer := by
  obtain ⟨place, hplace, htakes, _, hother, hends⟩ := h
  exact ⟨place, hplace, htakes, hrefuse, hwalk place hother, hslash.trans hends⟩

end

end InfoFlow.Tree
