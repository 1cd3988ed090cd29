import InfoFlow.Proofs.Host.Tree

namespace InfoFlow

/-- There is a document, and not something else that can be at a place. -/
def Node.isFile : Node → Bool
  | .file .. => true
  | _ => false

namespace Tree

/-- There is a directory at a place. -/
def IsDirectory (tree : Tree) (place : Location) : Prop :=
  ∃ mode, tree.node? place = some (.directory mode)

/-- A step by a name can be taken from a place. -/
structure Enters (tree : Tree) (place : Location) (step : String) : Prop where
  directory : tree.IsDirectory place
  ne_dot : step ≠ "."
  ne_up : step ≠ ".."
  short : step.utf8ByteSize ≤ Path.maxStep

/-- The ways that steps lead, where `follow` resolves links: over directories and links, and over
    nothing else. -/
inductive Goes (tree : Tree) (follow : Location → String → Except IoFault Location)
    (follows : Bool) : Location → List String → Location → Prop where
  | done {place : Location} : tree.Goes follow follows place [] place
  | stay {place found : Location} {rest : List String} (hplace : tree.IsDirectory place)
    (h : tree.Goes follow follows place rest found) :
    tree.Goes follow follows place ("." :: rest) found
  | up {place found : Location} {rest : List String} (hplace : tree.IsDirectory place)
    (h : tree.Goes follow follows place.dropLast rest found) :
    tree.Goes follow follows place (".." :: rest) found
  | into {place found : Location} {step : String} {rest : List String}
    (hstep : tree.Enters place step)
    (hlink : ∀ target, tree.node? (place ++ [step]) ≠ some (.link target))
    (h : tree.Goes follow follows (place ++ [step]) rest found) :
    tree.Goes follow follows place (step :: rest) found
  | through {place next found : Location} {step target : String} {rest : List String}
    (hstep : tree.Enters place step)
    (hlink : tree.node? (place ++ [step]) = some (.link target))
    (hlast : (rest.isEmpty && !follows) = false) (hfollow : follow place target = .ok next)
    (h : tree.Goes follow follows next rest found) :
    tree.Goes follow follows place (step :: rest) found
  /-- The link at the end is meant itself. -/
  | link {place : Location} {step target : String} (hstep : tree.Enters place step)
    (hlink : tree.node? (place ++ [step]) = some (.link target)) (hlast : follows = false) :
    tree.Goes follow follows place [step] (place ++ [step])

section

variable {tree : Tree} {follow : Location → String → Except IoFault Location} {follows : Bool}
  {place found : Location} {steps rest : List String} {step : String}

/-- A step by a name ends at the name, or goes on over the link that is there. -/
theorem walkSteps_of_enters (h : tree.Enters place step) :
    tree.walkSteps follow follows place (step :: rest) =
      match tree.node? (place ++ [step]) with
      | some (.link target) =>
        if rest.isEmpty && !follows then .ok (place ++ [step])
        else follow place target >>= fun next => tree.walkSteps follow follows next rest
      | _ => tree.walkSteps follow follows (place ++ [step]) rest := by
  obtain ⟨⟨mode, hplace⟩, hdot, hup, hshort⟩ := h
  rw [walkSteps, hplace]
  exact (if_neg hdot).trans <| (if_neg hup).trans <| if_neg <| Nat.not_lt.mpr hshort

theorem Goes.of_walkSteps (h : tree.walkSteps follow follows place steps = .ok found) :
    tree.Goes follow follows place steps found := by
  induction steps generalizing place with
  | nil =>
    cases h
    exact .done
  | cons step rest ih =>
    have hplace : tree.IsDirectory place := by
      rw [walkSteps] at h
      cases hnode : tree.node? place with
      | none =>
        rw [hnode] at h
        cases h
      | some node =>
        rw [hnode] at h
        cases node with
        | directory mode => exact ⟨mode, hnode⟩
        | _ => cases h
    obtain ⟨mode, hnode⟩ := hplace
    by_cases hdot : step = "."
    · subst hdot
      rw [walkSteps, hnode] at h
      exact .stay ⟨mode, hnode⟩ (ih h)
    by_cases hup : step = ".."
    · subst hup
      rw [walkSteps, hnode] at h
      exact .up ⟨mode, hnode⟩ (ih h)
    by_cases hshort : step.utf8ByteSize ≤ Path.maxStep
    case neg =>
      rw [walkSteps, hnode] at h
      simp only [hdot, hup, if_false, Nat.lt_of_not_le hshort, if_true] at h
      cases h
    have hstep : tree.Enters place step := ⟨⟨mode, hnode⟩, hdot, hup, hshort⟩
    rw [walkSteps_of_enters hstep] at h
    split at h
    · rename_i target hlink
      split at h
      · rename_i hlast
        obtain ⟨hrest, hfollows⟩ : rest = [] ∧ follows = false := by simpa using hlast
        subst hrest
        cases h
        exact .link hstep hlink hfollows
      · rename_i hlast
        obtain ⟨next, hfollow, hnext⟩ := bind_eq_ok_iff.mp h
        exact .through hstep hlink (Bool.not_eq_true _ ▸ hlast) hfollow (ih hnext)
    · rename_i hlink
      exact .into hstep hlink (ih h)

theorem Goes.walkSteps_eq (h : tree.Goes follow follows place steps found) :
    tree.walkSteps follow follows place steps = .ok found := by
  induction h with
  | done => rfl
  | stay hplace _ ih | up hplace _ ih =>
    obtain ⟨mode, hnode⟩ := hplace
    rw [walkSteps, hnode]
    exact ih
  | into hstep hlink _ ih =>
    rw [walkSteps_of_enters hstep]
    split
    · exact absurd ‹_› (hlink _)
    · exact ih
  | through hstep hlink hlast hfollow _ ih =>
    rw [walkSteps_of_enters hstep, hlink]
    simp only [hlast, hfollow]
    exact ih
  | link hstep hlink hlast =>
    rw [walkSteps_of_enters hstep, hlink]
    simp [hlast]

end

section

variable {tree before after : Tree} {workDir place found : Location} {path : String}
  {steps : List String} {node : Node} {links : Nat}

/-- What leads somewhere before a change leads there afterwards: directories are kept, and there are
    the same links. Directories may be new. -/
structure KeepsWays (before after : Tree) : Prop where
  directory : ∀ {place mode}, before.node? place = some (.directory mode) →
    after.node? place = some (.directory mode)
  link : ∀ {place target}, after.node? place = some (.link target) ↔
    before.node? place = some (.link target)

theorem KeepsWays.isDirectory (h : before.KeepsWays after) (hplace : before.IsDirectory place) :
    after.IsDirectory place :=
  hplace.imp fun _ => h.directory

theorem KeepsWays.goes {follow follow' : Location → String → Except IoFault Location}
    {follows : Bool} (h : before.KeepsWays after)
    (hfollow : ∀ place target next, follow place target = .ok next →
      follow' place target = .ok next) (hgoes : before.Goes follow follows place steps found) :
    after.Goes follow' follows place steps found := by
  have henters {place : Location} {step : String} (hstep : before.Enters place step) :
      after.Enters place step := { hstep with directory := h.isDirectory hstep.directory }
  induction hgoes with
  | done => exact .done
  | stay hplace _ ih => exact .stay (h.isDirectory hplace) ih
  | up hplace _ ih => exact .up (h.isDirectory hplace) ih
  | into hstep hlink _ ih =>
    exact .into (henters hstep) (fun target => mt h.link.mp (hlink target)) ih
  | through hstep hlink hlast hnext _ ih =>
    exact .through (henters hstep) (h.link.mpr hlink) hlast (hfollow _ _ _ hnext) ih
  | link hstep hlink hlast => exact .link (henters hstep) (h.link.mpr hlink) hlast

theorem KeepsWays.walk {follows : Bool} (h : before.KeepsWays after)
    (hwalk : before.walk links follows workDir path = .ok found) :
    after.walk links follows workDir path = .ok found := by
  induction links generalizing follows workDir path found with
  | zero => cases hwalk
  | succ links ih =>
    exact (h.goes (fun _ _ _ => ih) (.of_walkSteps hwalk)).walkSteps_eq

theorem KeepsWays.refl (tree : Tree) : tree.KeepsWays tree :=
  ⟨id, Iff.rfl⟩

/-- A path that leads somewhere leads there over more links, too. -/
theorem walk_succ {follows : Bool} (h : tree.walk links follows workDir path = .ok found) :
    tree.walk (links + 1) follows workDir path = .ok found := by
  induction links generalizing follows workDir path found with
  | zero => cases h
  | succ links ih =>
    exact ((KeepsWays.refl tree).goes (fun _ _ _ => ih) (.of_walkSteps h)).walkSteps_eq

/-- Where some links cannot be followed, a way is either not concerned or ends at the first of
    them. -/
theorem Goes.walkSteps_eq_or {follow follow' : Location → String → Except IoFault Location}
    {follows : Bool} {fault : IoFault}
    (hfollow : ∀ place target next, follow place target = .ok next →
      follow' place target = .ok next ∨ follow' place target = .error fault)
    (h : tree.Goes follow follows place steps found) :
    tree.walkSteps follow' follows place steps = .ok found ∨
      tree.walkSteps follow' follows place steps = .error fault := by
  induction h with
  | done => exact .inl rfl
  | stay hplace _ ih | up hplace _ ih =>
    obtain ⟨mode, hnode⟩ := hplace
    rw [walkSteps, hnode]
    exact ih
  | into hstep hlink _ ih =>
    rw [walkSteps_of_enters hstep]
    split
    · exact absurd ‹_› (hlink _)
    · exact ih
  | through hstep hlink hlast hnext _ ih =>
    rw [walkSteps_of_enters hstep, hlink]
    simp only [hlast]
    obtain hnext | hnext := hfollow _ _ _ hnext
    · rw [hnext]
      exact ih
    · rw [hnext]
      exact .inr rfl
  | link hstep hlink hlast => exact .inl (Goes.link hstep hlink hlast).walkSteps_eq

/-- A path that leads somewhere with a link more leads there, if it is not for this link. -/
theorem walk_of_succ {follows : Bool}
    (h : tree.walk (links + 1) follows workDir path = .ok found) :
    tree.walk links follows workDir path = .ok found ∨
      tree.walk links follows workDir path = .error .tooManyLinks := by
  induction links generalizing follows workDir path found with
  | zero => exact .inr rfl
  | succ links ih => exact (Goes.of_walkSteps h).walkSteps_eq_or fun _ _ _ => ih

end

section

variable {tree before after : Tree} {workDir place other found : Location} {path : String}
  {node : Node}

theorem node?_put_self (hplace : place ≠ []) : (tree.put place node).node? place = some node := by
  rw [node?, if_neg (by simpa using hplace), put, List.lookup_cons_self]

theorem node?_put_of_ne (hother : other ≠ place) :
    (tree.put place node).node? other = tree.node? other := by
  have hlookup (nodes : List (Location × Node)) :
      (nodes.filter (·.1 != place)).lookup other = nodes.lookup other := by
    induction nodes with
    | nil => rfl
    | cons entry rest ih =>
      obtain ⟨key, known⟩ := entry
      by_cases hkey : key = place
      · have hne : (other == key) = false := by simpa [hkey] using hother
        rw [List.filter_cons_of_neg (by simp [hkey]), ih, List.lookup_cons, hne]
      · rw [List.filter_cons_of_pos (by simp [hkey]), List.lookup_cons, List.lookup_cons, ih]
  have hne : (other == place) = false := by simpa using hother
  rw [node?, node?, put, List.lookup_cons, hne, hlookup]

/-- What is at the root cannot be replaced. -/
theorem ne_nil_of_node? (h : ∀ mode, tree.node? place ≠ some (.directory mode)) : place ≠ [] := by
  rintro rfl
  exact h _ rfl

/-- All but files is the same, and nothing is taken away. -/
structure Written (before after : Tree) : Prop where
  node?_iff : ∀ {place node}, node.isFile = false →
    (after.node? place = some node ↔ before.node? place = some node)
  kept : ∀ {place}, before.node? place ≠ none → after.node? place ≠ none

theorem Written.refl (tree : Tree) : tree.Written tree :=
  ⟨fun _ => Iff.rfl, id⟩

theorem Written.trans {between : Tree} (hfirst : before.Written between)
    (hlast : between.Written after) : before.Written after :=
  ⟨fun hnode => (hlast.node?_iff hnode).trans (hfirst.node?_iff hnode), hlast.kept ∘ hfirst.kept⟩

theorem Written.keepsWays (h : before.Written after) : before.KeepsWays after :=
  ⟨(h.node?_iff rfl).mpr, h.node?_iff rfl⟩

theorem Written.keepsWays_symm (h : before.Written after) : after.KeepsWays before :=
  ⟨(h.node?_iff rfl).mp, (h.node?_iff rfl).symm⟩

theorem Written.walk_eq_ok_iff {follows : Bool} (h : before.Written after) :
    after.walk links follows workDir path = .ok found ↔
      before.walk links follows workDir path = .ok found :=
  ⟨h.keepsWays_symm.walk, h.keepsWays.walk⟩

theorem written_put {document : ByteArray} {mode : Nat}
    (hplace : ∀ node, tree.node? place = some node → node.isFile = true) :
    tree.Written (tree.put place (.file document mode)) := by
  have hself : (tree.put place (.file document mode)).node? place = some (.file document mode) :=
    node?_put_self <| ne_nil_of_node? fun mode h => by cases hplace _ h
  constructor
  · intro other node hnode
    by_cases hother : other = place
    · rw [hother, hself]
      constructor <;> intro h
      · cases h
        cases hnode
      · rw [hplace node h] at hnode
        cases hnode
    · rw [node?_put_of_ne hother]
  · intro other h
    by_cases hother : other = place
    · rw [hother, hself]
      simp
    · rwa [node?_put_of_ne hother]

/-- Whatever is at the place, only a file is put there. -/
theorem written_putDocument (tree : Tree) (place : Location) (document : ByteArray) :
    tree.Written (tree.putDocument place document) := by
  unfold putDocument
  split
  · rename_i hplace
    refine written_put fun node h => ?_
    cases hplace.symm.trans h
    rfl
  · exact .refl tree
  · rename_i hplace
    refine written_put fun node h => ?_
    cases hplace.symm.trans h

theorem node?_putDocument_self (document : ByteArray)
    (hplace : ∀ node, tree.node? place = some node → node.isFile = true) :
    ∃ mode, (tree.putDocument place document).node? place = some (.file document mode) := by
  have hne : place ≠ [] := ne_nil_of_node? fun mode h => by cases hplace _ h
  unfold putDocument
  split
  · exact ⟨_, node?_put_self hne⟩
  · rename_i node hother h
    have hfile := hplace node h
    cases node with
    | file document mode => exact absurd rfl (hother document mode)
    | _ => cases hfile
  · exact ⟨_, node?_put_self hne⟩

theorem node?_putDocument_of_ne {document : ByteArray} (hother : other ≠ place) :
    (tree.putDocument place document).node? other = tree.node? other := by
  unfold putDocument
  split
  · exact node?_put_of_ne hother
  · rfl
  · exact node?_put_of_ne hother

/-- Where something else than a file is, nothing is put. -/
theorem putDocument_of_not_isFile {document : ByteArray} (h : tree.node? place = some node)
    (hnode : node.isFile = false) : tree.putDocument place document = tree := by
  rw [putDocument, h]
  cases node with
  | file => cases hnode
  | _ => rfl

end

section

variable {tree before after : Tree} {workDir place found : Location} {path : String}
  {node : Node} {step? : Option String}

/-- Nothing is missed at a path that leads to something, whatever else may be at fault with it. -/
theorem find_ne_notFound (hrefuse : refuse path = .ok ())
    (hwalk : tree.walk (Path.maxLinks + 1) true workDir path = .ok place)
    (hplace : tree.node? place ≠ none) : tree.find workDir path ≠ .error .notFound := by
  intro h
  obtain hfault | ⟨_, _, h⟩ := bind_eq_error_iff.mp h
  · cases hrefuse.symm.trans hfault
  rw [Bool.true_or] at h
  obtain hfault | ⟨found, hfound, h⟩ := bind_eq_error_iff.mp h
  · obtain hfewer | hfewer := walk_of_succ hwalk
    · cases hfewer.symm.trans hfault
    · cases hfewer.symm.trans hfault
  · cases (walk_succ hfound).symm.trans hwalk
    cases hnode : tree.node? place with
    | none => exact hplace hnode
    | some node =>
      rw [hnode] at h
      cases node with
      | directory mode => cases h
      | _ =>
        simp only at h
        split at h <;> cases h

theorem find_eq_ok_iff : tree.find workDir path = .ok (place, node) ↔
    refuse path = .ok () ∧ tree.walk Path.maxLinks true workDir path = .ok place ∧
      tree.node? place = some node ∧ (endsInSlash path = true → tree.IsDirectory place) := by
  constructor
  · intro h
    obtain ⟨hwalk, hnode⟩ := walk_of_look h
    obtain ⟨hrefuse, _, hplace, hend⟩ :=
      check_bind_eq_ok_iff.mp h |>.imp id bind_eq_ok_iff.mp
    rw [Bool.true_or] at hwalk hplace
    cases hplace.symm.trans hwalk
    refine ⟨hrefuse, hwalk, hnode, fun hslash => ?_⟩
    rw [hnode] at hend
    cases node with
    | directory mode => exact ⟨mode, hnode⟩
    | _ =>
      simp only [hslash] at hend
      cases hend
  · rintro ⟨hrefuse, hwalk, hnode, hdirectory⟩
    refine check_bind_eq_ok_iff.mpr ⟨hrefuse, bind_eq_ok_iff.mpr ⟨place, ?_, ?_⟩⟩
    · rwa [Bool.true_or]
    · rw [hnode]
      cases node with
      | directory mode => rfl
      | _ =>
        have hslash : endsInSlash path = false := by
          by_contra h
          obtain ⟨mode, hmode⟩ := hdirectory (Bool.not_eq_false _ ▸ h)
          cases hnode.symm.trans hmode
        simp only [hslash]
        rfl

/-- The step that a path ends with, unless it is one that stays or goes up. -/
def lastStep (path : String) : Except IoFault (Option String) :=
  match (Path.steps path).getLast? with
  | none => .ok none
  | some step =>
    if step = "." || step = ".." then .ok none
    else if step.utf8ByteSize > Path.maxStep then .error .nameTooLong
    else .ok (some step)

/-- The way to the directory that the last step of a path starts in. -/
def walkParent (tree : Tree) (workDir : Location) (path : String) : Except IoFault Location :=
  tree.walkSteps (tree.walk Path.maxLinks true) true (start workDir path) (Path.steps path).dropLast

/-- What is found from the directory on is told by the last step alone. -/
theorem findParent_eq (tree : Tree) (workDir : Location) (path : String) :
    tree.findParent workDir path = refuse path >>= fun _ =>
      tree.walkParent workDir path >>= fun place =>
        match tree.node? place with
        | none => .error .notFound
        | some (.directory _) => (lastStep path).map (place, ·)
        | some _ => .error .notADirectory := by
  unfold findParent lastStep
  refine congrArg _ (funext fun _ => congrArg _ (funext fun place => ?_))
  beta_reduce
  cases tree.node? place with
  | none => rfl
  | some node =>
    cases node with
    | directory mode =>
      simp only
      cases (Path.steps path).getLast? with
      | none => rfl
      | some step =>
        simp only
        split
        · rfl
        · split <;> rfl
    | _ => rfl

theorem findParent_eq_ok_iff : tree.findParent workDir path = .ok (place, step?) ↔
    refuse path = .ok () ∧ tree.walkParent workDir path = .ok place ∧ tree.IsDirectory place ∧
      lastStep path = .ok step? := by
  rw [findParent_eq, check_bind_eq_ok_iff, and_congr_right_iff, bind_eq_ok_iff]
  intro _
  constructor
  · rintro ⟨other, hother, h⟩
    split at h
    · cases h
    · rename_i mode hmode
      cases hlast : lastStep path with
      | error fault =>
        rw [hlast] at h
        cases h
      | ok step? =>
        rw [hlast] at h
        cases h
        exact ⟨hother, ⟨mode, hmode⟩, rfl⟩
    · cases h
  · rintro ⟨hwalk, ⟨mode, hmode⟩, hlast⟩
    refine ⟨place, hwalk, ?_⟩
    rw [hmode, hlast]
    rfl

/-- A step that a path ends with is a name, and the path leads where this name leads from the
    directory before it. -/
theorem steps_eq_of_lastStep {step : String} (h : lastStep path = .ok (some step)) :
    Path.steps path = (Path.steps path).dropLast ++ [step] ∧ step ≠ "." ∧ step ≠ ".." ∧
      step.utf8ByteSize ≤ Path.maxStep := by
  unfold lastStep at h
  split at h
  · cases h
  · rename_i last hlast
    split at h
    · cases h
    · rename_i hend
      split at h
      · cases h
      · rename_i hlong
        cases h
        rw [Bool.or_eq_true, decide_eq_true_eq, decide_eq_true_eq, not_or] at hend
        refine ⟨?_, hend.1, hend.2, Nat.le_of_not_lt hlong⟩
        exact (List.dropLast_append_getLast? _ hlast).symm

theorem placeToWrite_eq_ok_iff : tree.placeToWrite workDir path = .ok found ↔
    ∃ place step, tree.findParent workDir path = .ok (place, some step) ∧
      endsInSlash path = false ∧
      tree.walkSteps (tree.walk Path.maxLinks true) true place [step] = .ok found ∧
      ¬ tree.IsDirectory found ∧ ∀ name, tree.node? found ≠ some (.program name) := by
  unfold placeToWrite
  rw [bind_eq_ok_iff]
  constructor
  · rintro ⟨⟨place, step?⟩, hparent, h⟩
    cases step? with
    | none => cases h
    | some step =>
      simp only at h
      split at h
      · cases h
      · rename_i hslash
        obtain ⟨other, hother, h⟩ := bind_eq_ok_iff.mp h
        split at h
        · cases h
        · cases h
        · rename_i hdirectory hprogram
          cases h
          exact ⟨place, step, hparent, Bool.not_eq_true _ ▸ hslash, hother,
            fun ⟨mode, hmode⟩ => hdirectory mode hmode, hprogram⟩
  · rintro ⟨place, step, hparent, hslash, hwalk, hdirectory, hprogram⟩
    refine ⟨(place, some step), hparent, ?_⟩
    simp only [hslash]
    refine bind_eq_ok_iff.mpr ⟨found, hwalk, ?_⟩
    split
    · exact absurd ⟨_, ‹_›⟩ hdirectory
    · exact absurd ‹_› (hprogram _)
    · rfl

/-- What a path is written to is what it leads to, with a link more than is followed when it is
    read. -/
theorem walk_of_placeToWrite (h : tree.placeToWrite workDir path = .ok found) :
    tree.walk (Path.maxLinks + 1) true workDir path = .ok found := by
  obtain ⟨place, step, hparent, _, hlast, _⟩ := placeToWrite_eq_ok_iff.mp h
  obtain ⟨_, hwalk, _, hstep⟩ := findParent_eq_ok_iff.mp hparent
  rw [walk, (steps_eq_of_lastStep hstep).1, walkSteps_concat]
  exact bind_eq_ok_iff.mpr ⟨place, hwalk, hlast⟩

theorem KeepsWays.walkParent (h : before.KeepsWays after)
    (hwalk : before.walkParent workDir path = .ok place) :
    after.walkParent workDir path = .ok place :=
  (h.goes (fun _ _ _ => h.walk) (.of_walkSteps hwalk)).walkSteps_eq

theorem KeepsWays.findParent (h : before.KeepsWays after)
    (hparent : before.findParent workDir path = .ok (place, step?)) :
    after.findParent workDir path = .ok (place, step?) := by
  obtain ⟨hrefuse, hwalk, hplace, hlast⟩ := findParent_eq_ok_iff.mp hparent
  exact findParent_eq_ok_iff.mpr ⟨hrefuse, h.walkParent hwalk, h.isDirectory hplace, hlast⟩

theorem KeepsWays.placeToWrite (h : before.KeepsWays after)
    (hsame : ∀ {place node}, node.isFile = false → after.node? place = some node →
      before.node? place = some node)
    (hplace : before.placeToWrite workDir path = .ok found) :
    after.placeToWrite workDir path = .ok found := by
  obtain ⟨place, step, hparent, hslash, hlast, hdirectory, hprogram⟩ :=
    placeToWrite_eq_ok_iff.mp hplace
  refine placeToWrite_eq_ok_iff.mpr ⟨place, step, h.findParent hparent, hslash, ?_, ?_, ?_⟩
  · exact (h.goes (fun _ _ _ => h.walk) (.of_walkSteps hlast)).walkSteps_eq
  · exact fun ⟨mode, hmode⟩ => hdirectory ⟨mode, hsame rfl hmode⟩
  · exact fun name hname => hprogram name (hsame rfl hname)

theorem Written.placeToWrite_eq_ok_iff (h : before.Written after) :
    after.placeToWrite workDir path = .ok found ↔ before.placeToWrite workDir path = .ok found :=
  ⟨h.keepsWays_symm.placeToWrite fun hnode => (h.node?_iff hnode).mpr,
    h.keepsWays.placeToWrite fun hnode => (h.node?_iff hnode).mp⟩

end

end Tree

end InfoFlow
