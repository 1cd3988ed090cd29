import InfoFlow.AccessPath.Selector

namespace InfoFlow

/-- A finite set of chains, as the ascending list of its members. Each stands there once, so two
    sets with the same members are equal. -/
structure ChainSet where
  chains : List Chain
  ascending : chains.Pairwise fun a b => compare a b = .lt

namespace ChainSet

@[ext] theorem ext {s t : ChainSet} (h : s.chains = t.chains) : s = t := by
  cases s
  cases t
  simp_all

instance : DecidableEq ChainSet := fun s t =>
  decidable_of_iff (s.chains = t.chains) ⟨ext, congrArg chains⟩

/-- Puts a chain at its place in an ascending list, unless the list holds it already. -/
def place (chain : Chain) : List Chain → List Chain
  | [] => [chain]
  | head :: rest =>
    match compare chain head with
    | .lt => chain :: head :: rest
    | .eq => head :: rest
    | .gt => head :: place chain rest

theorem mem_place {chain other : Chain} {list : List Chain} :
    other ∈ place chain list ↔ other = chain ∨ other ∈ list := by
  induction list with
  | nil => simp [place]
  | cons head rest ih =>
    rw [place]
    split
    · simp
    · rename_i heq
      have : chain = head := Std.LawfulEqCmp.eq_of_compare heq
      subst this
      simp
    · simp only [List.mem_cons, ih]
      constructor
      · rintro (h | h | h) <;> simp [h]
      · rintro (h | h | h) <;> simp [h]

theorem place_ascending {chain : Chain} {list : List Chain}
    (h : list.Pairwise fun a b => compare a b = .lt) :
    (place chain list).Pairwise fun a b => compare a b = .lt := by
  induction list with
  | nil => simp [place]
  | cons head rest ih =>
    obtain ⟨hhead, hrest⟩ := List.pairwise_cons.1 h
    rw [place]
    split
    · rename_i hlt
      refine List.pairwise_cons.2 ⟨fun other hother => ?_, h⟩
      rcases List.mem_cons.1 hother with rfl | hother
      · exact hlt
      · exact Std.TransCmp.lt_trans hlt (hhead other hother)
    · exact h
    · rename_i hgt
      refine List.pairwise_cons.2 ⟨fun other hother => ?_, ih hrest⟩
      rcases mem_place.1 hother with rfl | hother
      · exact Std.OrientedCmp.lt_of_gt hgt
      · exact hhead other hother

/-- The set without members. -/
def empty : ChainSet := ⟨[], .nil⟩

/-- The set of the empty chain alone: what a leaf contributes. -/
def leaf : ChainSet := ⟨[[]], by simp⟩

/-- The set with one chain more. -/
def insert (s : ChainSet) (chain : Chain) : ChainSet :=
  ⟨place chain s.chains, place_ascending s.ascending⟩

/-- The set with the chains of a list added. The last one is added first, so that an ascending
    list is placed without passing over anything. -/
def insertAll (list : List Chain) (s : ChainSet) : ChainSet :=
  list.foldr (fun chain s => s.insert chain) s

/-- The set of the chains in a list. -/
def ofList (list : List Chain) : ChainSet :=
  insertAll list empty

def contains (s : ChainSet) (chain : Chain) : Bool :=
  s.chains.contains chain

instance : Membership Chain ChainSet := ⟨fun s chain => chain ∈ s.chains⟩

theorem mem_iff {s : ChainSet} {chain : Chain} : chain ∈ s ↔ chain ∈ s.chains := Iff.rfl

theorem mem_insert {s : ChainSet} {chain other : Chain} :
    other ∈ s.insert chain ↔ other = chain ∨ other ∈ s :=
  mem_place

def size (s : ChainSet) : Nat :=
  s.chains.length

def isEmpty (s : ChainSet) : Bool :=
  s.chains.isEmpty

/-- Every chain of the set, one step deeper: behind the given selector. -/
def prependToAll (selector : Selector) (s : ChainSet) : ChainSet :=
  ofList (s.chains.map (selector :: ·))

def union (s t : ChainSet) : ChainSet :=
  insertAll s.chains t

def inter (s t : ChainSet) : ChainSet :=
  ⟨s.chains.filter t.contains, s.ascending.filter _⟩

def diff (s t : ChainSet) : ChainSet :=
  ⟨s.chains.filter (!t.contains ·), s.ascending.filter _⟩

def isSubset (s t : ChainSet) : Bool :=
  s.chains.all t.contains

end ChainSet

end InfoFlow
