import InfoFlow.Host.Tree

namespace InfoFlow

namespace Host

variable {m : Type → Type} [Monad m]

/-- The host, with a note of every program that it is asked to run. -/
def noting (host : Host m) : Host (StateT (List Invocation) m) where
  readFile path := StateT.lift (host.readFile path)
  writeFile path document := StateT.lift (host.writeFile path document)
  makeDir path := StateT.lift (host.makeDir path)
  isDir path := StateT.lift (host.isDir path)
  isFile path := StateT.lift (host.isFile path)
  run invocation := do
    modify (· ++ [invocation])
    StateT.lift (host.run invocation)

/-- A computation with notes does the same as one without, whatever was noted before. -/
def Erases {α : Type} (noted : StateT (List Invocation) m α) (bare : m α) : Prop :=
  ∀ notes, Prod.fst <$> noted.run notes = bare

variable [LawfulMonad m] {α β : Type}

theorem erases_pure (a : α) : Erases (m := m) (pure a) (pure a) := by
  intro notes
  simp

theorem erases_lift (bare : m α) : Erases (StateT.lift bare) bare := by
  intro notes
  simp

theorem erases_run (host : Host m) (invocation : Invocation) :
    Erases (host.noting.run invocation) (host.run invocation) := by
  intro notes
  simp [noting]

theorem Erases.bind {noted : StateT (List Invocation) m α} {bare : m α}
    {next : α → StateT (List Invocation) m β} {bareNext : α → m β} (h : Erases noted bare)
    (hnext : ∀ a, Erases (next a) (bareNext a)) : Erases (noted >>= next) (bare >>= bareNext) := by
  intro notes
  calc Prod.fst <$> (noted >>= next).run notes
      = noted.run notes >>= fun (a, notes) => Prod.fst <$> (next a).run notes := by simp
    _ = noted.run notes >>= fun (a, _) => bareNext a := by simp only [hnext _ _]
    _ = Prod.fst <$> noted.run notes >>= bareNext := by simp
    _ = bare >>= bareNext := by rw [h notes]

end Host

namespace Tree

/-- What a computation gives on a machine, the programs that are noted by then, and the tree that
    they leave. -/
def perform {α : Type} (computation : StateT (List Invocation) (StateM Tree) α)
    (notes : List Invocation) (tree : Tree) : (α × List Invocation) × Tree :=
  (computation.run notes).run tree

variable {α β : Type} (workDir : Location) (programs : Programs) (path : String)
  (invocation : Invocation) (notes : List Invocation) (tree : Tree)

theorem perform_bind (first : StateT (List Invocation) (StateM Tree) α)
    (next : α → StateT (List Invocation) (StateM Tree) β) :
    perform (first >>= next) notes tree =
      let ((a, notes), tree) := perform first notes tree
      perform (next a) notes tree := rfl

theorem perform_isDir : perform ((host workDir programs).noting.isDir path) notes tree =
    ((tree.isDir workDir path, notes), tree) := rfl

theorem perform_isFile : perform ((host workDir programs).noting.isFile path) notes tree =
    ((tree.isFile workDir path, notes), tree) := rfl

theorem run_run : ((host workDir programs).run invocation).run tree =
    match programs invocation tree with
    | .error fault => (.error fault, tree)
    | .ok (finished, after) => (.ok finished, after) := by
  simp only [host, StateT.run_bind, StateT.run_get, pure_bind]
  cases programs invocation tree <;> rfl

theorem perform_run : perform ((host workDir programs).noting.run invocation) notes tree =
    match programs invocation tree with
    | .error fault => ((.error fault, notes ++ [invocation]), tree)
    | .ok (finished, after) => ((.ok finished, notes ++ [invocation]), after) := by
  have hnoted : perform ((host workDir programs).noting.run invocation) notes tree =
      let (reply, after) := ((host workDir programs).run invocation).run tree
      ((reply, notes ++ [invocation]), after) := rfl
  rw [hnoted, run_run]
  cases programs invocation tree <;> rfl

end Tree

/-- On the machine of a tree a computation with notes gives what it gives without them, and leaves
    the same tree. -/
theorem Host.Erases.run_eq {α : Type} {noted : StateT (List Invocation) (StateM Tree) α}
    {bare : StateM Tree α} (h : Erases noted bare) (notes : List Invocation) (tree : Tree) :
    bare.run tree = ((Tree.perform noted notes tree).1.1, (Tree.perform noted notes tree).2) := by
  rw [← h notes]
  rfl

end InfoFlow
