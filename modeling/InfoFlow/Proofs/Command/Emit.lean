import InfoFlow.Command.Run
import InfoFlow.Proofs.Compiler.Runs
import InfoFlow.Proofs.Config.Directories
import InfoFlow.Proofs.Config.Documents
import InfoFlow.Proofs.Manifest.Includes
import InfoFlow.Proofs.Manifest.Removal

namespace InfoFlow

open Compiler (compilation_idle idle stale)

/-- What a machine makes of something that may fail, and the tree that is left. -/
def Command.Attempt.on {α : Type} (attempt : Command.Attempt (StateM Tree) α) (tree : Tree) :
    Except (List String) α × Tree :=
  attempt.run.run tree

/-- A manifest with what the settings include in front. -/
def Toolchain.extend (toolchain : Toolchain) (m : Manifest) : Manifest :=
  { m with includes := toolchain.includes ++ m.includes }

namespace Command

namespace Attempt

variable {α β ε : Type} {tree : Tree}

theorem on_bind (first : Attempt (StateM Tree) α) (next : α → Attempt (StateM Tree) β) :
    (first >>= next).on tree =
      match first.on tree with
      | (.error errors, after) => (.error errors, after)
      | (.ok a, after) => (next a).on after := by
  change (match first.on tree with
    | (result, after) => (ExceptT.bindCont next result).run after) = _
  rcases first.on tree with ⟨_ | _, after⟩ <;> rfl

theorem on_reporting (messages : ε → List String) (attempt : StateM Tree (Except ε α)) :
    (reporting messages attempt).on tree =
      ((attempt.run tree).1.mapError messages, (attempt.run tree).2) := rfl

theorem on_lift (computation : StateM Tree α) :
    Attempt.on (ExceptT.lift computation) tree =
      (.ok (computation.run tree).1, (computation.run tree).2) := rfl

end Attempt

/-- A command line that asks for the program of a manifest, on a machine. -/
structure Emit where
  workDir : Location
  programs : Tree.Programs
  /-- The directory of the settings where none is asked for. -/
  settings : Option String
  args : List String
  config : Option String
  isVerbose : Bool
  manifest : String
  output : Option String
  scope : Option String
  compiler : Option String
  asks : parse args = .ok ⟨config, isVerbose, .emit manifest output scope compiler⟩

namespace Emit

variable {call : Emit} {tree : Tree}

def host (call : Emit) : Host (StateM Tree) :=
  Tree.host call.workDir call.programs

/-- How the command ends, and the tree that it leaves. -/
def run (call : Emit) (tree : Tree) : Outcome × Tree :=
  (Command.run call.host call.settings call.args).run tree

/-- The settings of the toolchain. -/
def toolchain (call : Emit) (tree : Tree) : Except (List String) Toolchain :=
  ((loadToolchain call.host (call.config <|> call.settings)).on tree).1

/-- The manifest. -/
def load (call : Emit) (tree : Tree) : Except LoadFault Manifest :=
  match tree.readText call.workDir call.manifest with
  | .error fault => .error (.io call.manifest fault)
  | .ok text => (Manifest.ofText text).mapError .json

/-- The compilation of a module of authorization logic, seen from the directory of the manifest. -/
def job (call : Emit) (toolchain : Toolchain) (decl : ModuleDecl) : Compiler.Job :=
  let base := (Path.parent? call.manifest).getD ""
  ⟨compilerFor toolchain call.compiler, call.workDir, decl.name, Path.join base decl.inputDir,
    Path.join base decl.outputDir⟩

/-- The file of the facts of the authorization logic, if it can be compiled, and the tree that is
    left by that. -/
def compiled (call : Emit) (toolchain : Toolchain) (m : Manifest) (tree : Tree) :
    Option String × Tree :=
  match m.authorizationLogic with
  | none => (none, tree)
  | some decl =>
    let done := (call.job toolchain decl).compilation call.programs tree
    (done.result.toOption, done.after)

/-- What becomes of a text: it is written, or it goes to the file that is asked for. -/
def deliver (call : Emit) (text : String) (tree : Tree) : Outcome × Tree :=
  match call.output with
  | none => ({ output := text }, tree)
  | some path =>
    match tree.writeFile call.workDir path text.toUTF8 with
    | .error fault => ({ code := 1, errors := ["failed to write " ++ path, fault.message] }, tree)
    | .ok after => ({}, after)

/-- The settings are only read. -/
theorem on_loadToolchain (directory : Option String) :
    ((loadToolchain call.host directory).on tree).2 = tree := by
  cases directory with
  | none => rfl
  | some directory => exact Folder.run_toolchain ⟨directory, call.workDir, call.programs⟩ tree

/-- The manifest is only read. -/
theorem run_load : (Manifest.load call.host call.manifest).run tree = (call.load tree, tree) := by
  rw [Manifest.load, StateT.run_bind, host, Tree.run_readText, load]
  cases tree.readText call.workDir call.manifest <;> rfl

theorem load_eq_ok_iff {m : Manifest} : call.load tree = .ok m ↔
    ∃ text, tree.readText call.workDir call.manifest = .ok text ∧ Manifest.ofText text = .ok m := by
  unfold load
  cases tree.readText call.workDir call.manifest with
  | error fault => simp
  | ok text =>
    simp only [Except.ok.injEq, exists_eq_left']
    cases Manifest.ofText text <;> simp [Except.mapError]

theorem run_compile (toolchain : Toolchain) (decl : ModuleDecl) :
    ((call.job toolchain decl).compiler.compile call.host (call.job toolchain decl).name
      (call.job toolchain decl).inputDir (call.job toolchain decl).outputDir).run tree =
      (((call.job toolchain decl).compilation call.programs tree).result,
        ((call.job toolchain decl).compilation call.programs tree).after) :=
  (Compiler.erases_compile _ _ _ _ _).run_eq [] tree

theorem on_programOf (toolchain : Toolchain) :
    (programOf call.host toolchain call.manifest call.compiler).on tree =
      match call.load tree with
      | .error fault => (.error fault.messages, tree)
      | .ok m =>
        match (toolchain.extend m).program with
        | .error fault => (.error ["failed to resolve " ++ call.manifest, fault.message], tree)
        | .ok p =>
          let (file?, after) := call.compiled toolchain m tree
          (.ok (p.addCompiled file?), after) := by
  rw [programOf, Attempt.on_bind, Attempt.on_reporting, run_load]
  cases call.load tree with
  | error fault => rfl
  | ok m =>
    dsimp only [Except.mapError]
    rw [Attempt.on_bind, Attempt.on_reporting, ← Toolchain.extend, StateT.run_pure]
    cases (toolchain.extend m).program with
    | error fault => rfl
    | ok p =>
      rw [compiled]
      cases m.authorizationLogic with
      | none => rfl
      | some decl =>
        -- The parts of the compilation are those of the job.
        change Attempt.on (ExceptT.lift ((call.job toolchain decl).compiler.compile call.host
          (call.job toolchain decl).name (call.job toolchain decl).inputDir
          (call.job toolchain decl).outputDir) >>= _) tree = _
        rw [Attempt.on_bind, Attempt.on_lift, run_compile]
        rfl

/-- How a command ends is told by what its task comes to. -/
theorem run_eq : call.run tree =
    match call.toolchain tree with
    | .error errors => ({ code := 1, errors }, tree)
    | .ok toolchain =>
      match (perform call.host toolchain
        (.emit call.manifest call.output call.scope call.compiler)).on tree with
      | (.error errors, after) => ({ code := 1, errors }, after)
      | (.ok (output, code), after) => ({ code, output }, after) := by
  have hread := @on_loadToolchain call tree (call.config <|> call.settings)
  rw [run, Command.run, call.asks]
  dsimp only
  rw [StateT.run_bind, ← Attempt.on, Attempt.on_bind, toolchain]
  generalize (loadToolchain call.host (call.config <|> call.settings)).on tree = loaded at hread ⊢
  obtain ⟨_ | toolchain, after⟩ := loaded
  all_goals obtain rfl : after = tree := hread
  · rfl
  · dsimp only
    rcases (perform call.host toolchain _).on after with ⟨_ | _, _⟩ <;> rfl

/-- A program that is known is delivered, or the namespace stops it. -/
theorem on_perform (toolchain : Toolchain) :
    (perform call.host toolchain
      (.emit call.manifest call.output call.scope call.compiler)).on tree =
      match (programOf call.host toolchain call.manifest call.compiler).on tree with
      | (.error errors, after) => (.error errors, after)
      | (.ok p, after) =>
        match Emission.start call.scope with
        | .error fault => (.error [fault.message], after)
        | .ok e =>
          match call.output with
          | none => (.ok (p.render e, 0), after)
          | some path =>
            match after.writeFile call.workDir path (p.render e).toUTF8 with
            | .error fault => (.error ["failed to write " ++ path, fault.message], after)
            | .ok written => (.ok ("", 0), written) := by
  rw [perform, Attempt.on_bind]
  rcases (programOf call.host toolchain call.manifest call.compiler).on tree with ⟨_ | p, after⟩
  · rfl
  · dsimp only
    rw [Attempt.on_bind, Attempt.on_reporting, StateT.run_pure]
    cases Emission.start call.scope with
    | error fault => rfl
    | ok e =>
      cases call.output with
      | none => rfl
      | some path =>
        change Attempt.on (reporting _ _ >>= _) after = _
        rw [Attempt.on_bind, Attempt.on_reporting, host, Tree.run_writeFile]
        dsimp only
        cases after.writeFile call.workDir path (p.render e).toUTF8 <;> rfl

/-- What stops a command before its program is written, with the sentences that report it and the
    tree that is left: the settings, the manifest, what is wrong with it, or the namespace. The
    authorization logic has been compiled by the time that the namespace is looked at. -/
inductive Halts (call : Emit) (tree : Tree) : List String → Tree → Prop where
  | unset {errors : List String} (h : call.toolchain tree = .error errors) :
    Halts call tree errors tree
  | unread {toolchain : Toolchain} {fault : LoadFault} (hset : call.toolchain tree = .ok toolchain)
    (h : call.load tree = .error fault) : Halts call tree fault.messages tree
  | unresolved {toolchain : Toolchain} {m : Manifest} {fault : ManifestFault}
    (hset : call.toolchain tree = .ok toolchain) (hload : call.load tree = .ok m)
    (h : (toolchain.extend m).program = .error fault) :
    Halts call tree ["failed to resolve " ++ call.manifest, fault.message] tree
  | unnamed {toolchain : Toolchain} {m : Manifest} {p : Program} {fault : Fault}
    (hset : call.toolchain tree = .ok toolchain) (hload : call.load tree = .ok m)
    (hresolved : (toolchain.extend m).program = .ok p)
    (h : Emission.start call.scope = .error fault) :
    Halts call tree [fault.message] (call.compiled toolchain m tree).2

/-- What a command needs to write a program: settings, a manifest and its program, and a namespace
    that can be one. -/
structure Ready (call : Emit) (tree : Tree) (settings : Toolchain) (m : Manifest) (p : Program)
    (e : Emission) : Prop where
  isSet : call.toolchain tree = .ok settings
  isLoaded : call.load tree = .ok m
  isResolved : (settings.extend m).program = .ok p
  isNamed : Emission.start call.scope = .ok e

theorem halts_or_ready (call : Emit) (tree : Tree) :
    (∃ errors after, call.Halts tree errors after) ∨
      ∃ settings m p e, call.Ready tree settings m p e := by
  cases hset : call.toolchain tree with
  | error errors => exact .inl ⟨_, _, .unset hset⟩
  | ok settings =>
    cases hload : call.load tree with
    | error fault => exact .inl ⟨_, _, .unread hset hload⟩
    | ok m =>
      cases hresolved : (settings.extend m).program with
      | error fault => exact .inl ⟨_, _, .unresolved hset hload hresolved⟩
      | ok p =>
        cases hnamed : Emission.start call.scope with
        | error fault => exact .inl ⟨_, _, .unnamed hset hload hresolved hnamed⟩
        | ok e => exact .inr ⟨_, _, _, _, hset, hload, hresolved, hnamed⟩

/-- Where a command is stopped nothing is written, neither to the output nor to a file. -/
theorem run_of_halts {errors : List String} {after : Tree} (h : call.Halts tree errors after) :
    call.run tree = ({ code := 1, errors }, after) := by
  cases h with
  | unset h => rw [run_eq, h]
  | unread hset h => simp only [run_eq, on_perform, on_programOf, hset, h]
  | unresolved hset hload h => simp only [run_eq, on_perform, on_programOf, hset, hload, h]
  | unnamed hset hload hresolved h =>
    simp only [run_eq, on_perform, on_programOf, hset, hload, hresolved, h]

/-- Otherwise the program is delivered, with the facts of its authorization logic if there are
    any. -/
theorem run_of_ready {settings : Toolchain} {m : Manifest} {p : Program} {e : Emission}
    (h : call.Ready tree settings m p e) :
    call.run tree = call.deliver ((p.addCompiled (call.compiled settings m tree).1).render e)
      (call.compiled settings m tree).2 := by
  simp only [run_eq, on_perform, on_programOf, deliver, h.isSet, h.isLoaded, h.isResolved,
    h.isNamed]
  cases call.output with
  | none => rfl
  | some path =>
    dsimp only
    cases (call.compiled settings m tree).2.writeFile call.workDir path _ <;> rfl

/-- What a command needs does not depend on the authorization logic. -/
theorem Ready.without {other : Tree} {settings : Toolchain} {m : Manifest} {p : Program}
    {e : Emission} (h : call.Ready tree settings m p e) (hset : call.toolchain other = .ok settings)
    (hload : call.load other = .ok { m with authorizationLogic := none }) :
    call.Ready other settings { m with authorizationLogic := none } p e :=
  ⟨hset, hload, h.isResolved, h.isNamed⟩

theorem load_of_removesModule {other : Tree} {text shorter : String} {m : Manifest}
    (htext : tree.readText call.workDir call.manifest = .ok text)
    (hshorter : other.readText call.workDir call.manifest = .ok shorter)
    (hremoves : Manifest.RemovesModule text shorter) (h : call.load tree = .ok m) :
    call.load other = .ok { m with authorizationLogic := none } := by
  obtain ⟨_, hsame, hm⟩ := load_eq_ok_iff.mp h
  cases htext.symm.trans hsame
  exact load_eq_ok_iff.mpr ⟨shorter, hshorter, Manifest.ofText_of_removesModule hremoves hm⟩

/-- A command writes a whole program or nothing, and a module of authorization logic leaves no trace
    if it cannot be compiled. Every command is stopped before anything is written, or has all that
    it needs. Then it delivers the program with its included files, and if the facts of the module
    could be compiled, their file in a line of its own after those of the settings and of the
    manifest; all else is what is delivered without the module. -/
theorem run_without_module (call : Emit) (tree : Tree) :
    (∀ errors after, call.Halts tree errors after →
      call.run tree = ({ code := 1, errors }, after)) ∧
    ((∃ errors after, call.Halts tree errors after) ∨
      ∃ settings m p e, call.Ready tree settings m p e) ∧
    (∀ other text shorter m, tree.readText call.workDir call.manifest = .ok text →
      other.readText call.workDir call.manifest = .ok shorter →
      Manifest.RemovesModule text shorter → call.load tree = .ok m →
      call.load other = .ok { m with authorizationLogic := none }) ∧
    ∀ settings m p e decl other, call.Ready tree settings m p e →
      m.authorizationLogic = some decl → call.toolchain other = .ok settings →
      call.load other = .ok { m with authorizationLogic := none } →
      let done := (call.job settings decl).compilation call.programs tree
      let files := settings.includes ++ m.includes
      let listed := String.join (files.map fun file => Program.includeLine file ++ "\n")
      let rest := p.withoutIncludes.render e
      let without := listed ++ (if files = [] then "" else "\n") ++ rest
      call.run other = call.deliver without other ∧
      (∀ fault, done.result = .error fault → call.run tree = call.deliver without done.after) ∧
      ∀ file, done.result = .ok file → call.run tree =
        call.deliver (listed ++ (Program.includeLine file ++ "\n") ++ "\n" ++ rest) done.after := by
  refine ⟨fun _ _ => run_of_halts, halts_or_ready call tree,
    fun _ _ _ _ htext hshorter => load_of_removesModule htext hshorter, ?_⟩
  intro settings m p e decl other hready hdecl hset hload done files listed rest without
  have hfiles : p.includes = files := Manifest.includes_of_program_eq_ok hready.isResolved
  have hwithout : p.render e = without := by
    rw [Program.render_eq_listed, hfiles]
  -- The compilation only decides whether one more file is included.
  have hcompiled : call.compiled settings m tree = (done.result.toOption, done.after) := by
    rw [compiled, hdecl]
  refine ⟨?_, fun fault hfault => ?_, fun file hfile => ?_⟩
  · rw [run_of_ready (hready.without hset hload), ← hwithout]
    rfl
  · rw [run_of_ready hready, hcompiled, hfault, ← hwithout]
    rfl
  · rw [run_of_ready hready, hcompiled, hfile]
    change call.deliver ((p.addInclude file).render e) done.after = _
    rw [Program.render_addInclude, hfiles]

/-- A command for the program of a manifest, where programs do nothing. -/
def asking : Emit where
  workDir := []
  programs := idle
  settings := none
  args := ["emit", "m.json"]
  config := none
  isVerbose := false
  manifest := "m.json"
  output := none
  scope := none
  compiler := none
  asks := by decide +kernel

/-- The text of a manifest beside a module with facts. -/
def beside (text : String) : Tree :=
  { stale with nodes := (["m.json"], .file text.toUTF8 0o644) :: stale.nodes }

theorem readText_beside (text : String) :
    (beside text).readText asking.workDir asking.manifest = .ok text := by
  have hread : (beside text).readFile asking.workDir asking.manifest = .ok text.toUTF8 := rfl
  rw [Tree.readText, hread]
  dsimp only
  rw [fromUTF8?_toUTF8]

/-- A manifest with a module, which may have any name. -/
def besideModule (name : String) : Tree :=
  beside (Manifest.textIncluding ["b.dl"] (some ⟨name, "in", "out"⟩))

/-- The manifest without a module. -/
def besideNone : Tree :=
  beside (Manifest.textIncluding ["b.dl"] none)

/-- The facts that are there are included. A module that is not there leaves no trace. -/
theorem run_asking :
    asking.run besideNone = ({ output := "#include \"b.dl\"\n\n" }, besideNone) ∧
    asking.run (besideModule "m") =
      ({ output := "#include \"b.dl\"\n#include \"out/m.dl\"\n\n" }, besideModule "m") ∧
    asking.run (besideModule "n") = ({ output := "#include \"b.dl\"\n\n" }, besideModule "n") := by
  have hload (name : String) : asking.load (besideModule name) =
      .ok ({ Manifest.including ["b.dl"] with authorizationLogic := some ⟨name, "in", "out"⟩ }) :=
    load_eq_ok_iff.mpr ⟨_, readText_beside _, Manifest.ofText_textIncluding _ _⟩
  have hready (name : String) : asking.Ready (besideModule name) {} _ { includes := ["b.dl"] } {} :=
    ⟨rfl, hload name, rfl, rfl⟩
  have hrun (name : String) :=
    have h := run_without_module asking (besideModule name)
    h.2.2.2 _ _ _ _ _ besideNone (hready name) rfl rfl (h.2.2.1 _ _ _ _ (readText_beside _)
      (readText_beside _) (Manifest.removesModule_textIncluding _ _) (hload name))
  refine ⟨(hrun "m").1, ?_, ?_⟩
  · have hjob : (asking.job {} ⟨"m", "in", "out"⟩).Ready (besideModule "m") :=
      ⟨by decide, by decide +kernel, by decide +kernel, by decide +kernel⟩
    obtain ⟨hok, hafter⟩ := compilation_idle hjob (by decide +kernel)
    exact ((hrun "m").2.2 _ hok).trans (congrArg (Prod.mk _) hafter)
  · have hjob : ¬ (asking.job {} ⟨"n", "in", "out"⟩).Ready (besideModule "n") := fun h =>
      absurd h.hasSource (by decide +kernel)
    have houtcome := (asking.job {} ⟨"n", "in", "out"⟩).outcome_compilation idle (besideModule "n")
    have herror : ((asking.job {} ⟨"n", "in", "out"⟩).compilation idle (besideModule "n")).result =
        .error (.missingSource "in/n.auth") := by decide +kernel
    exact ((hrun "n").2.1 _ herror).trans (congrArg (Prod.mk _) (houtcome.ran_eq.2 hjob).2)

end Emit

end Command

end InfoFlow
