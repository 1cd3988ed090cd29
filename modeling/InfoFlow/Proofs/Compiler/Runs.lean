import InfoFlow.Compiler
import InfoFlow.Program.Basic
import InfoFlow.Proofs.Host.Notes

namespace InfoFlow.Compiler

/-- Notes do not change what is done. -/
theorem erases_compile {m : Type → Type} [Monad m] [LawfulMonad m] (host : Host m)
    (c : Compiler) (name inputDir outputDir : String) :
    Host.Erases (c.compile host.noting name inputDir outputDir)
      (c.compile host name inputDir outputDir) := by
  unfold compile
  split
  · exact Host.erases_pure _
  refine (Host.erases_lift _).bind fun hasInput => ?_
  split
  · exact Host.erases_pure _
  refine (Host.erases_lift _).bind fun hasSource => ?_
  split
  · exact Host.erases_pure _
  refine (Host.erases_lift _).bind fun hasOutput => ?_
  split
  · exact Host.erases_pure _
  refine (Host.erases_run host _).bind fun
    | .error fault => Host.erases_pure _
    | .ok finished => ?_
  dsimp only
  split
  · exact Host.erases_pure _
  refine (Host.erases_lift _).bind fun hasFacts => ?_
  split
  · exact Host.erases_pure _
  · exact Host.erases_pure _

/-- A module that is to be compiled: the call of a compiler in a working directory. -/
structure Job where
  compiler : Compiler
  workDir : Location
  name : String
  inputDir : String
  outputDir : String

/-- What a compilation comes to: its result, the programs that were run for it, and the tree that
    they leave. -/
structure Compilation where
  result : Except CompileFault String
  ran : List Invocation
  after : Tree

namespace Job

/-- The file that is to hold the facts. -/
def facts (job : Job) : String :=
  factFile job.name job.outputDir

def invocation (job : Job) : Invocation :=
  job.compiler.invocation job.name job.inputDir job.outputDir

/-- The compilation of the module on a machine. -/
def compilation (job : Job) (programs : Tree.Programs) (tree : Tree) : Compilation :=
  let ((result, ran), after) := Tree.perform (job.compiler.compile
    (Tree.host job.workDir programs).noting job.name job.inputDir job.outputDir) [] tree
  ⟨result, ran, after⟩

/-- What has to be there before the compiler is run. -/
structure Ready (job : Job) (tree : Tree) : Prop where
  valid : Identifier.Valid job.name
  hasInput : tree.isDir job.workDir job.inputDir = true
  hasSource : tree.isFile job.workDir (sourceFile job.name job.inputDir) = true
  hasOutput : tree.isDir job.workDir job.outputDir = true

/-- Why a compilation is given up before anything is run: the first of these things that is not
    there. -/
inductive Refused (job : Job) (tree : Tree) : CompileFault → Prop where
  | name (h : ¬ Identifier.Valid job.name) : Refused job tree (.invalidModule job.name)
  | input (hvalid : Identifier.Valid job.name) (h : tree.isDir job.workDir job.inputDir = false) :
    Refused job tree (.missingInputDir job.inputDir)
  | source (hvalid : Identifier.Valid job.name)
    (hinput : tree.isDir job.workDir job.inputDir = true)
    (h : tree.isFile job.workDir (sourceFile job.name job.inputDir) = false) :
    Refused job tree (.missingSource (sourceFile job.name job.inputDir))
  | output (hvalid : Identifier.Valid job.name)
    (hinput : tree.isDir job.workDir job.inputDir = true)
    (hsource : tree.isFile job.workDir (sourceFile job.name job.inputDir) = true)
    (h : tree.isDir job.workDir job.outputDir = false) :
    Refused job tree (.missingOutputDir job.outputDir)

theorem Refused.not_ready {job : Job} {tree : Tree} {fault : CompileFault}
    (h : job.Refused tree fault) : ¬ job.Ready tree := by
  intro hready
  cases h with
  | name h => exact h hready.valid
  | input _ h => cases h.symm.trans hready.hasInput
  | source _ _ h => cases h.symm.trans hready.hasSource
  | output _ _ _ h => cases h.symm.trans hready.hasOutput

/-- The ways in which a compilation may go. -/
inductive Outcome (job : Job) (programs : Tree.Programs) (tree : Tree) : Compilation → Prop where
  | refused {fault : CompileFault} (h : job.Refused tree fault) :
    Outcome job programs tree ⟨.error fault, [], tree⟩
  | notStarted (h : job.Ready tree) {fault : IoFault}
    (hrun : programs job.invocation tree = .error fault) :
    Outcome job programs tree
      ⟨.error (.notStarted job.compiler.program fault), [job.invocation], tree⟩
  | failed (h : job.Ready tree) {finished : Finished} {after : Tree}
    (hrun : programs job.invocation tree = .ok (finished, after))
    (hstatus : finished.status.success = false) :
    Outcome job programs tree
      ⟨.error (.failed finished.status (Text.trim (Text.Utf8.lossy finished.stderr))),
        [job.invocation], after⟩
  | missing (h : job.Ready tree) {finished : Finished} {after : Tree}
    (hrun : programs job.invocation tree = .ok (finished, after))
    (hstatus : finished.status.success = true)
    (hfile : after.isFile job.workDir job.facts = false) :
    Outcome job programs tree ⟨.error (.missingOutput job.facts), [job.invocation], after⟩
  | compiled (h : job.Ready tree) {finished : Finished} {after : Tree}
    (hrun : programs job.invocation tree = .ok (finished, after))
    (hstatus : finished.status.success = true)
    (hfile : after.isFile job.workDir job.facts = true) :
    Outcome job programs tree ⟨.ok job.facts, [job.invocation], after⟩

variable {job : Job} {programs : Tree.Programs} {tree : Tree}

/-- Every compilation goes in one of these ways. -/
theorem outcome_compilation (job : Job) (programs : Tree.Programs) (tree : Tree) :
    job.Outcome programs tree (job.compilation programs tree) := by
  unfold compilation compile
  -- The checks come one after the other, and the first one that fails ends the compilation.
  by_cases hvalid : Identifier.defect? job.name = none
  case neg =>
    rw [if_pos hvalid]
    exact .refused (.name hvalid)
  rw [if_neg (fun h => h hvalid), Tree.perform_bind, Tree.perform_isDir]
  cases hinput : tree.isDir job.workDir job.inputDir
  case false => exact .refused (.input hvalid hinput)
  dsimp only
  rw [if_neg (by decide), Tree.perform_bind, Tree.perform_isFile]
  cases hsource : tree.isFile job.workDir (sourceFile job.name job.inputDir)
  case false => exact .refused (.source hvalid hinput hsource)
  dsimp only
  rw [if_neg (by decide), Tree.perform_bind, Tree.perform_isDir]
  cases houtput : tree.isDir job.workDir job.outputDir
  case false => exact .refused (.output hvalid hinput hsource houtput)
  have hready : job.Ready tree := ⟨hvalid, hinput, hsource, houtput⟩
  dsimp only
  rw [if_neg (by decide), Tree.perform_bind, Tree.perform_run]
  cases hrun : programs (job.compiler.invocation job.name job.inputDir job.outputDir) tree with
  | error fault => exact .notStarted hready hrun
  | ok reply =>
    obtain ⟨finished, after⟩ := reply
    dsimp only
    cases hstatus : finished.status.success
    case false => exact .failed hready hrun hstatus
    rw [if_neg (by decide), Tree.perform_bind, Tree.perform_isFile]
    cases hfile : after.isFile job.workDir (factFile job.name job.outputDir) with
    | false => exact .missing hready hrun hstatus hfile
    | true => exact .compiled hready hrun hstatus hfile

namespace Outcome

variable {done : Compilation} {path : String}

/-- A compilation succeeds when the compiler is run, succeeds and leaves a file in the place of the
    facts. -/
theorem result_eq_ok_iff (h : job.Outcome programs tree done) : done.result = .ok path ↔
    path = job.facts ∧ job.Ready tree ∧
    ∃ finished, programs job.invocation tree = .ok (finished, done.after) ∧
      finished.status.success = true ∧ done.after.isFile job.workDir path = true := by
  cases h with
  | refused h => simp [h.not_ready]
  | notStarted h hrun => simp [hrun]
  | failed h hrun hstatus => simp [hrun, hstatus]
  | missing h hrun hstatus hfile =>
    simp only [reduceCtorEq, false_iff]
    rintro ⟨rfl, _, _, _, _, hfile'⟩
    cases hfile.symm.trans hfile'
  | compiled h hrun hstatus hfile =>
    constructor
    · rintro ⟨⟩
      exact ⟨rfl, h, _, hrun, hstatus, hfile⟩
    · rintro ⟨rfl, _⟩
      rfl

/-- The compiler is run once if all is there that it needs. Otherwise nothing is run or changed. -/
theorem ran_eq (h : job.Outcome programs tree done) :
    (job.Ready tree → done.ran = [job.invocation]) ∧
    (¬ job.Ready tree → done.ran = [] ∧ done.after = tree) := by
  cases h with
  | refused h => exact ⟨fun hready => absurd hready h.not_ready, fun _ => ⟨rfl, rfl⟩⟩
  | notStarted h | failed h | missing h | compiled h =>
    exact ⟨fun _ => rfl, fun hready => absurd h hready⟩

/-- What the compiler leaves is what the compilation leaves. -/
theorem after_eq (h : job.Outcome programs tree done) (hready : job.Ready tree)
    {finished : Finished} {after : Tree}
    (hrun : programs job.invocation tree = .ok (finished, after)) : done.after = after := by
  cases h with
  | refused h => exact absurd hready h.not_ready
  | notStarted _ hother => cases hother.symm.trans hrun
  | failed _ hother | missing _ hother | compiled _ hother =>
    cases hother.symm.trans hrun
    rfl

end Outcome

end Job

/-- A program gets facts only from a compilation that succeeds, and always then. -/
theorem addCompiled_eq_self_iff {program : Program} {result : Except CompileFault String} :
    program.addCompiled result.toOption = program ↔ ∃ fault, result = .error fault := by
  cases result with
  | error fault => exact iff_of_true rfl ⟨fault, rfl⟩
  | ok path =>
    refine iff_of_false (fun h => ?_) (by rintro ⟨_, ⟨⟩⟩)
    have hincludes := congrArg (·.includes.length) h
    simp [Program.addCompiled, Except.toOption, Program.addInclude] at hincludes

/-- Between two trees the file at a path was written: it is there, and what is there is not what was
    there before. -/
def Wrote (workDir : Location) (path : String) (before after : Tree) : Prop :=
  after.isFile workDir path = true ∧ after.find workDir path ≠ before.find workDir path

theorem wrote_of_isFile {workDir : Location} {path : String} {before after : Tree}
    (hbefore : before.isFile workDir path = false) (hafter : after.isFile workDir path = true) :
    Wrote workDir path before after := by
  refine ⟨hafter, fun h => ?_⟩
  rw [Tree.isFile, h, ← Tree.isFile, hbefore] at hafter
  cases hafter

/-- A compiler that succeeds and does nothing. -/
def idle : Tree.Programs := fun _ tree => .ok (⟨.code 0, .empty⟩, tree)

/-- The facts that are there are good enough for the compiler that does nothing. -/
theorem compilation_idle {job : Job} {tree : Tree} (h : job.Ready tree)
    (hfile : tree.isFile job.workDir job.facts = true) :
    (job.compilation idle tree).result = .ok job.facts ∧
      (job.compilation idle tree).after = tree := by
  have houtcome := job.outcome_compilation idle tree
  have hafter := houtcome.after_eq h rfl
  refine ⟨houtcome.result_eq_ok_iff.mpr ⟨rfl, h, ⟨.code 0, .empty⟩, ?_, rfl, ?_⟩, hafter⟩
  · rw [hafter]
    rfl
  · rw [hafter, hfile]

/-- The tree after a series of compilations, with whatever programs. -/
def series (tree : Tree) : List (Job × Tree.Programs) → Tree
  | [] => tree
  | (job, programs) :: rest => series (job.compilation programs tree).after rest

/-- A file that is there after some compilations and was not before is written by one of them. -/
theorem exists_wrote_of_series {workDir : Location} {path : String} {tree : Tree}
    {steps : List (Job × Tree.Programs)} (hbefore : tree.isFile workDir path = false)
    (hafter : (series tree steps).isFile workDir path = true) :
    ∃ earlier job programs later, steps = earlier ++ (job, programs) :: later ∧
      Wrote workDir path (series tree earlier)
        (job.compilation programs (series tree earlier)).after := by
  induction steps generalizing tree with
  | nil => cases hbefore.symm.trans hafter
  | cons step rest ih =>
    obtain ⟨job, programs⟩ := step
    cases hfirst : (job.compilation programs tree).after.isFile workDir path with
    | true => exact ⟨[], job, programs, rest, rfl, wrote_of_isFile hbefore hfirst⟩
    | false =>
      obtain ⟨earlier, other, otherPrograms, later, rfl, hwrote⟩ := ih hfirst hafter
      exact ⟨(job, programs) :: earlier, other, otherPrograms, later, rfl, hwrote⟩

theorem series_append (tree : Tree) (steps : List (Job × Tree.Programs)) (job : Job)
    (programs : Tree.Programs) : series tree (steps ++ [(job, programs)]) =
      (job.compilation programs (series tree steps)).after := by
  induction steps generalizing tree with
  | nil => rfl
  | cons step rest ih => exact ih _

/-- A compilation succeeds exactly when all is there that the compiler needs, the compiler is run
    and succeeds, and a file is in the place of the facts afterwards. The compiler is run once then,
    and otherwise once at most; a program stays as it is exactly when the compilation fails.
    That a compilation which succeeds has its facts written in its own run, whatever the compiler
    does, holds exactly if none of them were there before. In a series of compilations that starts
    without facts, those that are given are written in some run of the series. -/
theorem wrote_iff_no_file_before (job : Job) (tree : Tree) :
    (∀ programs : Tree.Programs,
      let done := job.compilation programs tree
      (job.compiler.compile (Tree.host job.workDir programs) job.name job.inputDir
        job.outputDir).run tree = (done.result, done.after) ∧
      (∀ path, done.result = .ok path ↔ path = job.facts ∧ job.Ready tree ∧
        ∃ finished, programs job.invocation tree = .ok (finished, done.after) ∧
          finished.status.success = true ∧ done.after.isFile job.workDir path = true) ∧
      (job.Ready tree → done.ran = [job.invocation]) ∧
      (¬ job.Ready tree → done.ran = [] ∧ done.after = tree) ∧
      ∀ program : Program, program.addCompiled done.result.toOption = program ↔
        ∃ fault, done.result = .error fault) ∧
    ((∀ programs path, (job.compilation programs tree).result = .ok path →
        Wrote job.workDir path tree (job.compilation programs tree).after) ↔
      ¬ (job.Ready tree ∧ tree.isFile job.workDir job.facts = true)) ∧
    ∀ steps programs path, tree.isFile job.workDir path = false →
      (job.compilation programs (series tree steps)).result = .ok path →
      ∃ earlier other otherPrograms later,
        steps ++ [(job, programs)] = earlier ++ (other, otherPrograms) :: later ∧
        Wrote job.workDir path (series tree earlier)
          (other.compilation otherPrograms (series tree earlier)).after := by
  refine ⟨fun programs => ?_, ⟨fun h hstale => ?_, fun h programs path hok => ?_⟩, ?_⟩
  · have houtcome := job.outcome_compilation programs tree
    exact ⟨(erases_compile _ _ _ _ _).run_eq [] tree, fun _ => houtcome.result_eq_ok_iff,
      houtcome.ran_eq.1, houtcome.ran_eq.2, fun _ => addCompiled_eq_self_iff⟩
  · -- The compiler that does nothing succeeds with what is there.
    obtain ⟨hready, hfile⟩ := hstale
    obtain ⟨hok, hafter⟩ := compilation_idle hready hfile
    obtain ⟨_, hchanged⟩ := h idle job.facts hok
    exact hchanged (by rw [hafter])
  · obtain ⟨rfl, hready, _, _, _, hfile⟩ :=
      (job.outcome_compilation programs tree).result_eq_ok_iff.mp hok
    exact wrote_of_isFile (Bool.eq_false_iff.mpr fun hbefore => h ⟨hready, hbefore⟩) hfile
  · intro steps programs path hbefore hok
    obtain ⟨_, _, _, _, _, hfile⟩ :=
      (job.outcome_compilation programs (series tree steps)).result_eq_ok_iff.mp hok
    exact exists_wrote_of_series hbefore (by rw [series_append, hfile])

/-- A module with facts of an earlier run. -/
def stale : Tree where
  nodes := [(["in"], .directory 0o755), (["in", "m.auth"], .file .empty 0o644),
    (["out"], .directory 0o755), (["out", "m.dl"], .file .empty 0o644)]

/-- The compiler succeeds and writes nothing, and the program gets the facts that were there. -/
theorem not_wrote_stale :
    let done := Job.compilation ⟨⟨"true", [], .flags⟩, [], "m", "in", "out"⟩ idle stale
    done.result = .ok "out/m.dl" ∧ done.after = stale ∧ ¬ Wrote [] "out/m.dl" stale done.after ∧
    (Program.addCompiled {} done.result.toOption).includes = ["out/m.dl"] := by
  refine ⟨rfl, rfl, ?_, rfl⟩
  rintro ⟨_, hchanged⟩
  exact hchanged rfl

end InfoFlow.Compiler
