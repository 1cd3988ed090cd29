import InfoFlow.Proofs.Compiler.Runs
import InfoFlow.Proofs.Validity
import InfoFlow.Sandbox.Programs

namespace InfoFlow.Sandbox

/-- The run comes to an end by itself, with an answer of the kind. On the machine it changes the
    files and the channels, and nothing else. -/
def Returns {α : Type} (run : Run α) (gives : α → Prop) : Prop :=
  ∀ before, ∃ answer after, run.run before = (.ok answer, after) ∧
    before.sharing after = after ∧ gives answer

section

variable {α β : Type} {gives : α → Prop}

theorem returns_pure {answer : α} (h : gives answer) : Returns (pure answer) gives :=
  fun before => ⟨answer, before, rfl, rfl, h⟩

theorem returns_get {next : Machine → Run α} (h : ∀ machine, Returns (next machine) gives) :
    Returns (get >>= next) gives :=
  fun before => h before before

theorem run_map (run : Run α) (f : α → β) (before : Machine) :
    (do return f (← run) : Run β).run before =
      ((run.run before).1.map f, (run.run before).2) := by
  change (ExceptT.bindCont (fun answer => (pure (f answer) : Run β)) (run.run before).1 :
    StateM Machine (Except Nat β)) (run.run before).2 = _
  obtain ⟨_ | _, after⟩ := run.run before <;> rfl

theorem Returns.map {run : Run α} (h : Returns run gives) {f : α → β} {shown : β → Prop}
    (hf : ∀ answer, gives answer → shown (f answer)) :
    Returns (do return f (← run)) shown := by
  intro before
  obtain ⟨answer, after, hrun, hsharing, hgives⟩ := h before
  refine ⟨f answer, after, ?_, hsharing, hf answer hgives⟩
  rw [run_map, hrun]
  rfl

end

/-- A status as a system tells it: the number of a program that was not ended by a signal is a
    byte. -/
def IsStatus : ExitStatus → Prop
  | .code n => n < 256
  | .signal _ => True

/-- A program of its own keeps the files and channels that the run leaves, and nothing else of it. -/
theorem run_isolated (body : Run Nat) (before : Machine) : (isolated body).run before =
    match body.run before with
    | (.ok n, after) => (.ok (.code (n % 256)), before.sharing after)
    | (.error signal, after) => (.ok (.signal signal), before.sharing after) := by
  have hbody : (isolated body).run before = (isolated fun _ => body.run before).run before := rfl
  rw [hbody]
  obtain ⟨_ | _, after⟩ := body.run before <;> rfl

/-- Whatever a program does, a signal that ends it does not end the one that runs it. -/
theorem returns_isolated (body : Run Nat) : Returns (isolated body) IsStatus := by
  intro before
  have hrun := run_isolated body before
  generalize body.run before = reply at hrun
  obtain ⟨signal | n, after⟩ := reply
  · exact ⟨_, _, hrun, rfl, trivial⟩
  · exact ⟨_, _, hrun, rfl, Nat.mod_lt n (by decide)⟩

/-- What a name launches is looked for on the machine, and a script launches what reads it. -/
theorem run_launch (known : String → Option (Launch → Program)) (fuel : Nat) (name : String)
    (args : List String) (before : Machine) :
    (launch known (fuel + 1) (name :: args)).run before =
      (match before.runnable name with
      | .error fault => (return .error fault : Run (Except IoFault ExitStatus))
      | .ok (_, .program found) =>
        match known found with
        | none => return .error .notFound
        | some program => return .ok (← isolated (program (launch known fuel) name args))
      | .ok (path, .script interpreter _) =>
        launch known fuel (interpreter ++ path :: args)).run before :=
  rfl

/-- A launched program leaves its caller the working directory, the environment, the streams and the
    mask that it had. Nothing is asked of the programs that are known. -/
theorem returns_launch (known : String → Option (Launch → Program)) (fuel : Nat)
    (words : List String) : Returns (launch known fuel words)
      fun answer => ∀ status, answer = .ok status → IsStatus status := by
  -- Only a script is replaced by another launch, which has less fuel.
  induction fuel generalizing words with
  | zero => exact returns_pure fun _ => nofun
  | succ fuel ih =>
    cases words with
    | nil => exact returns_pure fun _ => nofun
    | cons name args =>
      refine returns_get fun machine => ?_
      split
      · exact returns_pure fun _ => nofun
      · split
        · exact returns_pure fun _ => nofun
        · refine (returns_isolated _).map fun status hstatus => ?_
          rintro _ ⟨⟩
          exact hstatus
      · exact ih _

/-- The machine on which a program is launched for a call. -/
def callee (workDir : Location) (tree : Tree) : Machine where
  tree := tree
  workDir := workDir
  environment := environment
  channels := #[.nothing, .buffer .empty, .buffer .empty]
  streams := [(0, 0), (1, 1), (2, 2)]

/-- The name of a program and its arguments, as bytes. -/
def words (invocation : Invocation) : List String :=
  (invocation.program :: invocation.args).map Raw.ofText

/-- The call can be handed to a program: a zero would end the text that it is in. -/
def Passable (invocation : Invocation) : Prop :=
  ∀ text ∈ invocation.program :: invocation.args, '\x00' ∉ text.toList

variable {workDir : Location} {invocation : Invocation} {tree after : Tree}

theorem programs_eq (h : Passable invocation) : programs workDir invocation tree =
    match (launcher (words invocation)).run (callee workDir tree) with
    | (.ok (.ok status), machine) => .ok (⟨status, machine.bufferAt 2⟩, machine.tree)
    | (.ok (.error fault), _) => .error fault
    | (.error signal, machine) => .ok (⟨.signal signal, machine.bufferAt 2⟩, machine.tree) := by
  have hzero : ((invocation.program :: invocation.args).any
      fun text => text.toList.contains '\x00') = false := by
    simpa [Passable] using h
  unfold programs
  rw [hzero]
  rfl

theorem passable_of_programs {reply : Finished × Tree}
    (h : programs workDir invocation tree = .ok reply) : Passable invocation := by
  intro text htext hmem
  have hzero : ((invocation.program :: invocation.args).any
      fun text => text.toList.contains '\x00') = true :=
    List.any_eq_true.mpr ⟨text, htext, by simpa using hmem⟩
  unfold programs at h
  rw [hzero] at h
  cases h

theorem isStatus_of_programs {finished : Finished}
    (h : programs workDir invocation tree = .ok (finished, after)) : IsStatus finished.status := by
  obtain ⟨answer, machine, hrun, -, hstatus⟩ : ∃ answer machine,
      (launcher (words invocation)).run (callee workDir tree) = (.ok answer, machine) ∧
        (callee workDir tree).sharing machine = machine ∧
        ∀ status, answer = .ok status → IsStatus status :=
    returns_launch _ _ _ _
  rw [programs_eq (passable_of_programs h), hrun] at h
  cases answer with
  | error fault => cases h
  | ok status =>
    cases h
    exact hstatus status rfl

/-- The program `true`, where it is found, succeeds and does nothing. -/
theorem programs_true {args : List String} {path : String} (hpassable : Passable ⟨"true", args⟩)
    (hfound : (callee workDir tree).runnable "true" = .ok (path, .program "true")) :
    programs workDir ⟨"true", args⟩ tree = Compiler.idle ⟨"true", args⟩ tree := by
  have hwords : words ⟨"true", args⟩ = "true" :: args.map Raw.ofText :=
    congrArg (· :: args.map Raw.ofText) (by decide +kernel : Raw.ofText "true" = "true")
  rw [programs_eq hpassable, hwords, launcher, launchFuel, run_launch, hfound]
  rfl

/-- On a machine with nothing else `true` is found among the programs. -/
example : (callee ["w"] (blankTree ["w"])).runnable "true" =
    .ok ("/usr/bin/true", .program "true") := rfl

end InfoFlow.Sandbox

namespace InfoFlow.Compiler.Job

variable {job : Job} {tree : Tree}

/-- A call that is made has no zeros in it, as none of the files would be found. -/
theorem Ready.passable (h : job.Ready tree) (hprogram : '\x00' ∉ job.compiler.program.toList)
    (hargs : ∀ text ∈ job.compiler.leadingArgs, '\x00' ∉ text.toList) :
    Sandbox.Passable job.invocation := by
  have hdir {path : String} (hpath : tree.isDir job.workDir path = true) :
      '\x00' ∉ path.toList := by
    intro hzero
    have hfind : tree.find job.workDir path = .error .zeroInPath := by
      simp [Tree.find, Tree.look, Tree.refuse, hzero, Bind.bind, Except.bind]
    rw [Tree.isDir, hfind] at hpath
    cases hpath
  have hname : '\x00' ∉ job.name.toList := fun hzero =>
    absurd (h.valid.defectOf_eq_none hzero) (by decide)
  have hinput := hdir h.hasInput
  have houtput := hdir h.hasOutput
  intro text htext
  rcases List.mem_cons.mp htext with rfl | htext
  · exact hprogram
  rcases List.mem_append.mp htext with htext | htext
  · exact hargs text htext
  cases hstyle : job.compiler.argStyle with
  | flags =>
    simp only [hstyle, List.mem_cons, List.not_mem_nil, or_false] at htext
    rcases htext with rfl | rfl | rfl | rfl | rfl | rfl
    exacts [by decide, hname, by decide, hinput, by decide, houtput]
  | positional =>
    simp only [hstyle, List.mem_cons, List.not_mem_nil, or_false] at htext
    rcases htext with rfl | rfl | rfl
    exacts [hname, hinput, houtput]

/-- A compiler of the sandbox that is not ended by a signal fails with a number from 1 to 255. -/
theorem status_of_failed {n : Nat} {stderr : String}
    (h : (job.compilation (Sandbox.programs job.workDir) tree).result =
      .error (.failed (.code n) stderr)) : 0 < n ∧ n < 256 := by
  have houtcome := job.outcome_compilation (Sandbox.programs job.workDir) tree
  generalize job.compilation (Sandbox.programs job.workDir) tree = done at h houtcome
  cases houtcome with
  | refused hrefused => cases hrefused <;> cases h
  | failed _ hrun hstatus =>
    have hcode := Sandbox.isStatus_of_programs hrun
    generalize Finished.status _ = status at *
    cases h
    refine ⟨Nat.pos_of_ne_zero ?_, hcode⟩
    rintro rfl
    cases hstatus
  | notStarted | missing | compiled => cases h

/-- With the program `true` for a compiler nothing is ever changed, and a module is compiled exactly
    when a file is in the place of its facts already. -/
theorem compilation_true {path : String} (hprogram : job.compiler.program = "true")
    (hargs : ∀ text ∈ job.compiler.leadingArgs, '\x00' ∉ text.toList)
    (hfound : (Sandbox.callee job.workDir tree).runnable "true" = .ok (path, .program "true")) :
    let done := job.compilation (Sandbox.programs job.workDir) tree
    done.after = tree ∧ ∀ facts, done.result = .ok facts ↔
      facts = job.facts ∧ job.Ready tree ∧ tree.isFile job.workDir facts = true := by
  intro done
  have houtcome : job.Outcome (Sandbox.programs job.workDir) tree done :=
    job.outcome_compilation (Sandbox.programs job.workDir) tree
  have hrun (hready : job.Ready tree) : Sandbox.programs job.workDir job.invocation tree =
      .ok (⟨.code 0, .empty⟩, tree) := by
    have hpassable := hready.passable (by rw [hprogram]; decide) hargs
    have hcall : job.invocation = ⟨"true", job.invocation.args⟩ := by
      rw [← hprogram]
      rfl
    rw [hcall] at hpassable ⊢
    exact Sandbox.programs_true hpassable hfound
  have hafter : done.after = tree := by
    by_cases hready : job.Ready tree
    · exact houtcome.after_eq hready (hrun hready)
    · exact (houtcome.ran_eq.2 hready).2
  refine ⟨hafter, fun facts => ?_⟩
  rw [houtcome.result_eq_ok_iff, hafter]
  constructor
  · rintro ⟨hfacts, hready, -, -, -, hfile⟩
    exact ⟨hfacts, hready, hfile⟩
  · rintro ⟨hfacts, hready, hfile⟩
    exact ⟨hfacts, hready, _, hrun hready, rfl, hfile⟩

end InfoFlow.Compiler.Job
