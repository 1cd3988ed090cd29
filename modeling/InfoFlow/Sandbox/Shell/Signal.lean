import InfoFlow.Sandbox.Shell.Arguments

namespace InfoFlow.Shell

open Sandbox

/-- The names of the signals that have one of their own, without what the names have in common. The
    end of a script counts among them. -/
def signalNames : List (Nat × String) :=
  [(0, "EXIT"), (1, "HUP"), (2, "INT"), (3, "QUIT"), (4, "ILL"), (5, "TRAP"), (6, "ABRT"),
    (7, "BUS"), (8, "FPE"), (9, "KILL"), (10, "USR1"), (11, "SEGV"), (12, "USR2"), (13, "PIPE"),
    (14, "ALRM"), (15, "TERM"), (17, "CHLD"), (18, "CONT"), (19, "STOP"), (20, "TSTP"),
    (21, "TTIN"), (22, "TTOU"), (23, "URG"), (24, "XCPU"), (25, "XFSZ"), (26, "VTALRM"),
    (27, "PROF"), (28, "WINCH"), (29, "IO"), (30, "PWR"), (31, "SYS"), (34, "RTMIN"),
    (64, "RTMAX")]

/-- How many signals there are, the end of a script included. -/
def signalCount : Nat := 65

/-- What a signal is called. Those between the first and the last that are free for use are counted
    from the nearer one; others are called by their numbers. -/
def signalLabel (n : Nat) : String :=
  match signalNames.lookup n with
  | some name => name
  | none =>
    if 34 < n && n < 50 then "RTMIN+" ++ toString (n - 34)
    else if 50 ≤ n && n < 64 then "RTMAX-" ++ toString (64 - n)
    else toString n

/-- The signal that a name or a number stands for, not below a number. -/
def signalFrom? (least : Nat) (s : String) : Option Nat :=
  match digits? s with
  | some n => if n < signalCount then some n else none
  | none =>
    let upper := String.ofList (s.toList.map Char.toUpper)
    (List.range signalCount).find? fun n => least ≤ n && signalLabel n == upper

/-- Says what is run when a signal comes, or when the script ends. -/
def setTrap : Builtin := fun args => do
  let (_, args) ← takePlain "" args
  match args with
  | [] =>
    let traps := (← get).traps
    (List.range signalCount).forM fun n => do
      if let some action := traps.get? (signalLabel n) then
        say ("trap -- " ++ quoted action ++ " " ++ signalLabel n ++ "\n")
    return 0
  | first :: names =>
    let isCleared := names.isEmpty || (digits? first).any (· < signalCount)
    if isCleared then putAll none (first :: names)
    else putAll (if first == "-" then none else some first) names
where
  putAll (action : Option String) : List String → Action Nat
    | [] => return 0
    | name :: rest => do
      match signalFrom? 0 name with
      | none =>
        onMachine (emit 2 (Raw.toBytes ("trap: " ++ name ++ ": bad trap\n")))
        return 1
      | some n =>
        modify fun session =>
          let others := session.traps.filter (·.1 != signalLabel n)
          { session with
            traps := action.elim others fun action => session.traps.put (signalLabel n) action }
        putAll action rest

/-- Signals that do nothing to a program that does not look for them. -/
def isHarmless (signal : Nat) : Bool :=
  signal == 0 || signal == 17 || signal == 18 || signal == 23 || signal == 28

/-- Sends a signal to the script itself; `handle` runs what is to be run then. -/
def signalSelf (handle : String → Action Unit) (signal : Nat) : Action Unit := do
  match (← get).traps.get? (signalLabel signal) with
  | some action =>
    if signal == 9 then throw (.killed signal)
    else if signal != 0 && !action.isEmpty then handle action
  | none => if !isHarmless signal then throw (.killed signal)

/-- Sends a signal to a target; whether there is such a one. -/
def signalTo (handle : String → Action Unit) (signal : Nat) (target : String) : Action Bool := do
  let session ← get
  match target.toList with
  | '%' :: rest =>
    match session.jobNumber? (String.ofList rest) with
    | some _ => return true
    | none =>
      if rest.isEmpty || rest == ['%'] || rest == ['+'] then refuse "No current job"
      else refuse ("No such job: " ++ target)
  | '-' :: rest =>
    let _ ← count (String.ofList rest)
    return false
  | _ =>
    let n ← count target
    if n == session.ownNumber || n == 0 then
      signalSelf handle signal
      return true
    else return session.jobs.any (·.1 == n)

/-- Shows what signals are called, or one of them; a status that a signal leads to stands for it. -/
def showSignals : List String → Action Nat
  | [] => do
    say ("0\n" ++ String.join (((List.range signalCount).drop 1).map (signalLabel · ++ "\n")))
    return 0
  | arg :: _ => do
    let n ← count arg
    let n := if n > 128 then n - 128 else n
    if 0 < n && n < signalCount then
      say (signalLabel n ++ "\n")
      return 0
    else refuse ("invalid signal number or exit status: " ++ arg)

/-- Sends a signal. -/
def kill (handle : String → Action Unit) : Builtin := fun args => do
  let usage : Action Nat :=
    refuse ("Usage: kill [-s sigspec | -signum | -sigspec] [pid | job]... or\n" ++
      "kill -l [exitstatus]")
  let send (signal : Nat) (targets : List String) : Action Nat := do
    if targets.isEmpty then usage
    else
      targets.foldlM (fun status target => do
        if ← signalTo handle signal target then return status
        complain "No such process\n"
        return 1) 0
  let direct : Option (Nat × List String) :=
    match args with
    | first :: rest =>
      match first.toList with
      | '-' :: name => (signalFrom? 1 (String.ofList name)).map (·, rest)
      | _ => none
    | [] => none
  match direct with
  | some (signal, targets) => send signal targets
  | none =>
    if args.isEmpty then usage
    else
      let (found, targets) ← takeLetters [('l', false), ('s', true)] args
      let signal ← found.foldlM (fun signal (letter, name) => do
        if letter != 's' then return signal
        match signalFrom? 1 name with
        | some n => return some n
        | none => refuse ("invalid signal number or name: " ++ name)) none
      if found.any fun (letter, _) => letter == 'l' then showSignals targets
      else send (signal.getD 15) targets

end InfoFlow.Shell
