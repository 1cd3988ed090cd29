import InfoFlow.Host.Path

namespace InfoFlow

/-- Why an operation on files or programs fails. -/
inductive IoFault where
  | notFound
  | permissionDenied
  | alreadyExists
  | notADirectory
  | isADirectory
  | nameTooLong
  /-- A file that is to be run and is no program. -/
  | badFormat
  | notEmpty
  | tooManyLinks
  /-- Any other fault of the system, by its number. -/
  | system (code : Nat)
  /-- A file that is to be text and is not. -/
  | notText
  /-- A path that holds the character zero. -/
  | zeroInPath
  /-- A program or argument that holds the character zero. -/
  | zeroInArgument
  /-- A directory that has no parent to be made in. -/
  | noParent
deriving DecidableEq, Repr

/-- What other faults of the system are called. -/
def systemFaults : List (Nat × String) := [
  (1, "Operation not permitted"), (4, "Interrupted system call"), (5, "Input/output error"),
  (6, "No such device or address"), (7, "Argument list too long"), (9, "Bad file descriptor"),
  (10, "No child processes"), (11, "Resource temporarily unavailable"),
  (12, "Cannot allocate memory"), (14, "Bad address"), (15, "Block device required"),
  (16, "Device or resource busy"), (18, "Invalid cross-device link"), (19, "No such device"),
  (22, "Invalid argument"), (23, "Too many open files in system"), (24, "Too many open files"),
  (25, "Inappropriate ioctl for device"), (26, "Text file busy"), (27, "File too large"),
  (28, "No space left on device"), (29, "Illegal seek"), (30, "Read-only file system"),
  (31, "Too many links"), (32, "Broken pipe"), (33, "Numerical argument out of domain"),
  (34, "Numerical result out of range"), (35, "Resource deadlock avoided"),
  (37, "No locks available"), (38, "Function not implemented"),
  (75, "Value too large for defined data type"), (95, "Operation not supported"),
  (116, "Stale file handle"), (122, "Disk quota exceeded")]

/-- What a fault is, and the number of it, if it is one of the system. -/
def IoFault.description : IoFault → String × Option Nat
  | .notFound => ("No such file or directory", some 2)
  | .permissionDenied => ("Permission denied", some 13)
  | .alreadyExists => ("File exists", some 17)
  | .notADirectory => ("Not a directory", some 20)
  | .isADirectory => ("Is a directory", some 21)
  | .nameTooLong => ("File name too long", some 36)
  | .badFormat => ("Exec format error", some 8)
  | .notEmpty => ("Directory not empty", some 39)
  | .tooManyLinks => ("Too many levels of symbolic links", some 40)
  | .system code => ((systemFaults.lookup code).getD ("Unknown error " ++ toString code), some code)
  | .notText => ("stream did not contain valid UTF-8", none)
  | .zeroInPath => ("file name contained an unexpected NUL byte", none)
  | .zeroInArgument => ("nul byte found in provided data", none)
  | .noParent => ("failed to create whole tree", none)

/-- The fault of the system with a number. -/
def IoFault.ofCode (code : Nat) : IoFault :=
  ([.notFound, .permissionDenied, .alreadyExists, .notADirectory, .isADirectory,
    .nameTooLong, .badFormat, .notEmpty, .tooManyLinks].find? fun fault =>
      fault.description.2 == some code).getD (.system code)

/-- The sentence that reports a fault. -/
def IoFault.message (fault : IoFault) : String :=
  match fault.description with
  | (text, some code) => text ++ " (os error " ++ toString code ++ ")"
  | (text, none) => text

/-- A program and its arguments. -/
structure Invocation where
  program : String
  args : List String := []
deriving DecidableEq, Repr

/-- How a program ended. -/
inductive ExitStatus where
  | code (n : Nat)
  | signal (n : Nat)
deriving DecidableEq, Repr

/-- The names of the signals that a program can be ended by. -/
def signalName? (n : Nat) : Option String :=
  [(1, "SIGHUP"), (2, "SIGINT"), (3, "SIGQUIT"), (4, "SIGILL"), (5, "SIGTRAP"), (6, "SIGABRT"),
    (7, "SIGBUS"), (8, "SIGFPE"), (9, "SIGKILL"), (10, "SIGUSR1"), (11, "SIGSEGV"),
    (12, "SIGUSR2"), (13, "SIGPIPE"), (14, "SIGALRM"), (15, "SIGTERM"), (16, "SIGSTKFLT"),
    (24, "SIGXCPU"), (25, "SIGXFSZ"), (26, "SIGVTALRM"), (27, "SIGPROF"), (29, "SIGIO"),
    (30, "SIGPWR"), (31, "SIGSYS")].lookup n

namespace ExitStatus

def success : ExitStatus → Bool
  | .code n => n == 0
  | .signal _ => false

def text : ExitStatus → String
  | .code n => "exit status: " ++ toString n
  | .signal n =>
    "signal: " ++ toString n ++ ((signalName? n).map (" (" ++ · ++ ")")).getD ""

end ExitStatus

/-- What is known of a program that ended. -/
structure Finished where
  status : ExitStatus
  stderr : ByteArray

/-- A machine with files and programs: what the tools need of the machine that they run on. All that
    they do there is written once, for any of these. -/
structure Host (m : Type → Type) where
  readFile : String → m (Except IoFault ByteArray)
  /-- Puts a document in place of a file, which need not exist. -/
  writeFile : String → ByteArray → m (Except IoFault Unit)
  /-- Makes one directory. -/
  makeDir : String → m (Except IoFault Unit)
  isDir : String → m Bool
  isFile : String → m Bool
  /-- Runs a program to its end. -/
  run : Invocation → m (Except IoFault Finished)

namespace Host

variable {m : Type → Type} [Monad m]

/-- Reads a file that must be text. -/
def readText (host : Host m) (path : String) : m (Except IoFault String) := do
  match ← host.readFile path with
  | .error fault => return .error fault
  | .ok document =>
    match String.fromUTF8? document with
    | some text => return .ok text
    | none => return .error .notText

/-- Makes a directory and those above it, as far as they are missing. Each step up takes a shorter
    path, so the length of the path bounds the steps. -/
def makeDirsUpTo (host : Host m) : Nat → String → m (Except IoFault Unit)
  | 0, _ => return .error .noParent
  | fuel + 1, path => do
    if path.isEmpty then return .ok ()
    match ← host.makeDir path with
    | .ok () => return .ok ()
    | .error .notFound =>
      match Path.parent? path with
      | none => return .error .noParent
      | some parent =>
        match ← makeDirsUpTo host fuel parent with
        | .error fault => return .error fault
        | .ok () =>
          match ← host.makeDir path with
          | .ok () => return .ok ()
          | .error fault => if ← host.isDir path then return .ok () else return .error fault
    | .error fault => if ← host.isDir path then return .ok () else return .error fault

/-- Makes a directory and those above it, as far as they are missing. -/
def makeDirs (host : Host m) (path : String) : m (Except IoFault Unit) :=
  makeDirsUpTo host (path.length + 1) path

end Host

end InfoFlow
