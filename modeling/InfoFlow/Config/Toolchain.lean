import InfoFlow.Json.Reader

namespace InfoFlow

open Json (Choice Field Form Refusal Source Spot Value)

/-- How the module and its directories are given to the compiler. -/
inductive ArgStyle where
  | flags
  | positional
deriving DecidableEq, Repr

namespace ArgStyle

def name : ArgStyle → String
  | .flags => "flags"
  | .positional => "positional"

/-- The style with a name that is known to be one of the two. -/
def ofName (name : String) : ArgStyle :=
  if name = "positional" then .positional else .flags

/-- A style is written as its name, or as an object that holds null under its name. -/
def choice : Choice ArgStyle where
  names := ["flags", "positional"]
  alone name := .ok (ofName name)
  withValue name value := do
    value.readNull
    return ofName name

end ArgStyle

/-- The settings; what is not set has a default. -/
structure Toolchain where
  compiler : String := "authorization-logic"
  leadingArgs : List String := []
  argStyle : ArgStyle := .flags
  includes : List String := []
deriving DecidableEq, Repr

namespace Toolchain

/-- The key of the document that holds the settings. -/
def key : String := "toolchain"

def toJson (toolchain : Toolchain) : Value :=
  .object [("authorization_compiler", .text toolchain.compiler),
    ("compiler_leading_args", .texts toolchain.leadingArgs),
    ("compiler_args", .text toolchain.argStyle.name),
    ("includes", .texts toolchain.includes)]

def form : Form Spot Toolchain where
  blank := {}
  fields := [
    .extra "authorization_compiler" Source.string fun compiler t => { t with compiler },
    .extra "compiler_leading_args" (Source.list Source.string)
      fun leadingArgs t => { t with leadingArgs },
    .extra "compiler_args" (Spot.readChoice ArgStyle.choice) fun argStyle t => { t with argStyle },
    .extra "includes" (Source.list Source.string) fun includes t => { t with includes }]

def read : Spot → Except Refusal Toolchain :=
  Source.record form

end Toolchain

/-- The settings as a caller has them: a path is any sequence of bytes. -/
structure HostToolchain where
  compiler : ByteArray
  leadingArgs : List String
  argStyle : ArgStyle
  includes : List ByteArray

/-- The settings with paths that are not only text but known to be so. -/
def Toolchain.onHost (toolchain : Toolchain) : HostToolchain where
  compiler := toolchain.compiler.toUTF8
  leadingArgs := toolchain.leadingArgs
  argStyle := toolchain.argStyle
  includes := toolchain.includes.map String.toUTF8

instance : Coe Toolchain HostToolchain where
  coe := Toolchain.onHost

namespace HostToolchain

/-- The text of a path. -/
def pathText (path : ByteArray) : Except Refusal String :=
  match String.fromUTF8? path with
  | some text => .ok text
  | none => .error .pathNotText

/-- The settings with all paths as text. -/
def texts (toolchain : HostToolchain) : Except Refusal Toolchain := do
  let compiler ← pathText toolchain.compiler
  let includes ← toolchain.includes.mapM pathText
  return {
    compiler
    leadingArgs := toolchain.leadingArgs
    argStyle := toolchain.argStyle
    includes }

end HostToolchain

end InfoFlow
