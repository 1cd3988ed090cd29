import InfoFlow.Fact.Json
import InfoFlow.Manifest.Basic
import InfoFlow.Predicate.Json
import InfoFlow.Schema.Json

namespace InfoFlow

open Json (Field Form Refusal Source Spot)

namespace Handle

def form : Form Spot Handle where
  blank := ⟨"", AccessPath.blank.root, ""⟩
  fields := [
    .needed "owner" Source.string fun owner handle => { handle with owner },
    .needed "root" Root.read fun root handle => { handle with root },
    .needed "schema" Source.string fun schema handle => { handle with schema }]
  closed := true

def read : Spot → Except Refusal Handle :=
  Source.record form

end Handle

namespace Flow

def form : Form Spot Flow where
  blank := ⟨AccessPath.blank.root, AccessPath.blank.root, ""⟩
  fields := [
    .needed "from" Root.read fun source flow => { flow with source },
    .needed "to" Root.read fun target flow => { flow with target },
    .needed "schema" Source.string fun schema flow => { flow with schema }]
  closed := true

def read : Spot → Except Refusal Flow :=
  Source.record form

end Flow

namespace CheckDecl

def form : Form Spot CheckDecl where
  blank := { path := .blank, predicate := "" }
  fields := [
    .needed "access_path" AccessPath.read fun path check => { check with path },
    .needed "predicate" Source.string fun predicate check => { check with predicate },
    .extra "instantiate_as" (Source.list Root.read)
      fun instances check => { check with instances }]
  closed := true

def read : Spot → Except Refusal CheckDecl :=
  Source.record form

end CheckDecl

namespace ModuleDecl

def form : Form Spot ModuleDecl where
  blank := ⟨"", "", ""⟩
  fields := [
    .needed "module" Source.string fun name decl => { decl with name },
    .needed "input_dir" Source.string fun inputDir decl => { decl with inputDir },
    .needed "output_dir" Source.string fun outputDir decl => { decl with outputDir }]
  closed := true

def read : Spot → Except Refusal ModuleDecl :=
  Source.record form

end ModuleDecl

namespace Manifest

/-- A table of predicates. Of several predicates under one name the last one counts. -/
def readPredicates (spot : Spot) : Except Refusal (Entries Predicate) := do
  return (← Spot.readTable Predicate.read spot).foldl
    (fun table (name, predicate) => table.put name predicate) []

def form : Form Spot Manifest where
  blank := {}
  fields := [
    .extra "schemas" (Source.list SchemaDecl.read) fun schemas m => { m with schemas },
    .extra "predicates" readPredicates fun predicates m => { m with predicates },
    .extra "handles" (Source.list Handle.read) fun handles m => { m with handles },
    .extra "flows" (Source.list Flow.read) fun flows m => { m with flows },
    .extra "edges" (Source.list Edge.read) fun edges m => { m with edges },
    .extra "claims" (Source.list TagClaim.read) fun claims m => { m with claims },
    .extra "checks" (Source.list CheckDecl.read) fun checks m => { m with checks },
    .extra "includes" (Source.list Source.string) fun includes m => { m with includes },
    .extra "authorization_logic" (Source.optional ModuleDecl.read)
      fun authorizationLogic m => { m with authorizationLogic }]
  closed := true

def read : Spot → Except Refusal Manifest :=
  Source.record form

/-- Reads the text of a manifest. -/
def ofText (text : String) : Except Refusal Manifest :=
  Json.readText read text

end Manifest

end InfoFlow
