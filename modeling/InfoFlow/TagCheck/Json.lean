import InfoFlow.Fact.Json
import InfoFlow.Predicate.Json
import InfoFlow.TagCheck.Basic

namespace InfoFlow.TagCheck

open Json (Field Form Refusal Source Spot Value)

def toJson (check : TagCheck) : Value :=
  .object [("access_path", check.path.toJson), ("predicate", check.predicate.toJson)]

def form : Form Spot TagCheck where
  blank := ⟨.blank, .tag ""⟩
  fields := [
    .needed "access_path" AccessPath.read fun path check => { check with path },
    .needed "predicate" Predicate.read fun predicate check => { check with predicate }]

def read : Spot → Except Refusal TagCheck :=
  Source.record form

end InfoFlow.TagCheck
