import InfoFlow.AccessPath.Json
import InfoFlow.Fact.Basic

namespace InfoFlow

open Json (Field Form Refusal Source Spot Value)

/-- An access path before any part of it is read. -/
def AccessPath.blank : AccessPath :=
  AccessPath.form.blank

namespace Edge

def toJson (edge : Edge) : Value :=
  .object [("source", edge.source.toJson), ("target", edge.target.toJson)]

def form : Form Spot Edge where
  blank := ⟨.blank, .blank⟩
  fields := [
    .needed "source" AccessPath.read fun source edge => { edge with source },
    .needed "target" AccessPath.read fun target edge => { edge with target }]

def read : Spot → Except Refusal Edge :=
  Source.record form

end Edge

namespace TagClaim

def toJson (claim : TagClaim) : Value :=
  .object [("claiming_particle", .text claim.particle), ("access_path", claim.path.toJson),
    ("tag", .text claim.tag)]

def form : Form Spot TagClaim where
  blank := ⟨"", .blank, ""⟩
  fields := [
    .needed "claiming_particle" Source.string fun particle claim => { claim with particle },
    .needed "access_path" AccessPath.read fun path claim => { claim with path },
    .needed "tag" Source.string fun tag claim => { claim with tag }]

def read : Spot → Except Refusal TagClaim :=
  Source.record form

end TagClaim

namespace Ownership

def toJson (ownership : Ownership) : Value :=
  .object [("owner", .text ownership.owner), ("access_path", ownership.path.toJson)]

def form : Form Spot Ownership where
  blank := ⟨"", .blank⟩
  fields := [
    .needed "owner" Source.string fun owner ownership => { ownership with owner },
    .needed "access_path" AccessPath.read fun path ownership => { ownership with path }]

def read : Spot → Except Refusal Ownership :=
  Source.record form

end Ownership

end InfoFlow
