import InfoFlow.Proofs.Manifest.WellFormed

namespace InfoFlow.Manifest

variable {m : Manifest} {program : Program}

/-- The path below a valid root to a leaf of a declared schema is valid. -/
theorem WellFormed.valid_leaf (h : m.WellFormed) {schema : String} (hschema : m.Declares schema)
    {root : Root} (hroot : root.Valid) {chain : Chain} (hleaf : m.Leaf schema chain) :
    (AccessPath.mk root chain).Valid := by
  have hcatalog := catalog_eq_ok_iff.mpr ⟨h.named, h.distinct, h.resolved, rfl⟩
  exact AccessPath.valid_iff.mpr ⟨hroot, valid_of_leaf hcatalog hschema hleaf⟩

theorem valid_of_program_eq_ok (hprogram : m.program = .ok program) : program.Valid := by
  obtain ⟨hexpands, hcollision⟩ := program_eq_ok_iff.mp hprogram
  have h := WellFormed.of_expands hexpands hcollision
  refine ⟨fun claim hclaim => ?_, fun o ho => ?_, fun edge hedge => ?_, fun c hc => ?_⟩
  · rw [hexpands.claims] at hclaim
    exact TagClaim.check_eq_ok_iff.mpr (h.claims claim hclaim)
  · obtain ⟨handle, hhandle, chain, hleaf, rfl⟩ := hexpands.mem_ownership_iff.mp ho
    obtain ⟨howner, hroot, hschema⟩ := h.handles handle hhandle
    exact Ownership.check_eq_ok_iff.mpr ⟨howner, h.valid_leaf hschema hroot hleaf⟩
  · obtain ⟨flow, hflow, chain, hleaf, rfl⟩ | hedge := hexpands.mem_edges_iff.mp hedge
    · obtain ⟨hsource, htarget, hschema⟩ := h.flows flow hflow
      exact Edge.check_eq_ok_iff.mpr
        ⟨h.valid_leaf hschema hsource hleaf, h.valid_leaf hschema htarget hleaf⟩
    · exact Edge.check_eq_ok_iff.mpr (h.edges edge hedge)
  · obtain ⟨decl, hdecl, predicate, hget, hc⟩ := hexpands.mem_checks_iff.mp hc
    obtain ⟨hpath, _, hinstances⟩ := h.checks decl hdecl
    have hpredicate := Predicate.check_eq_ok_iff.mpr
      (h.predicates _ (Entries.mem_of_get?_eq_some hget))
    obtain rfl | ⟨root, hroot, rfl⟩ := hc
    · exact TagCheck.check_eq_ok_iff.mpr ⟨hpath, hpredicate⟩
    · -- An instance has a root that was checked, and otherwise what the check has.
      have hvalid := (hinstances (List.ne_nil_of_mem hroot)).2 root hroot
      have hinstance : ({ decl.path with root } : AccessPath).Valid :=
        AccessPath.valid_iff.mpr ⟨hvalid, (AccessPath.valid_iff.mp hpath).2⟩
      exact TagCheck.check_eq_ok_iff.mpr ⟨hinstance, hpredicate⟩

theorem includes_of_program_eq_ok (h : m.program = .ok program) :
    program.includes = m.includes :=
  (program_eq_ok_iff.mp h).1.includes

end InfoFlow.Manifest
