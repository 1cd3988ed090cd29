import InfoFlow.Compiler
import InfoFlow.Proofs.Host.Tree

namespace InfoFlow.Compiler

open InfoFlow.Path (IsEntry IsExtension)

theorem isExtension_source : IsExtension ".auth" := ⟨by decide, by decide⟩

theorem isExtension_facts : IsExtension ".dl" := ⟨by decide, by decide⟩

/-- A module whose name starts with a slash has its files at one place, whatever directories are
    given. -/
theorem files_of_isAbsolute {name : String} (h : Path.isAbsolute name = true) (directory : String) :
    sourceFile name directory = name ++ ".auth" ∧ factFile name directory = name ++ ".dl" := by
  have hne : name ≠ "" := by
    rintro rfl
    cases h
  constructor
  · rw [sourceFile, Path.join_of_isAbsolute (by rw [Path.isAbsolute_append hne, h])]
  · rw [factFile, Path.join_of_isAbsolute (by rw [Path.isAbsolute_append hne, h])]

/-- The files of a module are entries of the directories that are given, whatever these are, exactly
    when its name holds no slash. They are found in these directories then, on every tree and
    wherever the paths of the directories lead. A name that starts with a slash leaves them
    altogether; with any other slash in the name, neither file is an entry of any directory. -/
theorem files_isEntry_iff (name : String) :
    ((∀ inputDir outputDir, IsEntry inputDir (sourceFile name inputDir) ∧
      IsEntry outputDir (factFile name outputDir)) ↔ '/' ∉ name.toList) ∧
    ('/' ∉ name.toList → ∀ (tree : Tree) (workDir place found : Location) (directory : String)
      (mode : Nat) (node : Node), tree.find workDir directory = .ok (place, .directory mode) →
      (tree.look false workDir (sourceFile name directory) = .ok (found, node) →
        found = place ++ [name ++ ".auth"]) ∧
      (tree.look false workDir (factFile name directory) = .ok (found, node) →
        found = place ++ [name ++ ".dl"])) ∧
    (Path.isAbsolute name = true → ∀ directory, sourceFile name directory = name ++ ".auth" ∧
      factFile name directory = name ++ ".dl") ∧
    ('/' ∈ name.toList → Path.isAbsolute name = false → ∀ directory,
      ¬ IsEntry directory (sourceFile name directory) ∧
      ¬ IsEntry directory (factFile name directory)) := by
  have hbelow : '/' ∈ name.toList → Path.isAbsolute name = false → ∀ directory,
      ¬ IsEntry directory (sourceFile name directory) ∧
      ¬ IsEntry directory (factFile name directory) := fun hslash habsolute _ =>
    ⟨Path.not_isEntry_join isExtension_source hslash habsolute,
      Path.not_isEntry_join isExtension_facts hslash habsolute⟩
  refine ⟨⟨fun h hslash => ?_, fun h _ _ => ⟨Path.isEntry_join isExtension_source h,
    Path.isEntry_join isExtension_facts h⟩⟩, ?_, files_of_isAbsolute, hbelow⟩
  · -- The empty path is a directory that is not absolute.
    obtain ⟨hsource, _⟩ := h "" ""
    cases habsolute : Path.isAbsolute name with
    | false => exact (hbelow hslash habsolute "").1 hsource
    | true =>
      have hfile := hsource.1
      have hne : name ≠ "" := by
        rintro rfl
        cases hslash
      rw [(files_of_isAbsolute habsolute "").1, Path.isAbsolute_append hne, habsolute] at hfile
      cases hfile
  · exact fun hname _ _ _ _ _ _ _ hdirectory =>
      ⟨Tree.place_of_join isExtension_source hname hdirectory,
        Tree.place_of_join isExtension_facts hname hdirectory⟩

/-- Directories with others in them, and a source in the inner one. -/
def nested : Tree where
  nodes := [(["in"], .directory 0o755), (["in", "a"], .directory 0o755),
    (["in", "a", "b.auth"], .file .empty 0o644), (["out"], .directory 0o755),
    (["out", "a"], .directory 0o755)]

/-- A compiler that writes an empty file of facts. -/
def writing (place : Location) : Tree.Programs := fun _ tree =>
  .ok (⟨.code 0, .empty⟩, tree.put place (.file .empty 0o644))

/-- A name with a slash is accepted, and so are files that are no entries of the directories. -/
theorem not_isEntry_files_slash :
    Identifier.Valid "a/b" ∧
    ((compile (Tree.host [] (writing ["out", "a", "b.dl"])) ⟨"authc", [], .flags⟩ "a/b" "in"
      "out").run nested).1 = .ok (factFile "a/b" "out") ∧
    ¬ IsEntry "in" (sourceFile "a/b" "in") ∧ ¬ IsEntry "out" (factFile "a/b" "out") ∧
    Identifier.Valid "/x" ∧ sourceFile "/x" "in" = "/x.auth" ∧ factFile "/x" "out" = "/x.dl" := by
  refine ⟨by decide, rfl, ?_, ?_, by decide, rfl, rfl⟩
  · exact Path.not_isEntry_join isExtension_source (by decide) rfl
  · exact Path.not_isEntry_join isExtension_facts (by decide) rfl

end InfoFlow.Compiler
