import Mathlib.Data.List.Basic
import InfoFlow.Proofs.Manifest.Validity
import InfoFlow.Text.CharClass

namespace InfoFlow

namespace Text

theorem splitLines_cons_of_ne {c : Char} (hc : c ≠ '\n') (held rest : List Char) :
    splitLines held (c :: rest) = splitLines (c :: held) rest := by
  rw [splitLines]
  exact hc

/-- What was held before a line goes in front of it. -/
theorem splitLines_append {line : List Char} (hline : '\n' ∉ line) (held rest : List Char) :
    splitLines held (line ++ rest) = splitLines (line.reverse ++ held) rest := by
  induction line generalizing held with
  | nil => rfl
  | cons c line ih =>
    obtain ⟨hc, hline⟩ : '\n' ≠ c ∧ '\n' ∉ line := by simpa using hline
    rw [List.cons_append, splitLines_cons_of_ne hc.symm, ih hline]
    simp

/-- A line that is ended by a line feed alone is the first of the lines. -/
theorem lines_append_newline {line : String} (hline : '\n' ∉ line.toList)
    (hlast : line.toList.getLast? ≠ some '\r') (rest : String) :
    lines (line ++ "\n" ++ rest) = line :: lines rest := by
  have htext : (line ++ "\n" ++ rest).toList = line.toList ++ '\n' :: rest.toList := by simp
  have hhead : line.toList.reverse.head? ≠ some '\r' := by rwa [List.head?_reverse]
  rw [lines, htext, splitLines_append hline, List.append_nil, splitLines]
  · simp [lines]
  · rintro held heq
    simp [heq] at hhead

/-- Lines do not go over their ends. -/
theorem newline_notMem_of_mem_splitLines {held text line : List Char} (hheld : '\n' ∉ held)
    (h : line ∈ splitLines held text) : '\n' ∉ line := by
  fun_induction splitLines held text with
  | case1 => simp at h
  | case2 =>
    obtain rfl : line = _ := by simpa using h
    simpa using hheld
  | case3 rest held ih | case4 held rest _ ih =>
    obtain rfl | h := List.mem_cons.mp h
    · simpa using hheld
    · exact ih (by simp) h
  | case5 held c rest hc ih => exact ih (by simpa using ⟨Ne.symm hc, hheld⟩) h

theorem newline_notMem_of_mem_lines {text line : String} (h : line ∈ lines text) :
    '\n' ∉ line.toList := by
  obtain ⟨chars, hchars, rfl⟩ := List.mem_map.mp h
  rw [String.toList_ofList]
  exact newline_notMem_of_mem_splitLines (by simp) hchars

/-- The first line of a text is at its front. -/
theorem prefix_of_head?_splitLines {held text line : List Char}
    (h : (splitLines held text).head? = some line) : line <+: held.reverse ++ text := by
  fun_induction splitLines held text with
  | case1 => simp at h
  | case2 | case3 | case4 =>
    obtain rfl : _ = line := by simpa using h
    simp
  | case5 held c rest hc ih => simpa using ih h

end Text

namespace Program

/-- The line that includes a file. -/
def includeLine (file : String) : String :=
  "#include \"" ++ file ++ "\""

/-- A line that includes some file. -/
def isIncludeLine (line : String) : Bool :=
  "#include \"".toList.isPrefixOf line.toList

/-- The lines at the front of a text that include files. -/
def includeLines (text : String) : List String :=
  (Text.lines text).takeWhile isIncludeLine

/-- The program without the files that it includes. -/
def withoutIncludes (program : Program) : Program :=
  { program with includes := [] }

theorem includeLine_injective : Function.Injective includeLine := by
  intro a b h
  simpa [includeLine] using h

theorem isIncludeLine_includeLine (file : String) : isIncludeLine (includeLine file) = true := by
  simp [isIncludeLine, includeLine]

theorem getLast?_includeLine (file : String) : (includeLine file).toList.getLast? = some '"' := by
  rw [includeLine, String.toList_append, List.getLast?_append_of_ne_nil _ (by simp)]
  rfl

theorem newline_mem_includeLine_iff {file : String} :
    '\n' ∈ (includeLine file).toList ↔ '\n' ∈ file.toList := by
  simp [includeLine]

/-- A text in which nothing is included at the front. -/
theorem includeLines_eq_nil {text : String} (h : text.toList.head? ≠ some '#') :
    includeLines text = [] := by
  cases hlines : Text.splitLines [] text.toList with
  | nil => simp [includeLines, Text.lines, hlines]
  | cons line rest =>
    have hprefix : line <+: text.toList := Text.prefix_of_head?_splitLines (by rw [hlines]; rfl)
    have hline : isIncludeLine (String.ofList line) = false := by
      by_contra hline
      obtain ⟨more, hmore⟩ : "#include \"".toList <+: line := by simpa [isIncludeLine] using hline
      obtain ⟨after, hafter⟩ := hprefix
      simp [← hafter, ← hmore] at h
    simp [includeLines, Text.lines, hlines, hline]

/-- Sections start with a comment. -/
theorem head?_titled_ne (title : String) (lines : List String) :
    (titled title lines).toList.head? ≠ some '#' := by
  unfold titled
  split <;> simp

theorem head?_append_ne {s t : String} (hs : s.toList.head? ≠ some '#')
    (ht : t.toList.head? ≠ some '#') : (s ++ t).toList.head? ≠ some '#' := by
  rw [String.toList_append, List.head?_append]
  cases h : s.toList.head? with
  | none => simpa using ht
  | some c => simpa [h] using hs

/-- The files come first in the text of a program. -/
theorem render_eq_includeBlock_append (program : Program) (e : Emission) :
    program.render e = includeBlock program.includes ++ program.withoutIncludes.render e := by
  simp [render, withoutIncludes, includeBlock, String.append_assoc]

/-- The included files come first, each on a line, and a blank line ends them. -/
theorem render_eq_listed (program : Program) (e : Emission) : program.render e =
    String.join (program.includes.map fun file => includeLine file ++ "\n") ++
      (if program.includes = [] then "" else "\n") ++ program.withoutIncludes.render e := by
  rw [render_eq_includeBlock_append, includeBlock]
  cases program.includes with
  | nil => simp
  | cons file files => simp [includeLine, String.append_assoc]

/-- One more file is one more line at the end of the others. -/
theorem render_addInclude (program : Program) (file : String) (e : Emission) :
    (program.addInclude file).render e =
    String.join (program.includes.map fun file => includeLine file ++ "\n") ++
      (includeLine file ++ "\n") ++ "\n" ++ program.withoutIncludes.render e := by
  rw [render_eq_listed, addInclude]
  simp [withoutIncludes, String.append_assoc]

/-- One path can pass for two, whatever these are. -/
theorem includeBlock_two (file other : String) :
    includeBlock [file ++ "\"\n#include \"" ++ other] = includeBlock [file, other] := by
  simp [includeBlock, ← String.toList_inj]

theorem includeLines_render_withoutIncludes (program : Program) (e : Emission) :
    includeLines (program.withoutIncludes.render e) = [] := by
  refine includeLines_eq_nil ?_
  simp only [render, withoutIncludes, includeBlock, List.isEmpty_nil, if_true, String.empty_append]
  exact head?_append_ne (head?_append_ne (head?_append_ne (head?_append_ne (head?_titled_ne _ _)
    (head?_titled_ne _ _)) (head?_titled_ne _ _)) (head?_titled_ne _ _)) (head?_titled_ne _ _)

/-- Paths that stay on their lines give a line each. -/
theorem lines_join_includeLine {files : List String} (h : ∀ file ∈ files, '\n' ∉ file.toList)
    (rest : String) :
    Text.lines (String.join (files.map fun file => includeLine file ++ "\n") ++ rest) =
      files.map includeLine ++ Text.lines rest := by
  induction files with
  | nil => simp
  | cons file files ih =>
    have hline : '\n' ∉ (includeLine file).toList := by
      rw [newline_mem_includeLine_iff]
      exact h file (by simp)
    have hrest := ih fun other hother => h other (by simp [hother])
    rw [List.map_cons, String.join_cons, String.append_assoc,
      Text.lines_append_newline hline (by simp [getLast?_includeLine]), hrest]
    rfl

/-- The lines of a text with included files: theirs, a blank line if there are any, and the lines of
    the text without them. -/
theorem lines_render {program : Program} (h : ∀ file ∈ program.includes, '\n' ∉ file.toList)
    (e : Emission) : Text.lines (program.render e) =
      program.includes.map includeLine ++ (if program.includes = [] then [] else [""]) ++
        Text.lines (program.withoutIncludes.render e) := by
  rw [render_eq_includeBlock_append, includeBlock]
  cases hfiles : program.includes with
  | nil => simp
  | cons file files =>
    have hall := lines_join_includeLine h ("\n" ++ program.withoutIncludes.render e)
    have hblank := @Text.lines_append_newline "" (by simp) (by simp)
      (program.withoutIncludes.render e)
    rw [String.empty_append] at hblank
    rw [hblank, hfiles] at hall
    simpa [includeLine, String.append_assoc] using hall

theorem includeLines_render {program : Program} (h : ∀ file ∈ program.includes, '\n' ∉ file.toList)
    (e : Emission) : includeLines (program.render e) = program.includes.map includeLine := by
  have hall : ∀ line ∈ program.includes.map includeLine, isIncludeLine line = true := by
    simp [isIncludeLine_includeLine]
  have hrest := includeLines_render_withoutIncludes program e
  rw [includeLines, lines_render h, List.append_assoc, List.takeWhile_append_of_pos hall]
  split
  · rw [List.nil_append, ← includeLines, hrest, List.append_nil]
  · simp [isIncludeLine]

/-- The files stand at the front of the text, each on a line of its own, exactly when no path goes
    over the end of its line. -/
theorem includeLines_render_iff (program : Program) (e : Emission) :
    includeLines (program.render e) = program.includes.map includeLine ↔
      ∀ file ∈ program.includes, '\n' ∉ file.toList := by
  refine ⟨fun h file hfile => ?_, fun h => includeLines_render h e⟩
  have hline : includeLine file ∈ includeLines (program.render e) := by
    rw [h]
    exact List.mem_map_of_mem hfile
  rw [← newline_mem_includeLine_iff]
  exact Text.newline_notMem_of_mem_lines (List.takeWhile_subset _ hline)

end Program

namespace Manifest

open Program (includeLine includeLines)

/-- The text of an accepted manifest shows what it includes, and nothing else at that place, exactly
    when no path goes over the end of its line. Then nothing is added to the rest of the text, and
    another such manifest with the same text includes the same files. -/
theorem includeLines_render_iff_newline_notMem {m : Manifest} {p : Program}
    (hp : m.program = .ok p) (e : Emission) :
    (includeLines (p.render e) = m.includes.map includeLine ↔
      ∀ file ∈ m.includes, '\n' ∉ file.toList) ∧
    ((∀ file ∈ m.includes, '\n' ∉ file.toList) →
      Text.lines (p.render e) =
        m.includes.map includeLine ++ (if m.includes = [] then [] else [""]) ++
          Text.lines (p.withoutIncludes.render e) ∧
      ∀ (n : Manifest) (q : Program) (e' : Emission), n.program = .ok q →
        (∀ file ∈ n.includes, '\n' ∉ file.toList) → p.render e = q.render e' →
        m.includes = n.includes) := by
  rw [← includes_of_program_eq_ok hp]
  refine ⟨p.includeLines_render_iff e, fun hlines => ⟨Program.lines_render hlines e, ?_⟩⟩
  intro n q e' hq hother htext
  rw [← includes_of_program_eq_ok hq] at hother ⊢
  have hsame := Program.includeLines_render hlines e
  rw [htext, Program.includeLines_render hother e'] at hsame
  exact (Program.includeLine_injective.list_map hsame).symm

/-- A manifest that only includes files. -/
def including (includes : List String) : Manifest where
  includes := includes

/-- A path may hold quotes, and what looks like a part of a rule. -/
theorem includeLines_render_including_quotes : ∃ p : Program,
    (including ["a\"). edge(\"b", "c"]).program = .ok p ∧
    includeLines (p.render {}) = ["#include \"a\"). edge(\"b\"", "#include \"c\""] := by
  have hp : (including ["a\"). edge(\"b", "c"]).program = .ok _ := rfl
  exact ⟨_, hp, (includeLines_render_iff_newline_notMem hp {}).1.mpr (by decide)⟩

/-- A path with a line feed can stand for two files, so the text does not tell the two manifests
    apart. -/
theorem render_including_newline : ∃ p q : Program,
    (including ["a\"\n#include \"b"]).program = .ok p ∧ (including ["a", "b"]).program = .ok q ∧
    p.render {} = q.render {} ∧ p.includes ≠ q.includes := by
  refine ⟨_, _, rfl, rfl, ?_, by decide⟩
  rw [Program.render_eq_includeBlock_append, Program.render_eq_includeBlock_append]
  exact congrArg (· ++ _) (Program.includeBlock_two "a" "b")

end Manifest

end InfoFlow
