import Mathlib.Data.String.Basic
import InfoFlow.Config.Store
import InfoFlow.Proofs.Json.RoundTrip
import InfoFlow.Proofs.Steps

namespace InfoFlow

open Json (Gives Spot Value nestingLimit)

theorem fromUTF8?_toUTF8 (text : String) : String.fromUTF8? text.toUTF8 = some text :=
  dif_pos text.isValidUTF8

theorem toUTF8_of_fromUTF8?_eq_some {bytes : ByteArray} {text : String}
    (h : String.fromUTF8? bytes = some text) : text.toUTF8 = bytes := by
  unfold String.fromUTF8? at h
  split at h
  · cases h
    rfl
  · cases h

theorem toList_loop_eq (bytes : ByteArray) (i : Nat) (done : List UInt8) :
    ByteArray.toList.loop bytes i done = done.reverse ++ bytes.data.toList.drop i := by
  fun_induction ByteArray.toList.loop bytes i done with
  | case1 i done h ih =>
    have hi : i < bytes.data.toList.length := h
    have hget : bytes.get! i = bytes.data.toList[i] := getElem!_pos bytes.data i h
    rw [ih, List.drop_eq_getElem_cons hi, hget, List.reverse_cons, List.append_assoc]
    rfl
  | case2 i done h =>
    have hi : bytes.data.toList.length ≤ i := Nat.le_of_not_lt h
    rw [List.drop_eq_nil_of_le hi, List.append_nil]

theorem toList_eq_data (bytes : ByteArray) : bytes.toList = bytes.data.toList :=
  toList_loop_eq bytes 0 []

theorem marks_toUTF8 (text : String) : Text.Utf8.marks text.toUTF8 = text.toList.map some := by
  rw [Text.Utf8.marks, Text.Utf8.documentPieces, fromUTF8?_toUTF8]
  rw [List.flatMap_map, List.map_eq_flatMap]

/-- A text is not blank when it begins with something that is no blank. -/
theorem not_blank_of_append (start rest : String)
    (h : start.toUTF8.toList.all Setting.isBlankByte = false) :
    (start ++ rest).toUTF8.toList.all Setting.isBlankByte = false := by
  have hbytes : (start ++ rest).toUTF8.toList = start.toUTF8.toList ++ rest.toUTF8.toList := by
    simp only [toList_eq_data, ← ByteArray.toList_data_append]
    rfl
  rw [hbytes, List.all_append, h, Bool.false_and]

namespace Entries

variable {α : Type}

/-- The names come in ascending order, each of them once. -/
def Ascending (entries : Entries α) : Prop :=
  entries.Pairwise fun first second => compare first.1 second.1 = .lt

theorem put_eq_append {name : String} {value : α} {entries : Entries α}
    (h : ∀ entry ∈ entries, compare entry.1 name = .lt) :
    entries.put name value = entries ++ [(name, value)] := by
  induction entries with
  | nil => rfl
  | cons entry rest ih =>
    obtain ⟨hfirst, hrest⟩ := List.forall_mem_cons.mp h
    rw [put, Std.OrientedCmp.gt_iff_lt.mpr hfirst, ih hrest]
    rfl

/-- Ascending entries are put together again in the order that they are in. -/
theorem Ascending.foldl_put {entries : Entries α} (h : entries.Ascending) :
    entries.foldl (fun done entry => Entries.put entry.1 entry.2 done) [] = entries := by
  have hfold (done : Entries α) (hdone : (done ++ entries).Pairwise fun first second =>
      compare first.1 second.1 = .lt) :
      entries.foldl (fun done entry => Entries.put entry.1 entry.2 done) done =
        done ++ entries := by
    clear h
    induction entries generalizing done with
    | nil => exact (List.append_nil done).symm
    | cons entry rest ih =>
      obtain ⟨_, _, hlt⟩ := List.pairwise_append.mp hdone
      have hput : done.put entry.1 entry.2 = done ++ [entry] :=
        put_eq_append fun other hother => hlt other hother entry List.mem_cons_self
      rw [List.foldl_cons, hput, ih _ (by simpa using hdone), List.append_assoc]
      rfl
  exact hfold [] h

end Entries

namespace Json.Value

theorem exists_bracketed_eq (depth : Nat) (opening closing : String) (parts : List String) :
    ∃ rest, bracketed depth opening closing parts = opening ++ rest := by
  unfold bracketed
  split
  · exact ⟨closing, rfl⟩
  · simp only [String.append_assoc]
    exact ⟨_, rfl⟩

/-- Every value begins with a character that is no blank. -/
theorem exists_pretty_eq (value : Value) (h : value.Numberless) :
    ∃ start ∈ ["n", "t", "f", "\"", "[", "\x7b"], ∃ rest, value.pretty = start ++ rest := by
  cases value with
  | null => exact ⟨"n", by simp, "ull", rfl⟩
  | bool b =>
    cases b with
    | false => exact ⟨"f", by simp, "alse", rfl⟩
    | true => exact ⟨"t", by simp, "rue", rfl⟩
  | number numeral => exact h.elim
  | text s =>
    refine ⟨"\"", by simp, String.ofList (s.toList.flatMap escaped ++ ['"']), ?_⟩
    rw [pretty, prettyAt, stringText, List.cons_append, String.ofList_cons]
    rfl
  | array items => exact ⟨"[", by simp, exists_bracketed_eq 0 "[" "]" _⟩
  | object members => exact ⟨"\x7b", by simp, exists_bracketed_eq 0 "\x7b" "\x7d" _⟩

theorem not_blank_pretty (value : Value) (h : value.Numberless) (rest : String) :
    (value.pretty ++ rest).toUTF8.toList.all Setting.isBlankByte = false := by
  have hblank : ∀ start ∈ ["n", "t", "f", "\"", "[", "\x7b"],
      start.toUTF8.data.toList.all Setting.isBlankByte = false := by decide
  obtain ⟨start, hstart, inner, hinner⟩ := value.exists_pretty_eq h
  rw [hinner, String.append_assoc]
  exact not_blank_of_append start _ (toList_eq_data _ ▸ hblank start hstart)

theorem nesting_texts (list : List String) : (texts list).nesting = 1 := by
  rw [texts, nesting]
  induction list with
  | nil => rfl
  | cons s rest ih => simpa [itemsNesting, nesting] using ih

theorem nesting_table (entries : List (String × String)) :
    (object (entries.map fun entry => (entry.1, text entry.2))).nesting = 1 := by
  rw [nesting]
  induction entries with
  | nil => rfl
  | cons entry rest ih => simpa [membersNesting, nesting] using ih

end Json.Value

namespace Setting

variable {α : Type} {setting : Setting α} {value : α}

theorem document_eq_ok_iff {document : ByteArray} : setting.document value = .ok document ↔
    ∃ json, setting.toJson value = .ok json ∧ (json.pretty ++ "\n").toUTF8 = document := by
  rw [Setting.document, bind_eq_ok_iff]
  simp [pure, Except.pure]

/-- The document of a value, if it has one, is read back as the value. -/
def Keeps (setting : Setting α) (value : α) : Prop :=
  ∀ document, setting.document value = .ok document → setting.ofDocument document = .ok (some value)

theorem keeps_of_gives (h : ∀ json, setting.toJson value = .ok json → json.Numberless ∧
    json.nesting < nestingLimit ∧ Gives setting.read json value) : setting.Keeps value := by
  intro document hdocument
  obtain ⟨json, hjson, rfl⟩ := document_eq_ok_iff.mp hdocument
  obtain ⟨hnumberless, hnesting, hgives⟩ := h json hjson
  have hend : Json.Lexes "\n" [] := Json.Lexes.blanks ['\n'] (by simp [Json.isBlank])
  have hlexes : Json.Lexes (json.pretty ++ "\n") json.tokens := by
    simpa [Value.pretty] using (json.lexes_prettyAt 0 hnumberless).append hend
  have hread : Json.readMarks setting.read (Text.Utf8.marks (json.pretty ++ "\n").toUTF8) =
      .ok value := by
    rw [marks_toUTF8]
    exact hgives.readText_eq hlexes hnesting
  rw [ofDocument, json.not_blank_pretty hnumberless, hread]
  rfl

theorem keeps_strings (list : List String) : strings.Keeps list := by
  refine keeps_of_gives fun json hjson => ?_
  cases hjson
  refine ⟨by simp, ?_, gives_texts list⟩
  rw [Value.nesting_texts]
  decide

/-- Names in ascending order are what a table has, so none of them is overwritten when the table is
    read. -/
theorem keeps_table {entries : Entries String} (h : entries.Ascending) : table.Keeps entries := by
  refine keeps_of_gives fun json hjson => ?_
  cases hjson
  have hentries : Gives (Spot.readTable Spot.readString)
      (.object (entries.map fun entry => (entry.1, .text entry.2))) entries :=
    Spot.gives_table <| List.forall₂_map_left_iff.mpr <| List.forall₂_same.mpr fun entry _ =>
      ⟨rfl, Json.LawfulSource.string entry.2⟩
  refine ⟨?_, ?_, ?_⟩
  · rw [Value.numberless_object, List.forall_mem_map]
    exact fun _ _ => trivial
  · rw [Value.nesting_table]
    decide
  · have hfold := hentries.map fun list =>
      list.foldl (fun table entry => Entries.put entry.1 entry.2 table) []
    rw [h.foldl_put] at hfold
    exact hfold

end Setting

namespace HostToolchain

theorem pathText_eq_ok_iff {path : ByteArray} {text : String} :
    pathText path = .ok text ↔ text.toUTF8 = path := by
  unfold pathText
  constructor
  · intro h
    split at h
    · cases h
      exact toUTF8_of_fromUTF8?_eq_some ‹_›
    · cases h
  · rintro rfl
    rw [fromUTF8?_toUTF8]

/-- Settings that can be written are those with paths of text. -/
theorem onHost_of_texts_eq_ok {toolchain : HostToolchain} {text : Toolchain}
    (h : toolchain.texts = .ok text) : text.onHost = toolchain := by
  obtain ⟨compiler, hcompiler, h⟩ := bind_eq_ok_iff.mp h
  obtain ⟨includes, hincludes, h⟩ := bind_eq_ok_iff.mp h
  cases h
  have hpaths : includes.map String.toUTF8 = toolchain.includes := by
    rw [← List.forall₂_eq_eq_eq, List.forall₂_map_left_iff]
    exact ((forall₂_of_mapM_eq_ok hincludes).imp fun _ _ => pathText_eq_ok_iff.mp).flip
  simp only [Toolchain.onHost, pathText_eq_ok_iff.mp hcompiler, hpaths]

end HostToolchain

namespace Setting

theorem nesting_toolchain (toolchain : Toolchain) : toolchain.toJson.nesting < nestingLimit := by
  simp [Toolchain.toJson, Value.nesting, Value.membersNesting, Value.nesting_texts, nestingLimit]

theorem keeps_toolchain (text : Toolchain) : toolchain.Keeps text := by
  refine keeps_of_gives fun json hjson => ?_
  cases hjson
  exact ⟨text.numberless, nesting_toolchain text, text.gives⟩

theorem keeps_hostToolchain (value : HostToolchain) : hostToolchain.Keeps value := by
  refine keeps_of_gives fun json hjson => ?_
  obtain ⟨text, htext, hjson⟩ := bind_eq_ok_iff.mp hjson
  cases hjson
  refine ⟨text.numberless, nesting_toolchain text, ?_⟩
  rw [← HostToolchain.onHost_of_texts_eq_ok htext]
  exact text.gives.map Toolchain.onHost

/-- Settings with any paths are written as the settings with these paths as text. -/
theorem exists_document_toolchain {value : HostToolchain} {document : ByteArray}
    (h : hostToolchain.document value = .ok document) :
    ∃ text : Toolchain, text.onHost = value ∧ toolchain.document text = .ok document := by
  obtain ⟨json, hjson, hdocument⟩ := document_eq_ok_iff.mp h
  obtain ⟨text, htext, hjson⟩ := bind_eq_ok_iff.mp hjson
  cases hjson
  exact ⟨text, HostToolchain.onHost_of_texts_eq_ok htext,
    document_eq_ok_iff.mpr ⟨_, rfl, hdocument⟩⟩

end Setting

end InfoFlow
