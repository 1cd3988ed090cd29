import Mathlib.Data.List.DropRight
import InfoFlow.Emission
import InfoFlow.Proofs.Datalog.RoundTrip
import InfoFlow.Proofs.Validity

namespace InfoFlow.Emission

open Datalog (IsName isNameChar)

/-- A namespace that can be part of a name in rule text. -/
def Readable (scope : Option String) : Prop :=
  ∀ name, scope = some name → ∀ c ∈ name.toList, isNameChar c = true

theorem readable_none : Readable none := nofun

/-- Emissions start without names in their namespace. -/
theorem eq_of_start_eq_ok {scope : Option String} {e : Emission} (h : start scope = .ok e) :
    e = { scope } := by
  cases scope with
  | none =>
    cases h
    rfl
  | some name =>
    obtain ⟨_, h⟩ := check_bind_eq_ok_iff.mp h
    cases h
    rfl

theorem qualify_injective (scope : Option String) : Function.Injective (qualify scope) := by
  intro a b h
  cases scope with
  | none => exact h
  | some name => simpa [qualify] using h

theorem qualify_left_injective (name : String) :
    Function.Injective fun scope => qualify scope name := by
  intro s t h
  have hlength : (qualify s name).length = (qualify t name).length := congrArg String.length h
  cases s <;> cases t
  · rfl
  · simp [qualify] at hlength
  · simp [qualify] at hlength
  · simpa [qualify] using h

/-- Numbers are told apart by their digits. -/
theorem toString_injective : Function.Injective fun n : Nat => toString n := by
  intro m n h
  have hdigits : Nat.toDigits 10 m = Nat.toDigits 10 n := by
    simpa only [Nat.toString_eq_ofList_toDigits, String.toList_ofList] using
      congrArg String.toList h
  rw [← @Nat.ofDigitChars_ten_toDigits m, hdigits, Nat.ofDigitChars_ten_toDigits]

theorem numbered_injective (stem : String) :
    Function.Injective fun n : Nat => stem ++ toString n := by
  intro m n h
  have htext := congrArg String.toList h
  rw [String.toList_append, String.toList_append, List.append_cancel_left_eq,
    String.toList_inj] at htext
  exact toString_injective htext

theorem isDigit_of_mem_toString {n : Nat} {c : Char} (hc : c ∈ (toString n).toList) :
    c.isDigit = true := by
  rw [Nat.toString_eq_ofList_toDigits, String.toList_ofList] at hc
  exact Nat.isDigit_of_mem_toDigits (by decide) (by decide) hc

theorem toList_numbered (scope : Option String) (stem : String) (n : Nat) :
    (qualify scope (stem ++ toString n)).toList =
      (qualify scope stem).toList ++ (toString n).toList := by
  cases scope <;> simp [qualify]

/-- What is left of a numbered name without the digits at its end. -/
theorem rdropWhile_numbered {stem : String} {c : Char} (hlast : stem.toList.getLast? = some c)
    (hc : c.isDigit = false) (scope : Option String) (n : Nat) :
    (qualify scope (stem ++ toString n)).toList.rdropWhile (·.isDigit) =
      (qualify scope stem).toList := by
  have hfront : (qualify scope stem).toList.getLast? = some c := by
    have hne : stem.toList ≠ [] := by
      rintro hnil
      simp [hnil] at hlast
    cases scope with
    | none => exact hlast
    | some name =>
      rw [qualify, String.toList_append, List.getLast?_append_of_ne_nil _ hne]
      exact hlast
  have hdigits : ∀ d ∈ (toString n).toList.reverse, d.isDigit = true := fun d hd =>
    isDigit_of_mem_toString (List.mem_reverse.mp hd)
  rw [toList_numbered, List.rdropWhile, List.reverse_append, List.dropWhile_append_of_pos hdigits]
  refine List.rdropWhile_eq_self_iff.mpr fun hne => ?_
  rw [List.getLast?_eq_getLast_of_ne_nil hne] at hfront
  simp [Option.some.inj hfront, hc]

/-- A numbered name tells its namespace and its number, if no digit comes before the number. The
    namespace may itself hold whatever such names are made of. -/
theorem numbered_injective2 {stem : String} {c : Char} (hlast : stem.toList.getLast? = some c)
    (hc : c.isDigit = false) :
    Function.Injective2 fun scope (n : Nat) => qualify scope (stem ++ toString n) := by
  intro s t m n h
  have hstem : qualify s stem = qualify t stem := by
    rw [← String.toList_inj, ← rdropWhile_numbered hlast hc s m, ← rdropWhile_numbered hlast hc t n]
    exact congrArg (fun name => name.toList.rdropWhile (·.isDigit)) h
  obtain rfl := qualify_left_injective stem hstem
  exact ⟨rfl, numbered_injective stem (qualify_injective s h)⟩

/-- Labels from different namespaces or with different numbers are different. -/
theorem label_injective2 : Function.Injective2 label :=
  numbered_injective2 (c := '_') (by simp) (by simp)

theorem label_injective (scope : Option String) : Function.Injective (label scope) :=
  label_injective2.right scope

/-- Helper relations from different namespaces or with different numbers are different. -/
theorem helperName_injective2 : Function.Injective2 helperName :=
  numbered_injective2 (c := 'r') (by simp) (by simp)

theorem helperName_injective (scope : Option String) : Function.Injective (helperName scope) :=
  helperName_injective2.right scope

/-- A helper relation ends in a digit, so no relation with another ending is one. -/
theorem helperName_ne {scope : Option String} {n : Nat} {relation : String} {c : Char}
    (hlast : relation.toList.getLast? = some c) (hc : c.isDigit = false) :
    helperName scope n ≠ relation := by
  rintro rfl
  have hne : (toString n).toList ≠ [] := by simp
  rw [helperName, toList_numbered, List.getLast?_append_of_ne_nil _ hne] at hlast
  have := isDigit_of_mem_toString (List.mem_of_getLast? hlast)
  simp [this] at hc

theorem helperName_ne_check (scope : Option String) (n : Nat) : helperName scope n ≠ "check" :=
  helperName_ne (c := 'k') (by simp) (by simp)

theorem helperName_ne_mustHaveTag (scope : Option String) (n : Nat) :
    helperName scope n ≠ "mustHaveTag" :=
  helperName_ne (c := 'g') (by simp) (by simp)

theorem helperName_ne_ownsAccessPath (scope : Option String) (n : Nat) :
    helperName scope n ≠ "ownsAccessPath" :=
  helperName_ne (c := 'h') (by simp) (by simp)

theorem isName_helperName {scope : Option String} (hscope : Readable scope) (n : Nat) :
    IsName (helperName scope n) := by
  have hdigits : ∀ c ∈ (toString n).toList, isNameChar c = true := by
    intro c hc
    simp [isNameChar, Char.isAlphanum, isDigit_of_mem_toString hc]
  have hstem : ∀ c ∈ "notHelper".toList, isNameChar c = true := by
    simp [isNameChar]
  refine ⟨?_, fun c hc => ?_⟩
  · cases scope <;> simp [helperName, qualify]
  · cases scope with
    | none =>
      rw [helperName, qualify, String.toList_append, List.mem_append] at hc
      exact hc.elim (hstem c) (hdigits c)
    | some name =>
      simp only [helperName, qualify, String.toList_append, List.mem_append] at hc
      obtain (h | h) | h | h := hc
      · exact hscope name rfl c h
      · obtain rfl : c = '_' := by simpa using h
        rfl
      · exact hstem c h
      · exact hdigits c h

theorem ne_quote_label {scope : Option String} (hscope : ∀ name, scope = some name →
    '"' ∉ name.toList) (n : Nat) : '"' ∉ (label scope n).toList := by
  have hdigits : '"' ∉ (toString n).toList := by
    intro h
    have := isDigit_of_mem_toString h
    simp at this
  cases scope with
  | none => simpa [label, qualify] using hdigits
  | some name => simpa [label, qualify, hscope name rfl] using hdigits

theorem Readable.ne_quote {scope : Option String} (hscope : Readable scope) :
    ∀ name, scope = some name → '"' ∉ name.toList := by
  intro name hname hquote
  have := hscope name hname _ hquote
  simp [isNameChar] at this

end InfoFlow.Emission
