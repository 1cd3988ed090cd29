import InfoFlow.Proofs.Emission.Names
import InfoFlow.Proofs.Predicate.Compiled
import InfoFlow.Proofs.Validity

namespace InfoFlow

open Datalog (Atom IsName Rule isNameChar)

section Readable

variable {scope : Option String} {path : String}

theorem readable_mustHaveTag {tag : String} (hpath : '"' ∉ path.toList) (htag : '"' ∉ tag.toList) :
    (Atom.mustHaveTag path tag).Readable where
  relation := by simp [Atom.mustHaveTag, IsName, isNameChar]
  args_ne_nil := by simp [Atom.mustHaveTag]
  args := by simp [Atom.mustHaveTag, hpath, htag]

theorem readable_owns {who : Datalog.Term} (hwho : ∀ name, who = .text name →
    '"' ∉ name.toList) (hpath : '"' ∉ path.toList) : (Atom.owns who path).Readable where
  relation := by simp [Atom.owns, IsName, isNameChar]
  args_ne_nil := by simp [Atom.owns]
  args := by
    intro value hvalue
    obtain h | h : .text value = who ∨ value = path := by simpa [Atom.owns] using hvalue
    · exact hwho value h.symm
    · exact h ▸ hpath

theorem readable_helper (hscope : Emission.Readable scope) (n : Nat) :
    (Atom.helper (Emission.helperName scope n)).Readable where
  relation := Emission.isName_helperName hscope n
  args_ne_nil := by simp [Atom.helper]
  args := by simp [Atom.helper]

theorem readable_claimHasTag {particle tag : String} (hparticle : '"' ∉ particle.toList)
    (hpath : '"' ∉ path.toList) (htag : '"' ∉ tag.toList) :
    (Atom.claimHasTag particle path tag).Readable where
  relation := by simp [Atom.claimHasTag, IsName, isNameChar]
  args_ne_nil := by simp [Atom.claimHasTag]
  args := by simp [Atom.claimHasTag, hparticle, hpath, htag]

theorem readable_edge {source target : String} (hsource : '"' ∉ source.toList)
    (htarget : '"' ∉ target.toList) : (Atom.edge source target).Readable where
  relation := by simp [Atom.edge, IsName, isNameChar]
  args_ne_nil := by simp [Atom.edge]
  args := by simp [Atom.edge, hsource, htarget]

theorem readable_isCheck {label : String} (hlabel : '"' ∉ label.toList)
    (hpath : '"' ∉ path.toList) : (Atom.isCheck label path).Readable where
  relation := by simp [Atom.isCheck, IsName, isNameChar]
  args_ne_nil := by simp [Atom.isCheck]
  args := by simp [Atom.isCheck, hlabel, hpath]

theorem readable_checkHolds {label : String} (hlabel : '"' ∉ label.toList)
    (hpath : '"' ∉ path.toList) : (Atom.checkHolds label path).Readable where
  relation := by simp [Atom.checkHolds, IsName, isNameChar]
  args_ne_nil := by simp [Atom.checkHolds]
  args := by simp [Atom.checkHolds, hlabel, hpath]

end Readable

namespace Predicate

/-- The body of a predicate with valid tags can be read back. The namespace matters only where the
    predicate takes helpers. -/
theorem readable_bodyFrom {scope : Option String} {path : String} (hpath : '"' ∉ path.toList)
    {p : Predicate} (hp : p.check = .ok ())
    (hscope : p.helperCount ≠ 0 → Emission.Readable scope) (n : Nat) :
    (p.bodyFrom scope path n).Readable := by
  rw [check_eq_ok_iff] at hp
  fun_induction bodyFrom scope path p n with
  | case1 name => exact readable_mustHaveTag hpath (hp name (by simp [tags])).ne_quote
  | case2 left right n ihl ihr | case3 left right n ihl ihr =>
    simp only [tags, List.mem_append] at hp
    simp only [helperCount] at hscope
    exact ⟨ihl (fun tag h => hp tag (.inl h)) fun h => hscope (by omega),
      ihr (fun tag h => hp tag (.inr h)) fun h => hscope (by omega)⟩
  | case4 name => exact readable_mustHaveTag hpath (hp name (by simp [tags])).ne_quote
  | case5 operand n => exact readable_helper (hscope (by simp [helperCount])) n

/-- So can the rules of its helpers. -/
theorem readable_of_mem_rulesFrom {scope : Option String} (hscope : Emission.Readable scope)
    {path : String} (hpath : '"' ∉ path.toList) {p : Predicate} (hp : p.check = .ok ()) {n : Nat}
    {rule : Rule} (hrule : rule ∈ p.rulesFrom scope path n) : rule.Readable := by
  fun_induction rulesFrom scope path p n with
  | case1 => simp at hrule
  | case2 left right n ihl ihr | case3 left right n ihl ihr =>
    simp only [check, check_bind_eq_ok_iff] at hp
    exact (List.mem_append.mp hrule).elim (ihl hp.1) (ihr hp.2)
  | case4 => simp at hrule
  | case5 operand n hoperand ih =>
    have hinner : operand.check = .ok () := by simpa [check] using hp
    obtain h | h := List.mem_append.mp hrule
    · exact ih hinner h
    · obtain rfl : rule = _ := by simpa using h
      exact ⟨readable_helper hscope n, readable_owns (by simp) hpath,
        readable_bodyFrom hpath hinner (fun _ => hscope) _⟩

end Predicate

end InfoFlow
