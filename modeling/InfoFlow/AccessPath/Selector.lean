import InfoFlow.Fault

namespace InfoFlow

/-- One step into a record: the field that is entered. -/
structure Selector where
  field : String
deriving DecidableEq, Repr

/-- Selectors are in the order of their field names, code point by code point. -/
instance : Ord Selector where
  compare a b := compare a.field b.field

instance : Std.TransOrd Selector where
  eq_swap {a b} := (Std.OrientedCmp.eq_swap : compare a.field b.field = _)
  isLE_trans {a b c} (h : (compare a.field b.field).isLE) (k : (compare b.field c.field).isLE) :=
    (Std.TransCmp.isLE_trans h k : (compare a.field c.field).isLE)

instance : Std.LawfulEqOrd Selector where
  eq_of_compare {a b} (h : compare a.field b.field = .eq) := by
    cases a
    cases b
    exact congrArg Selector.mk (Std.LawfulEqCmp.eq_of_compare h)

/-- A chain of selectors, the outermost one first. -/
abbrev Chain := List Selector

namespace Chain

/-- The chain through the named fields. -/
def ofFields (fields : List String) : Chain :=
  fields.map Selector.mk

/-- The names of the fields that a chain goes through. -/
def fields (chain : Chain) : List String :=
  chain.map Selector.field

/-- The field names, joined by dots. -/
def text (chain : Chain) : String :=
  ".".intercalate chain.fields

/-- The chain with one step more at its inner end. -/
def push (chain : Chain) (field : String) : Chain :=
  chain ++ [⟨field⟩]

/-- The chain behind one step more at its outer end. -/
def prepend (field : String) (chain : Chain) : Chain :=
  ⟨field⟩ :: chain

/-- Checks the field names, the outermost one first. -/
def check (chain : Chain) : Except Fault Unit :=
  chain.fields.forM Identifier.check

end Chain

/-- A selector whose field name is a valid identifier. -/
def Selector.ofField? (field : String) : Except Fault Selector := do
  Identifier.check field
  return ⟨field⟩

end InfoFlow
