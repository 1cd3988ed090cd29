import InfoFlow.Fault

namespace InfoFlow

/-- A condition on tags. -/
inductive Predicate where
  /-- The tag is present. -/
  | tag (name : String)
  | and (left right : Predicate)
  | or (left right : Predicate)
  | not (operand : Predicate)
deriving Repr

namespace Predicate

/-- Tells whether two trees are the same, from left to right. Parts that are shared in memory are
    the same without a look at what is in them, so the time taken is that of the parts that are not
    shared. -/
def same : (p q : Predicate) → { isSame : Bool // isSame = true ↔ p = q }
  | .tag a, .tag b =>
    ⟨decide (a = b), decide_eq_true_iff.trans (.of_eq (tag.injEq a b).symm)⟩
  | .and a b, .and c d =>
    ⟨withPtrEq a c (fun _ => (same a c).1) (same a c).2.mpr &&
        withPtrEq b d (fun _ => (same b d).1) (same b d).2.mpr,
      Bool.and_eq_true_iff.trans <| (and_congr (same a c).2 (same b d).2).trans <|
        .of_eq (and.injEq a b c d).symm⟩
  | .or a b, .or c d =>
    ⟨withPtrEq a c (fun _ => (same a c).1) (same a c).2.mpr &&
        withPtrEq b d (fun _ => (same b d).1) (same b d).2.mpr,
      Bool.and_eq_true_iff.trans <| (and_congr (same a c).2 (same b d).2).trans <|
        .of_eq (or.injEq a b c d).symm⟩
  | .not a, .not b =>
    ⟨withPtrEq a b (fun _ => (same a b).1) (same a b).2.mpr,
      (same a b).2.trans (.of_eq (not.injEq a b).symm)⟩
  | .tag _, .and .. | .tag _, .or .. | .tag _, .not _ =>
    ⟨false, nofun, Predicate.noConfusion⟩
  | .and .., .tag _ | .and .., .or .. | .and .., .not _ =>
    ⟨false, nofun, Predicate.noConfusion⟩
  | .or .., .tag _ | .or .., .and .. | .or .., .not _ =>
    ⟨false, nofun, Predicate.noConfusion⟩
  | .not _, .tag _ | .not _, .and .. | .not _, .or .. =>
    ⟨false, nofun, Predicate.noConfusion⟩

instance : DecidableEq Predicate := fun p q =>
  if h : withPtrEq p q (fun _ => (same p q).1) (same p q).2.mpr = true then
    .isTrue ((same p q).2.mp h)
  else .isFalse fun e => h ((same p q).2.mpr e)

/-- If the first holds, so does the second. -/
def implies (antecedent consequent : Predicate) : Predicate :=
  .or (.not antecedent) consequent

/-- The number of nodes of the tree, leaves included. -/
def nodeCount : Predicate → Nat
  | .tag _ => 1
  | .and left right | .or left right => 1 + left.nodeCount + right.nodeCount
  | .not operand => 1 + operand.nodeCount

/-- Checks the tags from left to right. -/
def check : Predicate → Except Fault Unit
  | .tag name => Identifier.check name
  | .and left right | .or left right => do
    left.check
    right.check
  | .not operand => operand.check

/-- Whether a predicate holds, when `present` says which tags are there. -/
def eval (present : String → Bool) : Predicate → Bool
  | .tag name => present name
  | .and left right => left.eval present && right.eval present
  | .or left right => left.eval present || right.eval present
  | .not operand => !operand.eval present

end Predicate

end InfoFlow
