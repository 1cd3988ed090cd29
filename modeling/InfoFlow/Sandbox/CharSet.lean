namespace InfoFlow.Sandbox

/-- A set of characters, as closed intervals of codes or what lies outside of them. -/
structure CharSet where
  isNegated : Bool := false
  ranges : List (Nat × Nat) := []
deriving Repr

namespace CharSet

def has (set : CharSet) (c : Char) : Bool :=
  (set.ranges.any fun (low, high) => low ≤ c.toNat && c.toNat ≤ high) != set.isNegated

def single (c : Char) : CharSet :=
  { ranges := [(c.toNat, c.toNat)] }

/-- The codes of the characters of a class. -/
def classRanges? (name : String) : Option (List (Nat × Nat)) :=
  [("alpha", [(65, 90), (97, 122)]),
    ("digit", [(48, 57)]),
    ("alnum", [(48, 57), (65, 90), (97, 122)]),
    ("upper", [(65, 90)]),
    ("lower", [(97, 122)]),
    ("space", [(9, 13), (32, 32)]),
    ("blank", [(9, 9), (32, 32)]),
    ("punct", [(33, 47), (58, 64), (91, 96), (123, 126)]),
    ("print", [(32, 126)]),
    ("graph", [(33, 126)]),
    ("cntrl", [(0, 31), (127, 127)]),
    ("xdigit", [(48, 57), (65, 70), (97, 102)])].lookup name

/-- The characters of words. -/
def word : CharSet :=
  { ranges := [(48, 57), (65, 90), (95, 95), (97, 122)] }

def blank : CharSet :=
  { ranges := [(9, 13), (32, 32)] }

/-- Whether an interval ends before it begins, so that nothing lies in it. -/
def hasReversed (set : CharSet) : Bool :=
  set.ranges.any fun (low, high) => high < low

/-- The set in which the text of a reversed interval is three characters. -/
def spelled (set : CharSet) : CharSet :=
  { set with ranges := set.ranges.flatMap fun (low, high) =>
      if high < low then [(low, low), (45, 45), (high, high)] else [(low, high)] }

/-- The same set, or its complement. -/
def complement (set : CharSet) : CharSet :=
  { set with isNegated := !set.isNegated }

/-- The set with both cases of each letter. -/
def caseless (set : CharSet) : CharSet :=
  let shifted := set.ranges.flatMap fun (low, high) =>
    let cut (first last : Nat) := (max low first, min high last)
    let (a, b) := cut 65 90
    let (c, d) := cut 97 122
    (if a ≤ b then [(a + 32, b + 32)] else []) ++ (if c ≤ d then [(c - 32, d - 32)] else [])
  { set with ranges := set.ranges ++ shifted }

/-- A character, and whether it stands for itself. -/
abbrev Mark := Char × Bool

/-- Why a text is no set. -/
inductive Flaw where
  /-- There is nothing after the opening bracket. -/
  | empty
  | unclosed
  | badClass
  /-- A name of several characters that is to stand for one. -/
  | badName
  | badRange
deriving DecidableEq, Repr

/-- Splits a text at a mark and the bracket that closes a named item. -/
def untilMark (mark : Char) : List Mark → Option (List Char × List Mark)
  | [] | [_] => none
  | (c, _) :: (d, q) :: rest =>
    if c == mark && d == ']' && !q then some ([], rest)
    else (untilMark mark ((d, q) :: rest)).map fun (name, rest) => (c :: name, rest)

/-- A single character of a set, which may be written by name, and what follows it. -/
def oneOf (text : List Mark) : Except Flaw (Char × List Mark) :=
  match text with
  | ('[', false) :: ('.', false) :: rest =>
    match untilMark '.' rest with
    | some ([c], rest) => .ok (c, rest)
    | some _ => .error .badName
    | none => .error .unclosed
  | ('[', false) :: (':', false) :: rest =>
    if (untilMark ':' rest).isSome then .error .badRange else .ok ('[', (':', false) :: rest)
  | (c, _) :: rest => .ok (c, rest)
  | [] => .error .unclosed

/-- The intervals up to the closing bracket, which may be the first item only if it stands for
    itself. Each item is at least one character, so the length of the text is fuel enough. -/
def items : Nat → Bool → List Mark → Except Flaw (List (Nat × Nat) × List Mark)
  | 0, _, _ | _, _, [] => .error .unclosed
  | fuel + 1, isFirst, (c, isLiteral) :: rest =>
    let add (found : List (Nat × Nat)) (rest : List Mark) :
        Except Flaw (List (Nat × Nat) × List Mark) := do
      let (more, rest) ← items fuel false rest
      return (found ++ more, rest)
    let isRange (rest : List Mark) : Bool :=
      match rest with
      | ('-', false) :: (d, p) :: _ => d != ']' || p
      | _ => false
    if c == ']' && !isLiteral && !isFirst then .ok ([], rest)
    else
      match (c, isLiteral), rest with
      | ('[', false), (':', false) :: inner =>
        match untilMark ':' inner with
        | some (name, rest) =>
          match classRanges? (String.ofList name) with
          | some found => if isRange rest then .error .badRange else add found rest
          | none => .error .badClass
        | none => add [(c.toNat, c.toNat)] rest
      | ('[', false), ('=', false) :: inner =>
        match untilMark '=' inner with
        | some ([d], rest) =>
          if isRange rest then .error .badRange else add [(d.toNat, d.toNat)] rest
        | some _ => .error .badName
        | none => .error .unclosed
      | _, _ =>
        match oneOf ((c, isLiteral) :: rest) with
        | .error flaw => .error flaw
        | .ok (low, ('-', false) :: (d, p) :: rest) =>
          if d == ']' && !p then add [(low.toNat, low.toNat)] (('-', true) :: (d, p) :: rest)
          else
            match oneOf ((d, p) :: rest) with
            | .error flaw => .error flaw
            | .ok (high, rest) => add [(low.toNat, high.toNat)] rest
        | .ok (low, rest) => add [(low.toNat, low.toNat)] rest

/-- The set after an opening bracket, and what follows it. One of the given characters in front
    takes the complement. -/
def ofBrackets (negations : List Char) (text : List Mark) : Except Flaw (CharSet × List Mark) := do
  let (isNegated, text) :=
    match text with
    | (c, false) :: rest => if negations.contains c then (true, rest) else (false, text)
    | text => (false, text)
  if text.isEmpty then throw .empty
  let (ranges, rest) ← items (text.length + 1) true text
  return (⟨isNegated, ranges⟩, rest)

/-- Whether the text of a set looks like a class that lacks its own brackets: it begins and ends
    with a colon, and there are only single characters between. -/
def looksLikeClass (text : List Mark) : Bool :=
  let text := match text with | ('^', false) :: rest => rest | text => text
  match text with
  | (':', _) :: rest =>
    let inner := rest.takeWhile fun (c, _) => c != ']' && c != '[' && c != '-'
    (rest.drop inner.length).head?.map (·.1) == some ']' && inner.getLast?.map (·.1) == some ':' &&
      inner.any fun (c, _) => c != ':'
  | _ => false

end CharSet

end InfoFlow.Sandbox
