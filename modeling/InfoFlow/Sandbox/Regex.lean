import InfoFlow.Sandbox.CharSet

namespace InfoFlow.Sandbox

/-- Regular expressions. Of the matches of one the match that begins first counts, and of those the
    longest one. -/
inductive Regex where
  | empty
  | one (set : CharSet)
  | sequence (first second : Regex)
  | choice (first second : Regex)
  /-- Some repetitions, at least as many as the first number and at most as many as the second. -/
  | repeated (item : Regex) (low : Nat) (high : Option Nat)
  | group (number : Nat) (item : Regex)
  /-- What a group has matched. -/
  | again (number : Nat)
  | lineStart
  | lineEnd
  | wordStart
  | wordEnd
  /-- Where a word starts or ends, or where none does. -/
  | wordEdge (isEdge : Bool)
deriving Repr

namespace Regex

/-- Whether an expression refers to its groups. -/
def refers : Regex → Bool
  | .sequence a b | .choice a b => a.refers || b.refers
  | .repeated item _ _ | .group _ item => item.refers
  | .again _ => true
  | _ => false

/-- The number of groups. -/
def groupCount : Regex → Nat
  | .sequence a b | .choice a b => a.groupCount + b.groupCount
  | .repeated item _ _ => item.groupCount
  | .group _ item => item.groupCount + 1
  | _ => 0

/-- A text that is searched. -/
structure Subject where
  text : Array Char
  isCaseless : Bool := false
  /-- Whether the text starts where the subject does. -/
  startsLine : Bool := true
  /-- Whether anchors also match beside the line ends inside. -/
  hasLines : Bool := false

namespace Subject

def ofText (text : List Char) (isCaseless : Bool := false) : Subject :=
  { text := text.toArray, isCaseless }

def isWordAt (subject : Subject) (position : Nat) : Bool :=
  (subject.text[position]?).any CharSet.word.has

def isWordBefore (subject : Subject) : Nat → Bool
  | 0 => false
  | position + 1 => subject.isWordAt position

def hasAt (subject : Subject) (set : CharSet) (position : Nat) : Bool :=
  match subject.text[position]? with
  | none => false
  | some c =>
    if !subject.isCaseless then set.has c
    else if set.isNegated then set.has c.toLower && set.has c.toUpper
    else set.has c.toLower || set.has c.toUpper

/-- Whether an expression that passes over nothing matches at a position. -/
def holdsAt (subject : Subject) (position : Nat) : Regex → Bool
  | .lineStart =>
    (position == 0 && subject.startsLine) ||
      (subject.hasLines && position > 0 && subject.text[position - 1]? == some '\n')
  | .lineEnd =>
    position == subject.text.size ||
      (subject.hasLines && subject.text[position]? == some '\n')
  | .wordStart => !subject.isWordBefore position && subject.isWordAt position
  | .wordEnd => subject.isWordBefore position && !subject.isWordAt position
  | .wordEdge isEdge =>
    (subject.isWordBefore position != subject.isWordAt position) == isEdge
  | _ => true

end Subject

/-- Adds the members of a list that are not there yet. -/
def union (known : List Nat) : List Nat → List Nat
  | [] => known
  | n :: rest => if known.contains n then union known rest else union (n :: known) rest

/-- What can be reached by steps from some positions, which count themselves. -/
def closure (step : Nat → List Nat) : Nat → List Nat → List Nat → List Nat
  | 0, known, _ => known
  | fuel + 1, known, frontier =>
    let found := (frontier.foldl (fun found n => union found (step n)) []).filter
      (!known.contains ·)
    if found.isEmpty then known else closure step fuel (found ++ known) found

/-- What can be reached by a number of steps. -/
def afterSteps (step : Nat → List Nat) : Nat → List Nat → List Nat
  | 0, positions => positions
  | n + 1, positions =>
    afterSteps step n (positions.foldl (fun found n => union found (step n)) [])

/-- What can be reached by at most a number of steps. -/
def withinSteps (step : Nat → List Nat) : Nat → List Nat → List Nat → List Nat
  | 0, known, _ => known
  | n + 1, known, frontier =>
    let found := (frontier.foldl (fun found n => union found (step n)) []).filter
      (!known.contains ·)
    if found.isEmpty then known else withinSteps step n (found ++ known) found

/-- Where the matches that begin at a position end. References are taken for empty. -/
def ends (subject : Subject) : Regex → Nat → List Nat
  | .empty, position => [position]
  | .one set, position => if subject.hasAt set position then [position + 1] else []
  | .sequence a b, position =>
    (ends subject a position).foldl (fun found n => union found (ends subject b n)) []
  | .choice a b, position => union (ends subject a position) (ends subject b position)
  | .repeated item low high, position =>
    let least := afterSteps (ends subject item) low [position]
    match high with
    | none => closure (ends subject item) (subject.text.size + 1) least least
    | some high => withinSteps (ends subject item) (high - low) least least
  | .group _ item, position => ends subject item position
  | .again _, position => [position]
  | anchor, position => if subject.holdsAt position anchor then [position] else []

/-- The parts of a text that the groups of a match cover. -/
abbrev Groups := List (Nat × Nat × Nat)

/-- Repeats a matcher as often as possible and goes on. A repetition passes over something, so the
    length of the subject is fuel enough beyond the repetitions that must be. -/
def repeatMatch (item : Nat → Groups → (Nat → Groups → Option Groups) → Option Groups)
    (low : Nat) (high : Option Nat) (next : Nat → Groups → Option Groups) :
    Nat → Nat → Nat → Groups → Option Groups
  | 0, _, _, _ => none
  | fuel + 1, count, position, groups =>
    let more :=
      if high.all (count < ·) then
        item position groups fun position' groups =>
          if position' == position && count ≥ low then none
          else repeatMatch item low high next fuel (count + 1) position' groups
      else none
    match more with
    | some found => some found
    | none => if count ≥ low then next position groups else none

/-- Finds a match that begins at a position and what follows it, as much as possible of it in the
    parts that come first. -/
def follow (subject : Subject) :
    Regex → Nat → Groups → (Nat → Groups → Option Groups) → Option Groups
  | .empty, position, groups, next => next position groups
  | .one set, position, groups, next =>
    if subject.hasAt set position then next (position + 1) groups else none
  | .sequence a b, position, groups, next =>
    follow subject a position groups fun position groups =>
      follow subject b position groups next
  | .choice a b, position, groups, next =>
    match follow subject a position groups next with
    | some found => some found
    | none => follow subject b position groups next
  | .repeated item low high, position, groups, next =>
    repeatMatch (follow subject item) low high next (subject.text.size + low + 2) 0 position groups
  | .group number item, position, groups, next =>
    follow subject item position groups fun last groups =>
      next last ((number, position, last) :: groups.filter (·.1 != number))
  | .again number, position, groups, next =>
    match groups.lookup number with
    | none => none
    | some (first, last) =>
      let found := (List.range (last - first)).all fun n =>
        (subject.text[first + n]?).any fun c =>
          subject.hasAt (.single c) (position + n)
      if found then next (position + (last - first)) groups else none
  | anchor, position, groups, next =>
    if subject.holdsAt position anchor then next position groups else none

/-- The end of the longest match that begins at a position. -/
def longest? (subject : Subject) (regex : Regex) (position : Nat) : Option Nat :=
  match ends subject regex position with
  | [] => none
  | n :: rest => some (rest.foldl max n)

/-- The groups of the longest match that begins at a position; the whole match has the number
    zero. -/
def matchAt? (subject : Subject) (regex : Regex) (position : Nat) : Option Groups :=
  let within (last : Nat) : Option Groups :=
    (follow subject regex position [] fun n groups => if n == last then some groups else none).map
      ((0, position, last) :: ·)
  if regex.refers then
    ((List.range (subject.text.size + 1 - position)).reverse.findSome? fun n =>
      within (position + n))
  else
    match longest? subject regex position with
    | none => none
    | some last =>
      if regex.groupCount == 0 then some [(0, position, last)]
      else some ((within last).getD [(0, position, last)])

/-- The first match that begins at a position or after it. -/
def search (subject : Subject) (regex : Regex) (position : Nat) : Option Groups :=
  (List.range (subject.text.size + 1 - position)).findSome? fun n =>
    matchAt? subject regex (position + n)

/-- Whether an expression matches somewhere in a text. -/
def occurs (subject : Subject) (regex : Regex) : Bool :=
  (search subject regex 0).isSome

/-- What a sign of repetition is where there is nothing to repeat. -/
inductive FrontUse where
  | literal
  | refused
  | skipped
deriving DecidableEq

/-- What an interval is that ends before it begins. -/
inductive ReversedUse where
  | refused
  /-- It holds nothing. -/
  | vacant
  /-- Its three characters stand for themselves. -/
  | spelled
deriving DecidableEq

/-- How expressions are written. -/
structure Style where
  /-- Whether brackets and signs of repetition need no backslash. -/
  isExtended : Bool
  atFront : FrontUse := .literal
  /-- Whether a repetition in braces is refused at the front, and after another repetition any. -/
  isStrict : Bool := false
  /-- Whether braces that hold no numbers stand for themselves. -/
  keepsBraces : Bool := true
  /-- Whether a closing bracket may stand alone for itself. -/
  keepsBracket : Bool := true
  /-- Whether a set that looks like the name of a class is refused. -/
  refusesBareClass : Bool := false
  reversed : ReversedUse := .refused
  /-- Whether there must be something on either side of a bar, and in brackets. -/
  refusesVacant : Bool := false
  /-- Whether `\\d` stands for the digits. -/
  knowsDigits : Bool := false
  /-- Whether a backslash escapes inside square brackets too. -/
  escapesInSets : Bool := false
  /-- The characters that letters after a backslash stand for. -/
  escapes : List (Char × Char) := []

/-- The plainest way: signs need a backslash, and an interval may hold nothing. -/
def Style.plain : Style where
  isExtended := false
  keepsBraces := false
  reversed := .vacant

/-- Why a text is no expression. -/
inductive Flaw where
  | set (flaw : CharSet.Flaw)
  | bareClass
  | badRepetition
  | tooLarge
  | vacant
  | openGroup
  | closedGroup
  | openCount
  | badCount
  | badReference
  | endsInBackslash
deriving DecidableEq, Repr

def Flaw.message : Flaw → String
  | .set .empty => "Invalid regular expression"
  | .set .unclosed => "Unmatched [, [^, [:, [., or [="
  | .set .badClass => "Invalid character class name"
  | .set .badName => "Invalid collation character"
  | .set .badRange => "Invalid range end"
  | .bareClass => "character class syntax is [[:space:]], not [:space:]"
  | .badRepetition => "Invalid preceding regular expression"
  | .vacant => "Invalid preceding regular expression"
  | .tooLarge => "Regular expression too big"
  | .openGroup => "Unmatched ( or \\("
  | .closedGroup => "Unmatched ) or \\)"
  | .openCount => "Unmatched \\\x7b"
  | .badCount => "Invalid content of \\\x7b\\\x7d"
  | .badReference => "Invalid back reference"
  | .endsInBackslash => "Trailing backslash"

/-- A part of the text of an expression. -/
inductive Sign where
  | item (regex : Regex)
  | repetition (low : Nat) (high : Option Nat)
  /-- A sign of repetition that repeats nothing, and has no meaning. -/
  | idle (text : String)
  | bar
  | groupStart
  | groupEnd

/-- The largest number of a repetition. -/
def maxCount : Nat := 32767

/-- What ends a number of a repetition. -/
inductive CountEnd where
  | comma
  | brace
  | nothing
deriving DecidableEq

/-- A number of a repetition: nothing if there are no digits, and nothing at all if there is
    something else. What ends it and what follows are told too. -/
def countAt (style : Style) (known : Option (Option Nat)) :
    List Char → Option (Option Nat) × CountEnd × List Char
  | [] => (none, .nothing, [])
  | ',' :: rest => (known, .comma, rest)
  | '\\' :: c :: rest =>
    if !style.isExtended && c == '\x7d' then (known, .brace, rest)
    else countAt style none rest
  | c :: rest =>
    if style.isExtended && c == '\x7d' then (known, .brace, rest)
    else if c.isDigit then
      countAt style (known.map fun n => some (n.getD 0 * 10 + (c.toNat - 48))) rest
    else countAt style none rest

/-- The numbers of a repetition after its opening brace, and what follows the closing one. Nothing
    means that the brace stands for itself. -/
def countsOf (style : Style) (text : List Char) :
    Except Flaw (Option (Nat × Option Nat × List Char)) := do
  let unclear (stop : CountEnd) : Except Flaw (Option (Nat × Option Nat × List Char)) :=
    if style.keepsBraces then .ok none
    else .error (if stop == .nothing then .openCount else .badCount)
  let checked (low : Nat) (high : Option Nat) (rest : List Char) :
      Except Flaw (Option (Nat × Option Nat × List Char)) := do
    if high.any (· < low) then throw .badCount
    if high.getD low > maxCount then throw .tooLarge
    return some (low, high, rest)
  match countAt style (some none) text with
  | (none, stop, _) => unclear stop
  | (some none, .brace, _) => throw .badCount
  | (some (some n), .brace, rest) => checked n (some n) rest
  | (some low, _, rest) =>
    match countAt style (some none) rest with
    | (none, stop, _) => unclear stop
    | (some _, .comma, _) => throw .badCount
    | (some high, _, rest) => checked (low.getD 0) high rest

/-- The expression that a letter after a backslash stands for. -/
def escaped (style : Style) (c : Char) : Regex :=
  match c with
  | 'w' => .one .word
  | 'W' => .one CharSet.word.complement
  | 's' => .one .blank
  | 'S' => .one CharSet.blank.complement
  | '<' => .wordStart
  | '>' => .wordEnd
  | 'b' => .wordEdge true
  | 'B' => .wordEdge false
  | '\x60' => .lineStart
  | '\'' => .lineEnd
  | c =>
    if style.knowsDigits && c.toLower == 'd' then .one { isNegated := c == 'D', ranges := [(48, 57)] }
    else if c.isDigit && c != '0' then .again (c.toNat - 48)
    else .one (.single ((style.escapes.lookup c).getD c))

/-- The marks of a text inside brackets, where a backslash may escape. -/
def setMarks (style : Style) : List Char → List CharSet.Mark
  | [] => []
  | '\\' :: c :: rest =>
    if style.escapesInSets then
      ((style.escapes.lookup c).getD c, true) :: setMarks style rest
    else if (c == 'n' || c == 't') && (style.escapes.lookup c).isSome then
      ((style.escapes.lookup c).getD c, true) :: setMarks style rest
    else ('\\', true) :: setMarks style (c :: rest)
  | c :: rest => (c, false) :: setMarks style rest

/-- The number of characters that the marks of a set were made of. -/
def setLength (style : Style) : Nat → List Char → Nat
  | 0, _ | _, [] => 0
  | n + 1, '\\' :: c :: rest =>
    if style.escapesInSets || ((c == 'n' || c == 't') && (style.escapes.lookup c).isSome) then
      2 + setLength style n rest
    else 1 + setLength style n (c :: rest)
  | n + 1, _ :: rest => 1 + setLength style n rest

/-- Whether an expression may end before a text: at its end, a bar or a closing bracket. -/
def mayEnd (style : Style) : List Char → Bool
  | [] => true
  | c :: rest =>
    if style.isExtended then c == '|' || c == ')'
    else c == '\\' && (rest.head? == some '|' || rest.head? == some ')')

/-- The signs of an expression. `isFront` tells whether there is nothing to repeat here, and
    `afterCount` whether a repetition stands before. -/
def signs (style : Style) : Nat → Bool → Bool → List Char → Except Flaw (List Sign)
  | 0, _, _, _ | _, _, _, [] => .ok []
  | fuel + 1, isFront, afterCount, c :: rest => do
    let next (sign : Sign) (isFront : Bool) (rest : List Char) : Except Flaw (List Sign) := do
      return sign :: (← signs style fuel isFront false rest)
    let literal (c : Char) (rest : List Char) : Except Flaw (List Sign) :=
      next (.item (.one (.single c))) false rest
    let anchor (regex : Regex) (rest : List Char) : Except Flaw (List Sign) :=
      next (.item regex) true rest
    let skip (text : String) (rest : List Char) : Except Flaw (List Sign) := do
      match rest with
      | ')' :: rest =>
        return .idle text :: .item (.one (.single ')')) :: (← signs style fuel false false rest)
      | rest => next (.idle text) true rest
    let repetition (c : Char) (low : Nat) (high : Option Nat) (rest : List Char) :
        Except Flaw (List Sign) := do
      if isFront then
        match style.atFront with
        | .literal => literal c rest
        | .refused => throw .badRepetition
        | .skipped => skip (String.singleton c) rest
      else if style.isStrict && afterCount && c == '*' then throw .badRepetition
      else return .repetition low high :: (← signs style fuel false true rest)
    let braces (rest : List Char) : Except Flaw (List Sign) := do
      if isFront && style.isStrict || isFront && style.atFront == .refused ||
          style.isStrict && afterCount then throw .badRepetition
      if isFront && style.atFront == .literal then literal '\x7b' rest
      else
        match ← countsOf style rest with
        | some (low, high, rest) =>
          if isFront then skip "\x7b...\x7d" rest
          else return .repetition low high :: (← signs style fuel false true rest)
        | none => literal '\x7b' rest
    match c with
    | '[' =>
      let marks := setMarks style rest
      match CharSet.ofBrackets ['^'] marks with
      | .error flaw => throw (.set flaw)
      | .ok (set, after) =>
        if style.refusesBareClass && CharSet.looksLikeClass marks then throw .bareClass
        if style.reversed == .refused && set.hasReversed then throw (.set .badRange)
        let set := if style.reversed == .spelled then set.spelled else set
        let used := marks.length - after.length
        next (.item (.one set)) false (rest.drop (setLength style used rest))
    | '.' => next (.item (.one { isNegated := true })) false rest
    | '*' => repetition '*' 0 none rest
    | '^' => if style.isExtended || isFront then anchor .lineStart rest else literal '^' rest
    | '$' =>
      if style.isExtended || mayEnd style rest then anchor .lineEnd rest else literal '$' rest
    | '\\' =>
      match rest with
      | [] => throw .endsInBackslash
      | c :: rest =>
        let plain : Except Flaw (List Sign) :=
          let regex := escaped style c
          match regex with
          | .one _ | .again _ => next (.item regex) false rest
          | anchor => next (.item anchor) true rest
        if !style.isExtended then
          match c with
          | '(' => next .groupStart true rest
          | ')' => next .groupEnd false rest
          | '|' => next .bar true rest
          | '\x7b' => braces rest
          | '+' => if isFront then literal '+' rest else repetition '+' 1 none rest
          | '?' => if isFront then literal '?' rest else repetition '?' 0 (some 1) rest
          | _ => plain
        else plain
    | c =>
      if style.isExtended then
        match c with
        | '(' => next .groupStart true rest
        | ')' => next .groupEnd false rest
        | '|' => next .bar true rest
        | '+' => repetition '+' 1 none rest
        | '?' => repetition '?' 0 (some 1) rest
        | '\x7b' => braces rest
        | c => literal c rest
      else literal c rest

/-- The signs of repetition in a text that repeat nothing. -/
def idleSigns (style : Style) (text : List Char) : List String :=
  match signs style (text.length + 1) true false text with
  | .error _ => []
  | .ok signs => signs.filterMap fun
    | .idle text => some text
    | _ => none

/-- An expression that is being put together, inside of the groups around it. -/
structure Draft where
  /-- The number of the group. -/
  number : Nat
  /-- What stands before the last bar. -/
  before : Option Regex := none
  /-- What follows it, the last item apart. -/
  front : Option Regex := none
  last : Option Regex := none

namespace Draft

def join (first second : Option Regex) : Option Regex :=
  match first, second with
  | some a, some b => some (.sequence a b)
  | some a, none | none, some a => some a
  | none, none => none

/-- The expression after the last bar. -/
def line (draft : Draft) : Regex :=
  (join draft.front draft.last).getD .empty

/-- The whole expression. -/
def whole (draft : Draft) : Regex :=
  match draft.before with
  | none => draft.line
  | some before => .choice before draft.line

/-- Whether there is nothing after the last bar. -/
def isVacant (draft : Draft) : Bool :=
  draft.front.isNone && draft.last.isNone

def push (draft : Draft) (item : Regex) : Draft :=
  { draft with front := join draft.front draft.last, last := some item }

end Draft

/-- Puts an expression together from its signs, with the drafts of the groups that are open and the
    number of groups. -/
def assemble (style : Style) (count : Nat) (draft : Draft) :
    List Draft → List Sign → Except Flaw Regex
  | [], [] =>
    if style.refusesVacant && draft.before.isSome && draft.isVacant then .error .vacant
    else .ok draft.whole
  | _ :: _, [] => .error .openGroup
  | outer, .item (.again n) :: rest =>
    if n ≤ count then assemble style count (draft.push (.again n)) outer rest
    else .error .badReference
  | outer, .item regex :: rest => assemble style count (draft.push regex) outer rest
  | outer, .repetition low high :: rest =>
    assemble style count
      { draft with last := draft.last.map (.repeated · low high) } outer rest
  | outer, .idle _ :: rest => assemble style count draft outer rest
  | outer, .bar :: rest =>
    if style.refusesVacant && draft.isVacant then .error .vacant
    else assemble style count { number := draft.number, before := some draft.whole } outer rest
  | outer, .groupStart :: rest =>
    assemble style (count + 1) { number := count + 1 } (draft :: outer) rest
  | above :: outer, .groupEnd :: rest =>
    if style.refusesVacant && draft.isVacant then .error .vacant
    else assemble style count (above.push (.group draft.number draft.whole)) outer rest
  | [], .groupEnd :: rest =>
    if style.isExtended && style.keepsBracket then
      assemble style count (draft.push (.one (.single ')'))) [] rest
    else .error .closedGroup

/-- The expression that a text writes. -/
def ofText (style : Style) (text : List Char) : Except Flaw Regex := do
  assemble style 0 { number := 0 } [] (← signs style text.length true false text)

end Regex

end InfoFlow.Sandbox
