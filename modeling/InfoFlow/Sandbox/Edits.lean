import InfoFlow.Sandbox.Raw

namespace InfoFlow.Sandbox

/-- A run of changes: which lines are taken away, and which are put in their place. Lines are
    counted from zero, and each run stands as late as it can. -/
structure Hunk where
  oldStart : Nat
  oldCount : Nat
  newStart : Nat
  newCount : Nat
deriving DecidableEq, Repr

namespace Edits

/-- For each line of either list whether it is changed. -/
structure Marks where
  old : Array Bool
  new : Array Bool

/-- A part of two lists: from where to where it goes in each of them. -/
structure Box where
  left : Int
  right : Int
  top : Int
  bottom : Int

/-- How far paths from one end reach, on each of some diagonals. A diagonal is the number of lines
    that a path is further in the old list than in the new one. -/
structure Front where
  reach : Array Int
  shift : Int
  low : Int
  high : Int

def Front.get (front : Front) (diagonal : Int) : Int :=
  (front.reach[(diagonal + front.shift).toNat]?).getD 0

def Front.put (front : Front) (diagonal value : Int) : Front :=
  { front with reach := front.reach.setIfInBounds (diagonal + front.shift).toNat value }

/-- Widens a front by a diagonal at each end. At the border of the box it is narrowed instead, as no
    path goes on there. -/
def Front.widen (front : Front) (least greatest unreached : Int) : Front :=
  let front :=
    if front.low > least then
      { front with low := front.low - 1 }.put (front.low - 2) unreached
    else { front with low := front.low + 1 }
  if front.high < greatest then
    { front with high := front.high + 1 }.put (front.high + 2) unreached
  else { front with high := front.high - 1 }

/-- Goes on as long as the lines are the same. -/
def slideDown (same : Int → Int → Bool) (box : Box) : Nat → Int → Int → Int
  | 0, x, _ => x
  | fuel + 1, x, y =>
    if x < box.right && y < box.bottom && same x y then
      slideDown same box fuel (x + 1) (y + 1)
    else x

/-- Goes back as long as the lines are the same. -/
def slideUp (same : Int → Int → Bool) (box : Box) : Nat → Int → Int → Int
  | 0, x, _ => x
  | fuel + 1, x, y =>
    if box.left < x && box.top < y && same (x - 1) (y - 1) then
      slideUp same box fuel (x - 1) (y - 1)
    else x

/-- Lengthens the paths from the start on a number of diagonals. A path that meets one from the end
    is given as the point where they meet. -/
def advance (same : Int → Int → Bool) (box : Box) (meets : Bool) (back : Front) :
    Nat → Int → Front → Except (Int × Int) Front
  | 0, _, front => .ok front
  | count + 1, diagonal, front =>
    let below := front.get (diagonal - 1)
    let above := front.get (diagonal + 1)
    let start := if below < above then above else below + 1
    let x := slideDown same box (box.right - box.left).toNat start (start - diagonal)
    if meets && back.low ≤ diagonal && diagonal ≤ back.high && back.get diagonal ≤ x then
      .error (x, x - diagonal)
    else advance same box meets back count (diagonal - 2) (front.put diagonal x)

/-- Lengthens the paths from the end. -/
def retreat (same : Int → Int → Bool) (box : Box) (meets : Bool) (front : Front) :
    Nat → Int → Front → Except (Int × Int) Front
  | 0, _, back => .ok back
  | count + 1, diagonal, back =>
    let below := back.get (diagonal - 1)
    let above := back.get (diagonal + 1)
    let start := if below < above then below else above - 1
    let x := slideUp same box (box.right - box.left).toNat start (start - diagonal)
    if meets && front.low ≤ diagonal && diagonal ≤ front.high && x ≤ front.get diagonal then
      .error (x, x - diagonal)
    else retreat same box meets front count (diagonal - 2) (back.put diagonal x)

/-- How many diagonals a front has, every other one counted. -/
def Front.width (front : Front) : Nat :=
  ((front.high - front.low) / 2 + 1).toNat

/-- Lengthens the paths from both ends in turn, until two of them meet. -/
def meeting (same : Int → Int → Bool) (box : Box) : Nat → Front → Front → Int × Int
  | 0, _, _ => (box.left, box.bottom)
  | fuel + 1, front, back =>
    let least := box.left - box.bottom
    let greatest := box.right - box.top
    let isOdd := ((box.right - box.bottom) - (box.left - box.top)) % 2 != 0
    let front := front.widen least greatest (-1)
    match advance same box isOdd back front.width front.high front with
    | .error point => point
    | .ok front =>
      let back := back.widen least greatest (box.right + box.bottom + 1)
      match retreat same box (!isOdd) front back.width back.high back with
      | .error point => point
      | .ok back => meeting same box fuel front back

/-- A point that a shortest edit passes through. -/
def midpoint (same : Int → Int → Bool) (box : Box) : Int × Int :=
  let size := ((box.right - box.left) + (box.bottom - box.top)).toNat
  let shift := box.bottom - box.left + 2
  let blank : Array Int := Array.replicate (size + 5) 0
  let start := box.left - box.top
  let stop := box.right - box.bottom
  let front : Front := Front.put ⟨blank, shift, start, start⟩ start box.left
  let back : Front := Front.put ⟨blank, shift, stop, stop⟩ stop box.right
  meeting same box (size + 1) front back

/-- The box without the lines at its start that are the same. -/
def trimStart (same : Int → Int → Bool) (box : Box) : Box :=
  let x := slideDown same box (box.right - box.left).toNat box.left box.top
  { box with left := x, top := box.top + (x - box.left) }

def trimEnd (same : Int → Int → Bool) (box : Box) : Box :=
  let x := slideUp same box (box.right - box.left).toNat box.right box.bottom
  { box with right := x, bottom := box.bottom - (box.right - x) }

/-- The numbers from one to another. -/
def span (start stop : Int) : List Int :=
  (List.range (stop - start).toNat).map fun (n : Nat) => start + n

/-- The lines of both lists that an edit changes within a box. -/
def changed (same : Int → Int → Bool) : Nat → Box → List Int × List Int
  | 0, box => (span box.left box.right, span box.top box.bottom)
  | fuel + 1, box =>
    let box := trimEnd same (trimStart same box)
    if box.left == box.right || box.top == box.bottom then
      (span box.left box.right, span box.top box.bottom)
    else
      let (x, y) := midpoint same box
      let (oldFront, newFront) := changed same fuel { box with right := x, bottom := y }
      let (oldBack, newBack) := changed same fuel { box with left := x, top := y }
      (oldFront ++ oldBack, newFront ++ newBack)

/-- A run of changed lines that is moved: the lines of its list with their marks, the marks of the
    other list, where the run starts and stops, and the place in the other list that it stands
    at. -/
structure Moving where
  marks : Array Bool
  start : Nat
  stop : Nat
  other : Nat

def isMarked (marks : Array Bool) (place : Nat) : Bool :=
  (marks[place]?).getD false

/-- The first place from one on that is not marked. -/
def skipMarks (marks : Array Bool) (place : Nat) : Nat :=
  place + ((marks.toList.drop place).takeWhile id).length

/-- The start of the marked places that end before one. -/
def skipMarksBack (marks : Array Bool) (place : Nat) : Nat :=
  place - ((marks.toList.take place).reverse.takeWhile id).length

/-- Moves a run to the line before it. -/
def Moving.back (run : Moving) (others : Array Bool) : Moving :=
  let marks :=
    (run.marks.setIfInBounds (run.start - 1) true).setIfInBounds (run.stop - 1) false
  { marks
    start := skipMarksBack marks (run.start - 1)
    stop := run.stop - 1
    other := skipMarksBack others run.other - 1 }

/-- Moves a run to the line after it. -/
def Moving.forth (run : Moving) (others : Array Bool) : Moving :=
  let marks := (run.marks.setIfInBounds run.start false).setIfInBounds run.stop true
  { marks
    start := run.start + 1
    stop := skipMarks marks (run.stop + 1)
    other := skipMarks others (run.other + 1) }

/-- Moves a run back as long as the line before it is its last one. -/
def pushBack (same : Nat → Nat → Bool) (others : Array Bool) : Nat → Moving → Moving
  | 0, run => run
  | fuel + 1, run =>
    if run.start != 0 && same (run.start - 1) (run.stop - 1) then
      pushBack same others fuel (run.back others)
    else run

/-- Moves a run forth as long as the line after it is its first one. The last place where it stood
    at a run of the other list is kept. -/
def pushForth (same : Nat → Nat → Bool) (others : Array Bool) :
    Nat → Nat → Moving → Nat × Moving
  | 0, facing, run => (facing, run)
  | fuel + 1, facing, run =>
    if run.stop != run.marks.size && same run.start run.stop then
      let next := run.forth others
      let facing := if next.other > run.other + 1 then next.stop else facing
      pushForth same others fuel facing next
    else (facing, run)

/-- Moves a run back and forth until it no longer grows together with others. -/
def settle (same : Nat → Nat → Bool) (others : Array Bool) : Nat → Moving → Nat × Moving
  | 0, run => (run.marks.size, run)
  | fuel + 1, run =>
    let length := run.stop - run.start
    let run := pushBack same others run.marks.size run
    let facing :=
      if run.other != 0 && isMarked others (run.other - 1) then run.stop else run.marks.size
    let (facing, run) := pushForth same others run.marks.size facing run
    if run.stop - run.start != length then settle same others fuel run else (facing, run)

/-- Moves a run back to where it stood at a run of the other list. -/
def faceOther (others : Array Bool) (facing : Nat) : Nat → Moving → Moving
  | 0, run => run
  | fuel + 1, run =>
    if facing < run.stop then
      let marks :=
        (run.marks.setIfInBounds (run.start - 1) true).setIfInBounds (run.stop - 1) false
      faceOther others facing fuel {
        marks
        start := run.start - 1
        stop := run.stop - 1
        other := skipMarksBack others run.other - 1 }
    else run

/-- Moves the runs of a list, from a place on. The place in the other list goes along. -/
def shiftRuns (same : Nat → Nat → Bool) (others : Array Bool) :
    Nat → Nat → Nat → Array Bool → Array Bool
  | 0, _, _, marks => marks
  | fuel + 1, place, other, marks =>
    if place ≥ marks.size then marks
    else if !isMarked marks place then
      shiftRuns same others fuel (place + 1) (skipMarks others other + 1) marks
    else
      let run : Moving := ⟨marks, place, skipMarks marks place, skipMarks others other⟩
      let (facing, run) := settle same others (marks.size + 1) run
      let run := faceOther others facing marks.size run
      shiftRuns same others fuel run.stop run.other run.marks

/-- The runs of changes, from a place of each list on. -/
def hunks (marks : Marks) : Nat → Nat → Nat → List Hunk
  | 0, _, _ => []
  | fuel + 1, old, new =>
    if old ≥ marks.old.size && new ≥ marks.new.size then []
    else
      let oldEnd := skipMarks marks.old old
      let newEnd := skipMarks marks.new new
      if oldEnd == old && newEnd == new then hunks marks fuel (old + 1) (new + 1)
      else ⟨old, oldEnd - old, new, newEnd - new⟩ :: hunks marks fuel oldEnd newEnd

/-- The number of lines at the start of two lists that are the same. -/
def commonFront : List String → List String → Nat
  | a :: as, b :: bs => if a == b then commonFront as bs + 1 else 0
  | _, _ => 0

end Edits

open Edits in
/-- The runs of changes that lead from one list of lines to another. Lines with equal keys count as
    the same. What the lists start and end with is put aside, but for a number of lines next to the
    changes. A line that the other list lacks is changed whatever else is. -/
def editsBetween (margin : Nat) (key : String → String) (old new : List String) : List Hunk :=
  let front := commonFront old new - margin
  let rest := min old.length new.length - front
  let back := min (commonFront old.reverse new.reverse) rest - margin
  let oldKeys := (((old.drop front).take (old.length - front - back)).map key).toArray
  let newKeys := (((new.drop front).take (new.length - front - back)).map key).toArray
  let keptOld := (List.range oldKeys.size).filter fun n =>
    newKeys.contains (oldKeys[n]?.getD "")
  let keptNew := (List.range newKeys.size).filter fun n =>
    oldKeys.contains (newKeys[n]?.getD "")
  let olds := keptOld.toArray
  let news := keptNew.toArray
  let at? (keys : Array String) (places : Array Nat) (n : Int) : Option String :=
    (places[n.toNat]?).bind (keys[·]?)
  let same (x y : Int) : Bool := at? oldKeys olds x == at? newKeys news y
  let (oldChanged, newChanged) :=
    changed same (olds.size + news.size + 1) ⟨0, olds.size, 0, news.size⟩
  let blankOld := oldKeys.map fun text => !newKeys.contains text
  let blankNew := newKeys.map fun text => !oldKeys.contains text
  let oldMarks := oldChanged.foldl (fun marks n =>
    marks.setIfInBounds ((olds[n.toNat]?).getD 0) true) blankOld
  let newMarks := newChanged.foldl (fun marks n =>
    marks.setIfInBounds ((news[n.toNat]?).getD 0) true) blankNew
  let sameIn (keys : Array String) (a b : Nat) : Bool := keys[a]? == keys[b]?
  let oldMarks := shiftRuns (sameIn oldKeys) newMarks (oldKeys.size + 1) 0 0 oldMarks
  let newMarks := shiftRuns (sameIn newKeys) oldMarks (newKeys.size + 1) 0 0 newMarks
  (hunks ⟨oldMarks, newMarks⟩ (oldKeys.size + newKeys.size + 1) 0 0).map fun hunk =>
    { hunk with oldStart := hunk.oldStart + front, newStart := hunk.newStart + front }

end InfoFlow.Sandbox
