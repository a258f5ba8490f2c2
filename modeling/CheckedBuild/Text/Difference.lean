/-!
# Differences between sequences

What differs between two sequences is a list of changes, each of which puts a stretch of the second
sequence in the place of a stretch of the first one. The changes are as few single steps as
possible, which are found from both ends at the same time; then stretches are moved to where they
join with others or come as late as they can.
-/

namespace CheckedBuild.Text.Difference

/-- A stretch of the first sequence and the stretch of the second one in its place, by where they
begin and where they end. -/
structure Change where
  first : Nat
  last : Nat
  otherFirst : Nat
  otherLast : Nat
deriving DecidableEq, Repr

/-- A part of both sequences. -/
structure Part where
  start : Nat
  stop : Nat
  otherStart : Nat
  otherStop : Nat

/-- Which elements of both sequences are changed. -/
structure Marks where
  left : Array Bool
  right : Array Bool

variable {α : Type} [DecidableEq α]

/-- How many elements from two places on are the same. -/
def agreement (xs ys : Array α) (stop otherStop : Nat) (fuel i j : Nat) : Nat :=
  match fuel with
  | 0 => 0
  | fuel + 1 =>
    if i < stop && j < otherStop && xs[i]? = ys[j]? then
      agreement xs ys stop otherStop fuel (i + 1) (j + 1) + 1
    else 0

/-- How many elements in front of two places are the same. -/
def agreementBefore (xs ys : Array α) (start otherStart : Nat) (fuel i j : Nat) : Nat :=
  match fuel with
  | 0 => 0
  | fuel + 1 =>
    if start < i && otherStart < j && xs[i - 1]? = ys[j - 1]? then
      agreementBefore xs ys start otherStart fuel (i - 1) (j - 1) + 1
    else 0

/-- The furthest places that were reached on each diagonal, on which the difference between both
places is the same. -/
structure Frontier where
  /-- The number of the diagonal that stands first. -/
  base : Int
  places : Array Int
  low : Int
  high : Int

/-- The furthest place on a diagonal. -/
def Frontier.at (frontier : Frontier) (d : Int) : Int :=
  (frontier.places[(d - frontier.base).toNat]?).getD 0

/-- The frontier with another place on a diagonal. -/
def Frontier.set (frontier : Frontier) (d x : Int) : Frontier :=
  { frontier with places := frontier.places.setIfInBounds (d - frontier.base).toNat x }

/-- Widens the range of diagonals by one on both sides, where there are further ones; a place on a
new diagonal's far side loses every comparison. -/
def Frontier.widen (frontier : Frontier) (least greatest worst : Int) : Frontier :=
  let frontier :=
    if least < frontier.low then
      { frontier.set (frontier.low - 2) worst with low := frontier.low - 1 }
    else { frontier with low := frontier.low + 1 }
  if frontier.high < greatest then
    { frontier.set (frontier.high + 2) worst with high := frontier.high + 1 }
  else { frontier with high := frontier.high - 1 }

/-- The diagonals of a frontier that are looked at, the highest one first. -/
def Frontier.diagonals (frontier : Frontier) : List Int :=
  (List.range ((frontier.high - frontier.low) / 2 + 1).toNat).map fun (i : Nat) =>
    frontier.high - 2 * (i : Int)

/-- Whether a frontier reaches over a diagonal. -/
def Frontier.covers (frontier : Frontier) (d : Int) : Bool :=
  frontier.low ≤ d && d ≤ frontier.high

/-- Goes one step further from the start on some diagonals; the search ends where it meets the one
from the other end. -/
def stepForward (xs ys : Array α) (part : Part) (meets : Bool) (other : Frontier) :
    List Int → Frontier → Except (Nat × Nat) Frontier
  | [], frontier => .ok frontier
  | d :: ds, frontier =>
    let low := frontier.at (d - 1)
    let high := frontier.at (d + 1)
    let x := if low < high then high else low + 1
    let count := agreement xs ys part.stop part.otherStop (part.stop - part.start) x.toNat
      (x - d).toNat
    let x := x + count
    if meets && other.covers d && other.at d ≤ x then .error (x.toNat, (x - d).toNat)
    else stepForward xs ys part meets other ds (frontier.set d x)

/-- Goes one step further from the end on some diagonals; the search ends where it meets the one
from the start. -/
def stepBackward (xs ys : Array α) (part : Part) (meets : Bool) (other : Frontier) :
    List Int → Frontier → Except (Nat × Nat) Frontier
  | [], frontier => .ok frontier
  | d :: ds, frontier =>
    let low := frontier.at (d - 1)
    let high := frontier.at (d + 1)
    let x := if low < high then low else high - 1
    let count := agreementBefore xs ys part.start part.otherStart (part.stop - part.start) x.toNat
      (x - d).toNat
    let x := x - count
    if meets && other.covers d && x ≤ other.at d then .error (x.toNat, (x - d).toNat)
    else stepBackward xs ys part meets other ds (frontier.set d x)

/-- Where a shortest way through a part passes: the place at which the searches meet. -/
def meetingPlace (xs ys : Array α) (part : Part) (isOdd : Bool) (fuel : Nat)
    (front back : Frontier) : Nat × Nat :=
  match fuel with
  | 0 => (part.start, part.otherStart)
  | fuel + 1 =>
    let least : Int := (part.start : Int) - part.otherStop
    let greatest : Int := (part.stop : Int) - part.otherStart
    let front := front.widen least greatest (-1)
    match stepForward xs ys part isOdd back front.diagonals front with
    | .error place => place
    | .ok front =>
      let back := back.widen least greatest (xs.size + ys.size + 2 : Nat)
      match stepBackward xs ys part (!isOdd) front back.diagonals back with
      | .error place => place
      | .ok back => meetingPlace xs ys part isOdd fuel front back

/-- Marks a range of elements. -/
def markRange (marks : Array Bool) (start stop : Nat) : Array Bool :=
  (List.range (stop - start)).foldl (fun marks i => marks.setIfInBounds (start + i) true) marks

/-- Marks what is changed in a part of both sequences. -/
def markPart (xs ys : Array α) (fuel : Nat) (part : Part) (marks : Marks) : Marks :=
  match fuel with
  | 0 =>
    ⟨markRange marks.left part.start part.stop,
      markRange marks.right part.otherStart part.otherStop⟩
  | fuel + 1 =>
    let same := agreement xs ys part.stop part.otherStop (part.stop - part.start) part.start
      part.otherStart
    let part := { part with start := part.start + same, otherStart := part.otherStart + same }
    let same := agreementBefore xs ys part.start part.otherStart (part.stop - part.start) part.stop
      part.otherStop
    let part := { part with stop := part.stop - same, otherStop := part.otherStop - same }
    if part.start = part.stop then
      { marks with right := markRange marks.right part.otherStart part.otherStop }
    else if part.otherStart = part.otherStop then
      { marks with left := markRange marks.left part.start part.stop }
    else
      let (first, last) := ((part.start : Int) - part.otherStart,
        (part.stop : Int) - part.otherStop)
      let places := Array.replicate (xs.size + ys.size + 5) (0 : Int)
      let base : Int := -(ys.size : Int) - 2
      let front := ({ base, places, low := first, high := first } : Frontier).set first part.start
      let back := ({ base, places, low := last, high := last } : Frontier).set last part.stop
      let isOdd := (first - last) % 2 ≠ 0
      let (x, y) := meetingPlace xs ys part isOdd (xs.size + ys.size + 1) front back
      let marks := markPart xs ys fuel { part with stop := x, otherStop := y } marks
      markPart xs ys fuel { part with start := x, otherStart := y } marks

/-- Whether an element is marked. -/
def isMarked (marks : Array Bool) (i : Nat) : Bool := (marks[i]?).getD false

/-- The first place from `i` on whose element is not marked. -/
def unmarkedFrom (marks : Array Bool) (fuel i : Nat) : Nat :=
  match fuel with
  | 0 => i
  | fuel + 1 => if isMarked marks i then unmarkedFrom marks fuel (i + 1) else i

/-- The place behind the last element in front of `i` that is not marked. -/
def markedBefore (marks : Array Bool) (fuel i : Nat) : Nat :=
  match fuel with
  | 0 => i
  | fuel + 1 => if 0 < i && isMarked marks (i - 1) then markedBefore marks fuel (i - 1) else i

/-- The last place in front of `j` whose element is not marked. -/
def unmarkedBefore (marks : Array Bool) (j : Nat) : Nat :=
  markedBefore marks marks.size j - 1

/-- A stretch of marked elements, and the corresponding place in the other sequence. -/
structure Stretch where
  start : Nat
  stop : Nat
  place : Nat
  marks : Array Bool

/-- Moves a stretch back as long as that changes nothing; it joins with stretches that it
meets. -/
def moveBack (xs : Array α) (others : Array Bool) (fuel : Nat) (stretch : Stretch) : Stretch :=
  match fuel with
  | 0 => stretch
  | fuel + 1 =>
    let { start, stop, place, marks } := stretch
    if 0 < start && xs[start - 1]? = xs[stop - 1]? then
      let marks := (marks.setIfInBounds (start - 1) true).setIfInBounds (stop - 1) false
      moveBack xs others fuel
        { start := markedBefore marks marks.size (start - 1), stop := stop - 1
          place := unmarkedBefore others place, marks }
    else stretch

/-- Moves a stretch forth as long as that changes nothing; it joins with stretches that it meets.
The second result is where it last ended at a stretch of the other sequence. -/
def moveForth (xs : Array α) (others : Array Bool) (fuel : Nat) (stretch : Stretch)
    (matching : Option Nat) : Stretch × Option Nat :=
  match fuel with
  | 0 => (stretch, matching)
  | fuel + 1 =>
    let { start, stop, place, marks } := stretch
    if stop < xs.size && xs[start]? = xs[stop]? then
      let marks := (marks.setIfInBounds start false).setIfInBounds stop true
      let stop := unmarkedFrom marks marks.size (stop + 1)
      let next := unmarkedFrom others others.size (place + 1)
      let matching := if place + 1 < next then some stop else matching
      moveForth xs others fuel { start := start + 1, stop, place := next, marks } matching
    else (stretch, matching)

/-- Moves a stretch back to where it ends at a stretch of the other sequence. -/
def returnTo (others : Array Bool) (goal fuel : Nat) (stretch : Stretch) : Stretch :=
  match fuel with
  | 0 => stretch
  | fuel + 1 =>
    let { start, stop, place, marks } := stretch
    if goal < stop then
      let marks := (marks.setIfInBounds (start - 1) true).setIfInBounds (stop - 1) false
      returnTo others goal fuel
        { start := start - 1, stop := stop - 1, place := unmarkedBefore others place, marks }
    else stretch

/-- Moves a stretch to where it belongs. -/
def settle (xs : Array α) (others : Array Bool) (fuel : Nat) (stretch : Stretch) : Stretch :=
  match fuel with
  | 0 => stretch
  | fuel + 1 =>
    let length := stretch.stop - stretch.start
    let count := xs.size + 1
    let stretch := moveBack xs others count stretch
    let matching :=
      if 0 < stretch.place && isMarked others (stretch.place - 1) then some stretch.stop else none
    let (stretch, matching) := moveForth xs others count stretch matching
    if stretch.stop - stretch.start ≠ length then settle xs others fuel stretch
    else
      match matching with
      | some goal => returnTo others goal count stretch
      | none => stretch

/-- Moves all stretches of a sequence to where they belong, from places in both sequences on. -/
def settleAll (xs : Array α) (others : Array Bool) (fuel i j : Nat) (marks : Array Bool) :
    Array Bool :=
  match fuel with
  | 0 => marks
  | fuel + 1 =>
    if xs.size ≤ i then marks
    else if !isMarked marks i then
      settleAll xs others fuel (i + 1) (unmarkedFrom others others.size j + 1) marks
    else
      let stop := unmarkedFrom marks marks.size i
      let place := unmarkedFrom others others.size j
      let stretch := settle xs others (xs.size + 1) ⟨i, stop, place, marks⟩
      settleAll xs others fuel stretch.stop stretch.place stretch.marks

/-- The changes that marks stand for. -/
def changesOf (marks : Marks) (fuel i j : Nat) : List Change :=
  match fuel with
  | 0 => []
  | fuel + 1 =>
    if marks.left.size ≤ i && marks.right.size ≤ j then []
    else if isMarked marks.left i || isMarked marks.right j then
      let last := unmarkedFrom marks.left marks.left.size i
      let otherLast := unmarkedFrom marks.right marks.right.size j
      ⟨i, last, j, otherLast⟩ :: changesOf marks fuel last otherLast
    else changesOf marks fuel (i + 1) (j + 1)

/-- Puts the marks of the elements that occur in both sequences back among the others, which are
all marked. -/
def spreadMarks (isCommon : Array Bool) (marks : Array Bool) : Array Bool :=
  (isCommon.foldl (fun ((all, i) : Array Bool × Nat) common =>
    if common then (all.push (isMarked marks i), i + 1) else (all.push true, i)) (#[], 0)).1

/-- The changes that make the second sequence of the first one, if all of both counts. -/
def allChanges (xs ys : Array α) : List Change :=
  -- what occurs on one side only is changed in any case
  let inRight := xs.map ys.contains
  let inLeft := ys.map xs.contains
  let common := (xs.zip inRight).filterMap fun (x, isCommon) => if isCommon then some x else none
  let others := (ys.zip inLeft).filterMap fun (y, isCommon) => if isCommon then some y else none
  let marks := markPart common others (common.size + others.size + 1)
    ⟨0, common.size, 0, others.size⟩
    ⟨Array.replicate common.size false, Array.replicate others.size false⟩
  let left := spreadMarks inRight marks.left
  let right := spreadMarks inLeft marks.right
  let fuel := xs.size + ys.size + 1
  let left := settleAll xs right fuel 0 0 left
  let right := settleAll ys left fuel 0 0 right
  changesOf ⟨left, right⟩ fuel 0 0

/-- A change further on in both sequences. -/
def Change.shift (change : Change) (count : Nat) : Change :=
  ⟨change.first + count, change.last + count, change.otherFirst + count,
    change.otherLast + count⟩

/-- The changes that make the second sequence of the first one. Of what is the same at both ends
only so many elements count. -/
def changes (context : Nat) (xs ys : Array α) : List Change :=
  let front := agreement xs ys xs.size ys.size xs.size 0 0 - context
  let back := agreementBefore xs ys front front xs.size xs.size ys.size - context
  (allChanges (xs.extract front (xs.size - back)) (ys.extract front (ys.size - back))).map
    fun change => change.shift front

end CheckedBuild.Text.Difference
