/-
The runs of neighbouring intervals that make up a range of code points.

`Interval.tiles alphabet start stop` gives the positions of the intervals of a sorted, disjoint alphabet that together
are exactly the range. It answers with a fault if no interval begins where the range begins, if the intervals leave a gap
before the range is covered, or if the last of them reaches too far.
-/
import Munch.Interval
import Munch.Bisection

namespace Munch.Interval

/-- the positions of the run that begins with `current`, at position `index`, and covers everything up to `stop`; `start`
is only named in a fault -/
def run (start stop : Nat) (current : Interval) (index : Nat) : List Interval → Except Fault (List Nat)
  | [] =>
    if current.stop < stop then .error (.notTiled start stop)
    else if current.stop = stop then .ok [index]
    else .error (.offEnd start stop)
  | next :: rest =>
    if current.stop < stop then
      if next.start = current.stop + 1 then (run start stop next (index + 1) rest).map (index :: ·)
      else .error (.notTiled start stop)
    else if current.stop = stop then .ok [index]
    else .error (.offEnd start stop)

/-- the position of the interval that begins at `start`, if there is one -/
def startingAt? (alphabet : Array Interval) (start : Nat) : Option Nat :=
  let last := Bisection.lastTrue alphabet.size fun i => (alphabet[i]?).any fun a => decide (a.start ≤ start)
  if (alphabet[last]?).any fun a => decide (a.start = start) then some last else none

/-- the positions of the intervals of the alphabet that together are the code points from `start` to `stop` -/
def tiles (alphabet : Array Interval) (start stop : Nat) : Except Fault (List Nat) :=
  match startingAt? alphabet start with
  | none => .error (.offStart start stop)
  | some index =>
    match alphabet.toList.drop index with
    | [] => .error (.offStart start stop)
    | first :: rest => run start stop first index rest

end Munch.Interval
