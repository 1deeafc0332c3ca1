import SchemaSieve.Pattern.Node

/-!
# Looking for matches

`Node.advance` takes the places where matches may begin to the places where they may end. A
repetition stops when a turn leads to no new place, so it needs no more turns than the text has
places.
-/

namespace SchemaSieve.Pattern

open Text

/-- Leaves out a place that the next one repeats. -/
def dropRepeated : List Spot → List Spot
  | p :: q :: ps =>
    if p.index = q.index then dropRepeated (q :: ps) else p :: dropRepeated (q :: ps)
  | ps => ps

/-- Joins two lists of places, both in the order of the text. -/
def merge (ps qs : List Spot) : List Spot := dropRepeated (ps.merge qs fun p q => p.index ≤ q.index)

def without (ps qs : List Spot) : List Spot :=
  ps.filter fun p => !qs.any fun q => q.index == p.index

def repeatStep (step : List Spot → List Spot) : Nat → List Spot → List Spot
  | 0, ps => ps
  | _ + 1, [] => []
  | n + 1, ps => repeatStep step n (step ps)

/-- Takes a step up to `n` times more from the newest of the places seen. -/
def growSteps (step : List Spot → List Spot) : Nat → List Spot → List Spot → List Spot
  | 0, seen, _ => seen
  | n + 1, seen, newest =>
    match without (step newest) seen with
    | [] => seen
    | ps => growSteps step n (merge seen ps) ps

/-- More steps than lead to new places. -/
def stepBound : List Spot → Nat
  | [] => 0
  | p :: _ => p.after.length + 1

mutual

/-- Where matches of a node end that begin at one of some places. -/
def Node.advance (ps : List Spot) : Node → List Spot
  | .empty => ps
  | .set s => ps.filterMap (Spot.take? s)
  | .look l => ps.filter fun p => l.holds p
  | .repetition min max n =>
    let ps := repeatStep (fun qs => n.advance qs) min ps
    let more := match max with
      | some max => max - min
      | none => stepBound ps
    growSteps (fun qs => n.advance qs) more ps ps
  | .capture n => n.advance ps
  | .concat ns => Node.advanceAll ps ns
  | .alternation ns => Node.advanceAny ps ns

def Node.advanceAll (ps : List Spot) : List Node → List Spot
  | [] => ps
  | n :: ns => Node.advanceAll (n.advance ps) ns

def Node.advanceAny (ps : List Spot) : List Node → List Spot
  | [] => []
  | n :: ns => merge (n.advance ps) (Node.advanceAny ps ns)

end

def Node.occursIn (n : Node) (text : List Char) : Bool := !(n.advance (spots text)).isEmpty

end SchemaSieve.Pattern
