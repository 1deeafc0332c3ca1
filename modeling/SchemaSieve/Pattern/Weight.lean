import SchemaSieve.Pattern.Node

/-!
# The size of patterns

How many bytes the automaton of a pattern takes that reads a text backwards, byte by byte.
Beginnings of characters that are the same are counted once in each set.
-/

namespace SchemaSieve.Pattern

open Text

/-- The byte sequences of the characters in a range, each byte a range of its own. The characters
are those whose encoding has `k` bytes after the first one, and `lead` is added to the first byte.
-/
def byteSequences (lead : Nat) : Nat → Nat → Nat → List (List (Nat × Nat))
  | 0, lo, hi => [[(lead + lo, lead + hi)]]
  | k + 1, lo, hi =>
    let unit := 64 ^ (k + 1)
    let rest := List.replicate (k + 1) (0x80, 0xBF)
    let tail (first lo hi : Nat) : List (List (Nat × Nat)) :=
      (byteSequences 0x80 k lo hi).map fun s => (lead + first, lead + first) :: s
    let a := lo / unit
    let b := hi / unit
    if a = b then tail a (lo % unit) (hi % unit)
    else
      let a' := if lo % unit = 0 then a else a + 1
      let b' := if hi % unit = unit - 1 then b + 1 else b
      (if lo % unit = 0 then [] else tail a (lo % unit) (unit - 1))
        ++ (if a' < b' then [(lead + a', lead + b' - 1) :: rest] else [])
        ++ (if hi % unit = unit - 1 then [] else tail b 0 (hi % unit))

/-- The code points by the length of their encoding, the surrogates left out: the first and the last
one, what is added to the first byte, and how many bytes follow it. -/
def encodingClasses : List (Nat × Nat × Nat × Nat) :=
  [(0, 0x7F, 0, 0), (0x80, 0x7FF, 0xC0, 1), (0x800, 0xD7FF, 0xE0, 2), (0xE000, 0xFFFF, 0xE0, 2),
    (0x10000, 0x10FFFF, 0xF0, 3)]

def rangeSequences (r : Nat × Nat) : List (List (Nat × Nat)) :=
  encodingClasses.flatMap fun (first, last, lead, k) =>
    let lo := max first r.1
    let hi := min last r.2
    if lo ≤ hi then byteSequences lead k lo hi else []

def commonLength : List (Nat × Nat) → List (Nat × Nat) → Nat
  | a :: as, b :: bs => if a = b then commonLength as bs + 1 else 0
  | _, _ => 0

/-- How many beginnings the sequences have. -/
def beginnings (previous : List (Nat × Nat)) : List (List (Nat × Nat)) → Nat
  | [] => 0
  | s :: ss => s.length - commonLength previous s + beginnings s ss

/-- The bytes that one state of the automaton of a pattern takes. -/
def stateWeight : Nat := 32

def unionWeight (branches : Nat) : Nat := stateWeight + 4 * branches

def setWeight (s : CharSet) : Nat :=
  match s.ranges with
  | [] => stateWeight
  | [(a, b)] =>
    if a = b then (rangeSequences (a, b)).foldl (fun n bs => n + bs.length) 0 * stateWeight
    else many s
  | _ => many s
where
  many (s : CharSet) : Nat :=
    if s.isAscii then 2 * stateWeight + 8 * s.ranges.length
    else
      let sequences := s.ranges.flatMap rangeSequences
      unionWeight sequences.length + stateWeight * (beginnings [] sequences + 1)

mutual

/-- Whether every match has at least one character. -/
def Node.isSolid : Node → Bool
  | .set s => !s.isEmpty
  | .repetition min _ n => min != 0 && n.isSolid
  | .capture n => n.isSolid
  | .concat ns => Node.anySolid ns
  | .alternation ns => Node.allSolid ns
  | _ => false

def Node.anySolid : List Node → Bool
  | [] => false
  | n :: ns => n.isSolid || Node.anySolid ns

def Node.allSolid : List Node → Bool
  | [] => true
  | n :: ns => n.isSolid && Node.allSolid ns

end

mutual

/-- Whether no match has a character. -/
def Node.isHollow : Node → Bool
  | .empty => true
  | .look _ => true
  | .set _ => false
  | .repetition _ max n => max == some 0 || n.isHollow
  | .capture n => n.isHollow
  | .concat ns => Node.allHollow ns
  | .alternation ns => Node.allHollow ns

def Node.allHollow : List Node → Bool
  | [] => true
  | n :: ns => n.isHollow && Node.allHollow ns

end

/-- The bytes of the copies that a repetition takes, given those of what it repeats. -/
def repetitionWeight (isSolid : Bool) (min : Nat) (max : Option Nat) (inner : Nat) : Nat :=
  let loop := unionWeight 2
  match max with
  | some max =>
    if max = 0 then stateWeight
    else if min = max then min * inner
    else
      (if min = 0 then stateWeight else min * inner) + stateWeight + (max - min) * (loop + inner)
  | none =>
    if min = 0 then if isSolid then loop + inner else inner + 2 * loop + stateWeight
    else min * inner + loop

mutual

/-- The bytes that the automaton of a node takes, up to what it shares between its parts. -/
def Node.weight : Node → Nat
  | .empty => stateWeight
  | .set s => setWeight s
  | .look _ => stateWeight
  | .repetition min max n =>
    let once (k : Nat) : Nat := if n.isHollow then Nat.min k 1 else k
    repetitionWeight n.isSolid (once min)
      (if n.isHollow then some ((max.map once).getD 1) else max) n.weight
  | .capture n => 2 * stateWeight + n.weight
  | .concat ns => if ns.isEmpty then stateWeight else Node.sumWeights ns
  | .alternation ns => unionWeight ns.length + stateWeight + Node.sumWeights ns

def Node.sumWeights : List Node → Nat
  | [] => 0
  | n :: ns => n.weight + Node.sumWeights ns

end

def weightLimit : Nat := 10485760

/-- The bytes of the whole automaton, with the search for the beginning of a match. -/
def Node.totalWeight (n : Node) : Nat := n.weight + 6 * stateWeight + 16

end SchemaSieve.Pattern
