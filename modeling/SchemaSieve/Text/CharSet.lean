/-!
# Sets of characters

Sets of characters as sorted ranges of code points.
-/

namespace SchemaSieve.Text

def maxCodePoint : Nat := 0x10FFFF

/-- A set of characters: its ranges of code points in increasing order, no two of which touch. -/
structure CharSet where
  ranges : List (Nat × Nat)
  deriving DecidableEq, Repr

namespace CharSet

def inRanges (n : Nat) : List (Nat × Nat) → Bool
  | [] => false
  | (first, last) :: rs => if n < first then false else if n ≤ last then true else inRanges n rs

def contains (s : CharSet) (c : Char) : Bool := inRanges c.toNat s.ranges

def empty : CharSet := ⟨[]⟩

def all : CharSet := ⟨[(0, maxCodePoint)]⟩

def singleton (c : Char) : CharSet := ⟨[(c.toNat, c.toNat)]⟩

/-- Joins `r` and the ranges after it, sorted by their first code point, where they overlap or
touch. -/
def absorb (r : Nat × Nat) : List (Nat × Nat) → List (Nat × Nat)
  | [] => [r]
  | r' :: rs => if r'.1 ≤ r.2 + 1 then absorb (r.1, max r.2 r'.2) rs else r :: absorb r' rs

def coalesce : List (Nat × Nat) → List (Nat × Nat)
  | [] => []
  | r :: rs => absorb r rs

/-- The set that given ranges cover, in whatever order they come. -/
def ofRanges (rs : List (Nat × Nat)) : CharSet :=
  ⟨coalesce (rs.mergeSort fun a b => a.1 ≤ b.1)⟩

def range (first last : Char) : CharSet := ⟨[(first.toNat, last.toNat)]⟩

def union (a b : CharSet) : CharSet :=
  if b.ranges.isEmpty then a else if a.ranges.isEmpty then b else ofRanges (a.ranges ++ b.ranges)

/-- The code points from `next` on that lie in none of the ranges. -/
def gaps (next : Nat) : List (Nat × Nat) → List (Nat × Nat)
  | [] => if next ≤ maxCodePoint then [(next, maxCodePoint)] else []
  | (first, last) :: rs =>
    if next < first then (next, first - 1) :: gaps (last + 1) rs else gaps (last + 1) rs

def compl (s : CharSet) : CharSet := ⟨gaps 0 s.ranges⟩

def inter (a b : CharSet) : CharSet := (a.compl.union b.compl).compl

def diff (a b : CharSet) : CharSet := a.inter b.compl

def symmDiff (a b : CharSet) : CharSet := (a.union b).diff (a.inter b)

def isEmpty (s : CharSet) : Bool := s.ranges.isEmpty

def isAscii (s : CharSet) : Bool := s.ranges.all fun r => r.2 < 0x80

theorem contains_singleton (c d : Char) : (singleton c).contains d = decide (d = c) := by
  have : d.toNat = c.toNat ↔ d = c := Char.toNat_inj
  by_cases h : d = c
  · simp [contains, singleton, inRanges, h]
  · have hn : d.toNat ≠ c.toNat := fun e => h (this.1 e)
    simp only [contains, singleton, inRanges, h, decide_false]
    split
    · simp
    · simp
      omega

end CharSet

end SchemaSieve.Text
