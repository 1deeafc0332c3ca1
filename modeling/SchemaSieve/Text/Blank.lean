/-!
# White space

The characters of the Unicode property of that name, and texts without those at their ends.
-/

namespace SchemaSieve.Text

/-- The blank characters outside ASCII, one range per row. -/
def blankRanges : List (Nat × Nat) :=
  [(0x85, 0x85), (0xA0, 0xA0), (0x1680, 0x1680), (0x2000, 0x200A), (0x2028, 0x2029),
    (0x202F, 0x202F), (0x205F, 0x205F), (0x3000, 0x3000)]

/-- White space in the sense of the Unicode property of that name. -/
def isBlank (c : Char) : Bool :=
  let n := c.toNat
  if n < 0x80 then (9 ≤ n && n ≤ 13) || n = 32
  else blankRanges.any fun r => r.1 ≤ n && n ≤ r.2

def isBlankText (s : String) : Bool := s.toList.all isBlank

def dropTrailing (p : Char → Bool) (cs : List Char) : List Char :=
  (cs.reverse.dropWhile p).reverse

def trim (s : String) : String :=
  String.ofList (dropTrailing isBlank (s.toList.dropWhile isBlank))

theorem toList_trim (s : String) :
    (trim s).toList = dropTrailing isBlank (s.toList.dropWhile isBlank) := by
  simp [trim]

end SchemaSieve.Text
