import SchemaSieve.Text.CharSet
import SchemaSieve.Text.Hex

/-!
# Named sets of characters

Sets of characters written as ranges of hexadecimal numbers, and how their names are compared.
-/

namespace SchemaSieve.Unicode

open Text

/-- A set of characters under its names, the code points in hexadecimal: `41-5A AA` stands for the
letters from `A` to `Z` and for the feminine ordinal. -/
structure Property where
  names : List String
  codes : String
  deriving Repr

/-- Reads ranges, with blanks between them. The first argument is the beginning of the current
range, if a dash has come, and the second the number that is being read. -/
def readRanges : Option Nat → Option Nat → List Char → List (Nat × Nat)
  | first?, some n, [] => [(first?.getD n, n)]
  | _, none, [] => []
  | first?, n?, c :: cs =>
    if c.isAlphanum then readRanges first? (some (n?.getD 0 * 16 + hexValue c)) cs
    else if c = '-' then readRanges n? none cs
    else
      match n? with
      | some n => (first?.getD n, n) :: readRanges none none cs
      | none => readRanges none none cs

def Property.toSet (p : Property) : CharSet := ⟨readRanges none none p.codes.toList⟩

/-- Names are compared without case, blanks, dashes, underscores and a leading `is`. The one letter
`c` is left of `isc` so, which names another property. -/
def looseName (name : String) : String :=
  let kept (c : Char) : Bool := c.toNat < 0x80 && c != ' ' && c != '_' && c != '-'
  let loose (cs : List Char) : List Char := (cs.filter kept).map Char.toLower
  match name.toList with
  | i :: s :: cs =>
    if i.toLower = 'i' ∧ s.toLower = 's' then
      match loose cs with
      | ['c'] => "isc"
      | cs' => String.ofList cs'
    else String.ofList (loose (i :: s :: cs))
  | cs => String.ofList (loose cs)

/-- Whether a name, already loose, is one of some names. -/
def isNamed (loose : String) (names : List String) : Bool :=
  names.any fun n => looseName n == loose

def find? (loose : String) (ps : List Property) : Option Property :=
  ps.find? fun p => isNamed loose p.names

end SchemaSieve.Unicode
