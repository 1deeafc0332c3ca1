/-!
# Hexadecimal numbers

Digits and numbers in base sixteen.
-/

namespace SchemaSieve.Text

def isHexDigit (c : Char) : Bool := c.isDigit || ('a' ≤ c && c ≤ 'f') || ('A' ≤ c && c ≤ 'F')

def hexValue (c : Char) : Nat :=
  if c.isDigit then c.toNat - '0'.toNat
  else if 'a' ≤ c then c.toNat - 'a'.toNat + 10
  else c.toNat - 'A'.toNat + 10

/-- The number that digits make in a base of at most sixteen. -/
def numeral (base : Nat) (ds : List Char) : Nat := ds.foldl (fun n d => n * base + hexValue d) 0

def hexText (n : Nat) : String := String.ofList (Nat.toDigits 16 n)

end SchemaSieve.Text
