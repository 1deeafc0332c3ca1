/-!
# Shortest decimals

The fewest digits that are read back as the same double, and of those the nearest to it. All
arithmetic is on whole numbers.
-/

namespace SchemaSieve.Text

/-- A positive number `mantissa * 2 ^ exponent`. -/
structure Binary where
  mantissa : Nat
  exponent : Int
  deriving Repr

namespace Binary

def compareDecimal (b : Binary) (d : Nat) (k : Int) : Ordering :=
  compare (b.mantissa * Nat.pow 2 b.exponent.toNat * Nat.pow 10 (-k).toNat)
    (d * Nat.pow 10 k.toNat * Nat.pow 2 (-b.exponent).toNat)

/-- The largest `d` such that `d * 10 ^ k` does not exceed the number. -/
def floorAt (b : Binary) (k : Int) : Nat :=
  b.mantissa * Nat.pow 2 b.exponent.toNat * Nat.pow 10 (-k).toNat
    / (Nat.pow 10 k.toNat * Nat.pow 2 (-b.exponent).toNat)

end Binary

/-- The numbers that are read back as a given one: those between two bounds. -/
structure Rounding where
  value : Binary
  low : Binary
  high : Binary
  closed : Bool

/-- The rounding of a positive double with a fraction field and an exponent field. -/
def Rounding.ofFields (fraction field : Nat) : Rounding :=
  let mantissa := if field = 0 then fraction else Nat.pow 2 52 + fraction
  let exponent : Int := (if field = 0 then 1 else field) - 1075
  let below := if fraction = 0 ∧ 1 < field then 4 * mantissa - 1 else 4 * mantissa - 2
  { value := ⟨mantissa, exponent⟩
    low := ⟨below, exponent - 2⟩
    high := ⟨4 * mantissa + 2, exponent - 2⟩
    closed := mantissa % 2 = 0 }

def Rounding.holds (r : Rounding) (d : Nat) (k : Int) : Bool :=
  let low := r.low.compareDecimal d k
  let high := r.high.compareDecimal d k
  (low == .lt || r.closed && low == .eq) && (high == .gt || r.closed && high == .eq)

/-- Of the two decimals of step `10 ^ k` next to the value, the nearer one that is read back as it.
A tie goes to the even one. -/
def Rounding.decimalAt? (r : Rounding) (k : Int) : Option Nat :=
  let d := r.value.floorAt k
  match r.holds d k, r.holds (d + 1) k with
  | true, true =>
    match (Binary.mk (2 * r.value.mantissa) r.value.exponent).compareDecimal (2 * d + 1) k with
    | .lt => some d
    | .gt => some (d + 1)
    | .eq => some (if d % 2 = 0 then d else d + 1)
  | true, false => some d
  | false, true => some (d + 1)
  | false, false => none

/-- The coarsest step from `10 ^ k` down at which a decimal is read back as the value. -/
def Rounding.shortest (r : Rounding) : Nat → Int → Nat × Int
  | 0, k => (r.value.floorAt k, k)
  | n + 1, k =>
    match r.decimalAt? k with
    | some d => if d = 0 then r.shortest n (k - 1) else (d, k)
    | none => r.shortest n (k - 1)

def dropZeros : Nat → Nat × Int → Nat × Int
  | 0, r => r
  | n + 1, (d, k) => if d != 0 && d % 10 = 0 then dropZeros n (d / 10, k + 1) else (d, k)

def zeros (n : Nat) : String := String.ofList (List.replicate n '0')

/-- Writes `d * 10 ^ k`: positionally from `10 ^ -5` up to `10 ^ 16`, and otherwise with an
exponent. -/
def decimalText (d : Nat) (k : Int) : String :=
  let digits := toString d
  let n : Int := digits.length
  let point := n + k
  if 0 ≤ k ∧ point ≤ 16 then digits ++ zeros k.toNat ++ ".0"
  else if 0 < point ∧ point ≤ 16 then
    String.ofList (digits.toList.take point.toNat) ++ "."
      ++ String.ofList (digits.toList.drop point.toNat)
  else if -5 < point ∧ point ≤ 0 then "0." ++ zeros (-point).toNat ++ digits
  else
    let e := point - 1
    let head := String.ofList (digits.toList.take 1)
    let tail := digits.toList.drop 1
    head ++ (if tail.isEmpty then "" else "." ++ String.ofList tail)
      ++ "e" ++ (if e < 0 then "-" else "+") ++ toString e.natAbs

/-- The shortest decimal that is read back as a finite double. -/
def floatText (x : Float) : String :=
  let bits := x.toBits.toNat
  let sign := if bits / Nat.pow 2 63 = 1 then "-" else ""
  let field := bits / Nat.pow 2 52 % Nat.pow 2 11
  let fraction := bits % Nat.pow 2 52
  if field = 0 ∧ fraction = 0 then sign ++ "0.0"
  else
    let (d, k) := dropZeros 400 ((Rounding.ofFields fraction field).shortest 700 309)
    sign ++ decimalText d k

end SchemaSieve.Text
