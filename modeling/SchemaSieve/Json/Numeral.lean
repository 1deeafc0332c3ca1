import SchemaSieve.Json.Scan

/-!
# Numbers of JSON

Numbers that fit a word are exact and all others are doubles. A double is made of the leading
digits that fit a word, scaled by a power of ten.
-/

namespace SchemaSieve.Json

open Scan

def maxWord : Nat := 0xFFFFFFFFFFFFFFFF

def maxExponent : Nat := 0x7FFFFFFF

def skipDigits : Nat → Scan Nat
  | 0 => return 0
  | n + 1 => do
    match ← peek with
    | some x =>
      if x.isDigit then
        advance
        return (← skipDigits n) + 1
      else return 0
    | none => return 0

def remaining : Scan Nat := do return (← get).rest.length + 1

def digitOf (c : Char) : Nat := c.toNat - '0'.toNat

/-- Takes digits as long as the number made of them and of `n` fits a word. Returns it with the
count of the digits taken. -/
def takeDigits : Nat → Nat → Nat → Scan (Nat × Nat)
  | 0, n, taken => return (n, taken)
  | k + 1, n, taken => do
    match ← peek with
    | some x =>
      if x.isDigit ∧ n * 10 + digitOf x ≤ maxWord then
        advance
        takeDigits k (n * 10 + digitOf x) (taken + 1)
      else return (n, taken)
    | none => return (n, taken)

/-- Scales by a power of ten, in steps that a double can hold. -/
def scale : Nat → Float → Int → Scan Float
  | 0, x, _ => return x
  | k + 1, x, e =>
    if e.natAbs ≤ 308 then
      let power := Float.ofScientific 1 false e.natAbs
      if 0 ≤ e then
        let y := x * power
        if y.isInf then failHere .numberOutOfRange else return y
      else return x / power
    else if x == 0.0 then return x
    else if 0 ≤ e then failHere .numberOutOfRange
    else scale k (x / 1e308) (e + 308)

def assemble (positive : Bool) (n : Nat) (e : Int) : Scan Number := do
  let x ← scale (e.natAbs / 308 + 2) (Float.ofNat n) e
  return .float (if positive then x else -x)

/-- Reads an exponent from its letter on. -/
def readExponent (positive : Bool) (n : Nat) (e : Int) : Scan Number := do
  advance
  let up ← match ← peek with
    | some '+' => do
      advance
      pure true
    | some '-' => do
      advance
      pure false
    | _ => pure true
  match ← peek with
  | none => failHere .endInValue
  | some x =>
    if !x.isDigit then failNext .invalidNumber
    else
      let (value, tooLong) ← takeExponent (← remaining) 0
      if tooLong then
        if n ≠ 0 ∧ up then failHere .numberOutOfRange
        else
          let _ ← skipDigits (← remaining)
          return .float (if positive then 0.0 else -0.0)
      else assemble positive n (if up then e + value else e - value)
where
  /-- Takes the digits up to the one, which is taken as well, with which the exponent is too long.
  -/
  takeExponent : Nat → Nat → Scan (Nat × Bool)
    | 0, m => return (m, false)
    | k + 1, m => do
      match ← peek with
      | some x =>
        if x.isDigit then
          advance
          if maxExponent < m * 10 + digitOf x then return (m, true)
          else takeExponent k (m * 10 + digitOf x)
        else return (m, false)
      | none => return (m, false)

def readScaled (positive : Bool) (n : Nat) (e : Int) : Scan Number := do
  match ← peek with
  | some 'e' => readExponent positive n e
  | some 'E' => readExponent positive n e
  | _ => assemble positive n e

/-- Reads the digits behind a decimal point, from the point on. Those that do not fit a word are
passed over. -/
def readFraction (positive : Bool) (n : Nat) (e : Int) : Scan Number := do
  advance
  let (n', taken) ← takeDigits (← remaining) n 0
  let dropped ← skipDigits (← remaining)
  if taken + dropped = 0 then
    match ← peek with
    | some _ => failNext .invalidNumber
    | none => failNext .endInValue
  else readScaled positive n' (e - taken)

def readTail (positive : Bool) (n : Nat) : Scan Number := do
  match ← peek with
  | some '.' => readFraction positive n 0
  | some 'e' => readExponent positive n 0
  | some 'E' => readExponent positive n 0
  | _ =>
    if positive then return .nat n
    else if n ≠ 0 ∧ n ≤ Nat.pow 2 63 then return .negative n
    else return .float (-(Float.ofNat n))

def readNumber (positive : Bool) : Scan Number := do
  match ← peek with
  | none => failHere .endInValue
  | some '0' =>
    advance
    match ← peek with
    | some x => if x.isDigit then failNext .invalidNumber else readTail positive 0
    | none => readTail positive 0
  | some x =>
    if !x.isDigit then failNext .invalidNumber
    else
      let (n, _) ← takeDigits (← remaining) 0 0
      let dropped ← skipDigits (← remaining)
      if dropped = 0 then readTail positive n
      else
        match ← peek with
        | some '.' => readFraction positive n dropped
        | _ => readScaled positive n dropped

end SchemaSieve.Json
