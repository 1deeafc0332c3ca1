import SchemaSieve.Json.Scan
import SchemaSieve.Text.Hex

/-!
# Words and strings of JSON

Reading `null`, `true` and `false`, and strings with their escapes.
-/

namespace SchemaSieve.Json

open Scan Text

def readWord : List Char → Scan Unit
  | [] => return
  | x :: xs => do
    match ← peek with
    | none => failHere .endInValue
    | some y =>
      advance
      if y = x then readWord xs else failHere .expectedLiteral

/-- Reads the four digits of an escape. They are taken as bytes before they are looked at. -/
def readHex4 : Scan Nat := do
  let c ← get
  match c.rest with
  | a :: b :: d :: e :: _ =>
    if [a, b, d, e].all isHexDigit then
      set c.next.next.next.next
      return numeral 16 [a, b, d, e]
    else refuseHex c
  | _ => refuseHex c
where
  refuseHex (c : Cursor) : Scan Nat :=
    if c.rest.foldl (fun n x => n + x.utf8Size) 0 < 4 then
      throw ⟨.endInString, some (c.placeAfter 4 c.rest)⟩
    else throw ⟨.invalidEscape, some (c.placeAfter 4 c.rest)⟩

/-- Takes the character that an escape of two parts goes on with. -/
def expectInEscape (x : Char) : Scan Unit := do
  match ← peek with
  | none => failHere .endInString
  | some y => if y = x then advance else failNext .unexpectedEndOfEscape

/-- Reads a character given by its code, or by two codes that make one character. -/
def readUnicode : Scan Char := do
  let n ← readHex4
  if 0xDC00 ≤ n ∧ n ≤ 0xDFFF then failHere .loneSurrogate
  else if n < 0xD800 ∨ 0xDBFF < n then return Char.ofNat n
  else
    expectInEscape '\\'
    expectInEscape 'u'
    let m ← readHex4
    if m < 0xDC00 ∨ 0xDFFF < m then failHere .loneSurrogate
    else return Char.ofNat ((n - 0xD800) * 0x400 + (m - 0xDC00) + 0x10000)

def readEscape : Scan Char := do
  match ← peek with
  | none => failHere .endInString
  | some x =>
    let simple (y : Char) : Scan Char := do
      advance
      return y
    match x with
    | '"' => simple '"'
    | '\\' => simple '\\'
    | '/' => simple '/'
    | 'b' => simple '\x08'
    | 'f' => simple '\x0c'
    | 'n' => simple '\n'
    | 'r' => simple '\r'
    | 't' => simple '\t'
    | 'u' => do
      advance
      readUnicode
    | _ => failNext .invalidEscape

/-- Reads on to the closing quote. Every turn takes at least one character. -/
def readStringAux : Nat → List Char → Scan String
  | 0, _ => failHere .endInString
  | n + 1, acc => do
    match ← peek with
    | none => failHere .endInString
    | some '"' =>
      advance
      return String.ofList acc.reverse
    | some '\\' =>
      advance
      readStringAux n ((← readEscape) :: acc)
    | some x =>
      advance
      if x.toNat < 0x20 then failHere .controlCharacter else readStringAux n (x :: acc)

def readString : Scan String := do
  advance
  readStringAux ((← get).rest.length + 1) []

end SchemaSieve.Json
