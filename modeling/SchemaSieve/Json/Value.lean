import SchemaSieve.Json.Literal
import SchemaSieve.Json.Numeral

/-!
# Values of JSON

Arrays, objects, values of any form, and what is said of a value where another one is expected.
-/

namespace SchemaSieve.Json

open Scan

def startValue : Scan Unit := do
  skipBlanks
  if (← peek).isNone then failNext .endInValue

/-- Whether an array has one more item, and if so leads to it. -/
def nextItem (isFirst : Bool) : Scan Bool := do
  skipBlanks
  match ← peek with
  | none => failNext .endInArray
  | some ']' => return false
  | some x =>
    if isFirst then return true
    else if x = ',' then
      advance
      skipBlanks
      match ← peek with
      | none => failNext .endInValue
      | some ']' => failNext .trailingComma
      | some _ => return true
    else failNext .expectedArrayCommaOrEnd

def closeArray : Scan Unit := do
  skipBlanks
  match ← peek with
  | none => failNext .endInArray
  | some ']' => advance
  | some ',' =>
    advance
    skipBlanks
    if (← peek) = some ']' then failNext .trailingComma else failNext .trailingCharacters
  | some _ => failNext .trailingCharacters

/-- Whether an object has one more key, and if so leads to its opening quote. -/
def nextKey (isFirst : Bool) : Scan Bool := do
  skipBlanks
  match ← peek with
  | none => failNext .endInObject
  | some '\x7d' => return false
  | some x =>
    if isFirst then if x = '"' then return true else failNext .keyMustBeString
    else if x = ',' then
      advance
      skipBlanks
      match ← peek with
      | none => failNext .endInValue
      | some '"' => return true
      | some '\x7d' => failNext .trailingComma
      | some _ => failNext .keyMustBeString
    else failNext .expectedObjectCommaOrEnd

def closeObject : Scan Unit := do
  skipBlanks
  match ← peek with
  | none => failNext .endInObject
  | some '\x7d' => advance
  | some ',' => failNext .trailingComma
  | some _ => failNext .trailingCharacters

def readColon : Scan Unit := do
  skipBlanks
  match ← peek with
  | none => failNext .endInObject
  | some ':' => advance
  | some _ => failNext .expectedColon

def array {α : Type} (depth : Nat) (body : Nat → Scan α) : Scan α :=
  descend depth fun depth => do
    advance
    closedBy closeArray (body depth)

def object {α : Type} (depth : Nat) (body : Nat → Scan α) : Scan α :=
  descend depth fun depth => do
    advance
    closedBy closeObject (body depth)

/-- Reads the items of an array. Every turn takes at least one character. -/
def readItems {α : Type} (item : Scan α) : Nat → Bool → Scan (List α)
  | 0, _ => return []
  | n + 1, isFirst => do
    if ← nextItem isFirst then return (← item) :: (← readItems item n false) else return []

def items {α : Type} (item : Scan α) : Scan (List α) := do readItems item (← remaining) true

/-- Reads the members of an object one after another into a state. -/
def readMembers {σ : Type} (member : String → σ → Scan σ) : Nat → Bool → σ → Scan σ
  | 0, _, s => return s
  | n + 1, isFirst, s => do
    if ← nextKey isFirst then readMembers member n false (← member (← readString) s) else return s

def members {σ : Type} (member : String → σ → Scan σ) (s : σ) : Scan σ := do
  readMembers member (← remaining) true s

/-- A value as far as a reader may look at it before it knows what it is. -/
inductive Value where
  | string (s : String)
  | array (vs : List Value)
  | other

def readValue : Nat → Scan Value
  | 0 => failNext .tooDeep
  | depth + 1 => do
    startValue
    let word (w : String) : Scan Value := do
      advance
      readWord w.toList
      return .other
    match ← peek with
    | some 'n' => word "ull"
    | some 't' => word "rue"
    | some 'f' => word "alse"
    | some '"' => return .string (← readString)
    | some '[' =>
      if depth = 0 then failNext .tooDeep
      else
        advance
        closedBy closeArray do return .array (← items (readValue depth))
    | some '\x7b' =>
      if depth = 0 then failNext .tooDeep
      else
        advance
        closedBy closeObject <| members (fun _ v => do
          readColon
          let _ ← readValue depth
          return v) .other
    | some '-' =>
      advance
      let _ ← readNumber false
      return .other
    | some x =>
      if x.isDigit then
        let _ ← readNumber true
        return .other
      else failNext .expectedValue
    | none => failNext .endInValue

/-- Refuses the value that comes next, since something else is expected. -/
def mismatch {α : Type} (expected : String) : Scan α := located do
  let refuse (f : Found) : Scan α := reject (.invalidType f expected)
  match ← peek with
  | some 'n' => do
    advance
    readWord "ull".toList
    refuse .null
  | some 't' => do
    advance
    readWord "rue".toList
    refuse (.bool true)
  | some 'f' => do
    advance
    readWord "alse".toList
    refuse (.bool false)
  | some '-' => do
    advance
    refuse (.number (← readNumber false))
  | some '"' => do refuse (.string (← readString))
  | some '[' => refuse .array
  | some '\x7b' => refuse .object
  | some x => do
    if x.isDigit then refuse (.number (← readNumber true)) else failNext .expectedValue
  | none => failNext .expectedValue

def readAll {α : Type} (value : Scan α) (text : String) : Except Error α :=
  let scan : Scan α := do
    let a ← value
    skipBlanks
    if (← peek).isSome then failNext .trailingCharacters else return a
  (scan.run.run { rest := text.toList }).1

end SchemaSieve.Json
