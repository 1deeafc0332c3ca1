import SchemaSieve.Config
import SchemaSieve.Json.Value

/-!
# Reading configurations

The JSON form of a configuration. Records may be written as objects or as arrays of their fields,
and a fault is told with the place that the reader has reached.
-/

namespace SchemaSieve

open Json Json.Scan

namespace Json

/-- How deep the values of a JSON text may be nested. -/
def depthLimit : Nat := 128

def readBool : Scan Bool := located do
  startValue
  match ← peek with
  | some 't' => do
    advance
    readWord "rue".toList
    return true
  | some 'f' => do
    advance
    readWord "alse".toList
    return false
  | _ => mismatch "a boolean"

def readText : Scan String := do
  startValue
  if (← peek) = some '"' then readString else mismatch "a string"

def readOption {α : Type} (value : Scan α) : Scan (Option α) := do
  skipBlanks
  if (← peek) = some 'n' then
    advance
    readWord "ull".toList
    return none
  else return some (← value)

def readNull : Scan Unit := do
  startValue
  if (← peek) = some 'n' then
    advance
    readWord "ull".toList
  else mismatch "unit"

def readArray {α : Type} (depth : Nat) (item : Nat → Scan α) : Scan (List α) := do
  startValue
  if (← peek) = some '[' then array depth fun depth => items (item depth)
  else mismatch "a sequence"

/-- An object read as a map. A repeated key keeps its place and takes the last value. -/
def readMap {α β : Type} [DecidableEq α] (depth : Nat) (key : Scan α) (value : Nat → Scan β) :
    Scan (OrderedMap α β) := do
  startValue
  if (← peek) = some '\x7b' then object depth fun depth => do entries depth (← remaining) true ∅
  else mismatch "a map"
where
  entries (depth : Nat) : Nat → Bool → OrderedMap α β → Scan (OrderedMap α β)
    | 0, _, m => return m
    | n + 1, isFirst, m => do
      if ← nextKey isFirst then
        let k ← key
        readColon
        entries depth n false (m.insert k (← value depth))
      else return m

/-- A form of record: its name, its fields in order, and those of them that may be missing where the
record is written as an array. -/
structure RecordForm where
  name : String
  fields : List String
  optional : List String

def RecordForm.isField (r : RecordForm) (name : String) : Bool := r.fields.contains name

/-- Reads a record written as an object: each field once at most, and no other. -/
def readFields {σ : Type} (form : RecordForm) (field : String → σ → Scan σ) (s : σ) : Scan σ := do
  return (← members (fun name (seen, s) => do
    if !form.isField name then reject (.unknownField name form.fields)
    else if seen.contains name then reject (.duplicateField name)
    else
      readColon
      return (name :: seen, ← field name s)) (([] : List String), s)).2

/-- Reads a record written as an array: the fields in their order. -/
def readRow {σ : Type} (form : RecordForm) (field : String → σ → Scan σ) :
    List String → Nat → σ → Scan σ
  | [], _, s => return s
  | name :: names, i, s => do
    if ← nextItem (i = 0) then readRow form field names (i + 1) (← field name s)
    else if form.optional.contains name then readRow form field names (i + 1) s
    else reject (.invalidLength i
      s!"struct {form.name} with {form.fields.length} elements")

def readRecord {σ : Type} (form : RecordForm) (depth : Nat) (field : Nat → String → σ → Scan σ)
    (s : σ) : Scan σ := do
  startValue
  match ← peek with
  | some '[' => array depth fun depth => readRow form (field depth) form.fields 0 s
  | some '\x7b' => object depth fun depth => readFields form (field depth) s
  | _ => mismatch ("struct " ++ form.name)

end Json

namespace Kind

def keywords : List String := ["enum", "input", "interface", "type"]

def readName : Scan Kind := located do
  startValue
  if (← peek) = some '"' then
    let name ← readString
    match ofKeyword? name with
    | some kind => return kind
    | none => reject (.unknownVariant name keywords)
  else mismatch "variant identifier"

/-- Reads a kind: its name, or an object that has `null` under the name. -/
def read (depth : Nat) : Scan Kind := do
  startValue
  match ← peek with
  | some '"' => readName
  | some '\x7b' =>
    let kind ← descend depth fun _ => do
      advance
      let kind ← readName
      readColon
      readNull
      return kind
    skipBlanks
    match ← peek with
    | some '\x7d' =>
      advance
      return kind
    | some _ => failHere .expectedValue
    | none => failHere .endInObject
  | _ => failNext .expectedValue

end Kind

namespace Matcher

def texts? : List Value → Option (List String)
  | [] => some []
  | .string s :: vs => (texts? vs).map (s :: ·)
  | _ :: _ => none

/-- Reads a matcher: a pattern, or an array of texts. -/
def read (depth : Nat) : Scan Matcher := do
  let noMatcher : Scan Matcher :=
    reject (.refused "data did not match any variant of untagged enum MatcherSpec")
  match ← readValue depth with
  | .string source =>
    match ofPattern source with
    | .ok m => return m
    | .error e => reject (.refused (s!"invalid pattern `{source}`: " ++ e.message))
  | .array vs =>
    match texts? vs with
    | some texts => return ofTexts texts
    | none => noMatcher
  | .other => noMatcher

end Matcher

def Surround.form : RecordForm where
  name := "TransformSpec"
  fields := ["append", "prepend"]
  optional := []

def Surround.read (depth : Nat) : Scan Surround :=
  readRecord form depth (fun _ name s => do
    if name = "append" then return { s with append := ← readOption readText }
    else return { s with prepend := ← readOption readText }) {}

namespace Rule

def form : RecordForm where
  name := "FilterSpec"
  fields := ["add", "except", "exceptName", "fieldName", "invert", "type", "label", "line", "name",
    "transformField"]
  optional := ["invert"]

def readField (depth : Nat) (name : String) (r : Rule) : Scan Rule := do
  match name with
  | "add" => return { r with add := ← readOption readText }
  | "except" => return { r with except := ← readOption (Matcher.read depth) }
  | "exceptName" => return { r with exceptName := ← readOption (Matcher.read depth) }
  | "fieldName" => return { r with fieldName := ← readOption (Matcher.read depth) }
  | "invert" => return { r with invert := ← readBool }
  | "type" => return { r with kind := ← readOption (Kind.read depth) }
  | "label" => return { r with label := ← readOption readText }
  | "line" => return { r with line := ← readOption (Matcher.read depth) }
  | "name" => return { r with name := ← readOption (Matcher.read depth) }
  | _ => return { r with surround := ← readOption (Surround.read depth) }

def read (depth : Nat) : Scan Rule := readRecord form depth readField {}

end Rule

def Descriptions.read (depth : Nat) : Scan Descriptions := do
  return ⟨← readMap depth (Kind.read depth) fun depth =>
    readMap depth readString fun depth => readMap depth readString fun _ => readText⟩

namespace Config

def form : RecordForm where
  name := "FilterConfig"
  fields := ["descriptions", "filters", "removeCommaInDescription"]
  optional := ["descriptions", "filters", "removeCommaInDescription"]

def readField (depth : Nat) (name : String) (c : Config) : Scan Config := do
  match name with
  | "descriptions" => return { c with descriptions := ← Descriptions.read depth }
  | "filters" => return { c with rules := ← readArray depth Rule.read }
  | _ => return { c with stripCommas := ← readBool }

def ofText (text : String) : Except Json.Error Config :=
  readAll (readRecord form depthLimit readField {}) text

end Config

end SchemaSieve
