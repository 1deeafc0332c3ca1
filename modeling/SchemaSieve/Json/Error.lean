import SchemaSieve.Text.Decimal
import SchemaSieve.Text.Quoted

/-!
# Faults in JSON texts

Why a JSON text is refused, and where. Lines are counted in line breaks and columns in bytes.
-/

namespace SchemaSieve.Json

open Text

inductive Number where
  | nat (n : Nat)
  | negative (n : Nat)
  | float (x : Float)

/-- What stands in a place where something else is expected. -/
inductive Found where
  | null
  | bool (b : Bool)
  | number (n : Number)
  | string (s : String)
  | array
  | object

def Found.text : Found → String
  | null => "null"
  | bool b => s!"boolean `{b}`"
  | number (.nat n) => s!"integer `{n}`"
  | number (.negative n) => s!"integer `-{n}`"
  | number (.float x) => "floating point `" ++ floatText x ++ "`"
  | string s => "string " ++ quoted s
  | array => "sequence"
  | object => "map"

inductive Cause where
  | endInArray
  | endInObject
  | endInString
  | endInValue
  | expectedColon
  | expectedArrayCommaOrEnd
  | expectedObjectCommaOrEnd
  | expectedLiteral
  | expectedValue
  | invalidEscape
  | invalidNumber
  | numberOutOfRange
  | controlCharacter
  | keyMustBeString
  | loneSurrogate
  | unexpectedEndOfEscape
  | trailingComma
  | trailingCharacters
  | tooDeep
  | invalidType (found : Found) (expected : String)
  | invalidLength (length : Nat) (expected : String)
  | unknownField (name : String) (known : List String)
  | unknownVariant (name : String) (known : List String)
  | duplicateField (name : String)
  | refused (reason : String)

def expectedNames (names : List String) : String :=
  match names.map fun n => "`" ++ n ++ "`" with
  | [] => "there are no fields"
  | [a] => "expected " ++ a
  | [a, b] => "expected " ++ a ++ " or " ++ b
  | ns => "expected one of " ++ ", ".intercalate ns

def Cause.text : Cause → String
  | endInArray => "EOF while parsing a list"
  | endInObject => "EOF while parsing an object"
  | endInString => "EOF while parsing a string"
  | endInValue => "EOF while parsing a value"
  | expectedColon => "expected `:`"
  | expectedArrayCommaOrEnd => "expected `,` or `]`"
  | expectedObjectCommaOrEnd => "expected `,` or `\x7d`"
  | expectedLiteral => "expected ident"
  | expectedValue => "expected value"
  | invalidEscape => "invalid escape"
  | invalidNumber => "invalid number"
  | numberOutOfRange => "number out of range"
  | controlCharacter =>
    "control character (\\u0000-\\u001F) found while parsing a string"
  | keyMustBeString => "key must be a string"
  | loneSurrogate => "lone leading surrogate in hex escape"
  | unexpectedEndOfEscape => "unexpected end of hex escape"
  | trailingComma => "trailing comma"
  | trailingCharacters => "trailing characters"
  | tooDeep => "recursion limit exceeded"
  | invalidType found expected => "invalid type: " ++ found.text ++ ", expected " ++ expected
  | invalidLength n expected => s!"invalid length {n}, expected " ++ expected
  | unknownField name known => s!"unknown field `{name}`, " ++ expectedNames known
  | unknownVariant name known => s!"unknown variant `{name}`, " ++ expectedNames known
  | duplicateField name => s!"duplicate field `{name}`"
  | refused reason => reason

/-- A place in a JSON text. Lines count from one; the column is the number of bytes of the line that
come before. -/
structure Place where
  line : Nat
  column : Nat
  deriving DecidableEq, Repr

/-- A fault, and where it is once that is known. -/
structure Error where
  cause : Cause
  place? : Option Place := none

def Error.message (e : Error) : String :=
  match e.place? with
  | some p => e.cause.text ++ s!" at line {p.line} column {p.column}"
  | none => e.cause.text

end SchemaSieve.Json
