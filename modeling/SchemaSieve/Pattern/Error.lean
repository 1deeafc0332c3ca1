import SchemaSieve.Pattern.Span
import SchemaSieve.Text.Lines

/-!
# Faults in patterns

Why a pattern is refused, and how the fault is shown: the lines of the pattern with carets below
the faulty places.
-/

namespace SchemaSieve.Pattern

open Text

inductive Cause where
  | classEscapeInvalid
  | classRangeInvalid
  | classRangeLiteral
  | classUnclosed
  | decimalInvalid
  | escapeHexEmpty
  | escapeHexInvalid
  | escapeHexInvalidDigit
  | escapeUnexpectedEnd
  | escapeUnrecognized
  | flagDanglingNegation
  | flagDuplicate
  | flagRepeatedNegation
  | flagUnexpectedEnd
  | flagUnrecognized
  | groupNameDuplicate
  | groupNameEmpty
  | groupNameInvalid
  | groupNameUnexpectedEnd
  | groupUnclosed
  | groupUnopened
  | nestLimitExceeded (limit : Nat)
  | repetitionCountInvalid
  | repetitionCountEmpty
  | repetitionCountUnclosed
  | repetitionMissing
  | wordBoundaryUnclosed
  | wordBoundaryUnrecognized
  | wordBoundaryUnexpectedEnd
  | unicodeClassInvalid
  | backreferenceUnsupported
  | lookAroundUnsupported
  | unicodeNotAllowed
  | invalidUtf8
  | propertyNotFound
  | propertyValueNotFound
  deriving DecidableEq, Repr

def Cause.text : Cause → String
  | classEscapeInvalid => "invalid escape sequence found in character class"
  | classRangeInvalid => "invalid character class range, the start must be <= the end"
  | classRangeLiteral => "invalid range boundary, must be a literal"
  | classUnclosed => "unclosed character class"
  | decimalInvalid => "decimal literal invalid"
  | escapeHexEmpty => "hexadecimal literal empty"
  | escapeHexInvalid => "hexadecimal literal is not a Unicode scalar value"
  | escapeHexInvalidDigit => "invalid hexadecimal digit"
  | escapeUnexpectedEnd => "incomplete escape sequence, reached end of pattern prematurely"
  | escapeUnrecognized => "unrecognized escape sequence"
  | flagDanglingNegation => "dangling flag negation operator"
  | flagDuplicate => "duplicate flag"
  | flagRepeatedNegation => "flag negation operator repeated"
  | flagUnexpectedEnd => "expected flag but got end of regex"
  | flagUnrecognized => "unrecognized flag"
  | groupNameDuplicate => "duplicate capture group name"
  | groupNameEmpty => "empty capture group name"
  | groupNameInvalid => "invalid capture group character"
  | groupNameUnexpectedEnd => "unclosed capture group name"
  | groupUnclosed => "unclosed group"
  | groupUnopened => "unopened group"
  | nestLimitExceeded limit =>
    "exceed the maximum number of nested parentheses/brackets (" ++ toString limit ++ ")"
  | repetitionCountInvalid => "invalid repetition count range, the start must be <= the end"
  | repetitionCountEmpty => "repetition quantifier expects a valid decimal"
  | repetitionCountUnclosed => "unclosed counted repetition"
  | repetitionMissing => "repetition operator missing expression"
  | wordBoundaryUnclosed =>
    "special word boundary assertion is either unclosed or contains an invalid character"
  | wordBoundaryUnrecognized => "unrecognized special word boundary assertion, "
    ++ "valid choices are: start, end, start-half or end-half"
  | wordBoundaryUnexpectedEnd => "found either the beginning of a special word boundary or a "
    ++ "bounded repetition on a \\b with an opening brace, but no closing brace"
  | unicodeClassInvalid => "invalid Unicode character class"
  | backreferenceUnsupported => "backreferences are not supported"
  | lookAroundUnsupported =>
    "look-around, including look-ahead and look-behind, is not supported"
  | unicodeNotAllowed => "Unicode not allowed here"
  | invalidUtf8 => "pattern can match invalid UTF-8"
  | propertyNotFound => "Unicode property not found"
  | propertyValueNotFound => "Unicode property value not found"

/-- A fault at a place of the pattern, with the earlier place that it clashes with, if any. -/
structure Fault where
  cause : Cause
  span : Span
  other? : Option Span := none
  deriving DecidableEq, Repr

def refuse {α : Type} (cause : Cause) (span : Span) : Except Fault α := .error ⟨cause, span, none⟩

namespace Fault

def spans (f : Fault) : List Span :=
  match f.other? with
  | none => [f.span]
  | some o => if f.span.before o then [f.span, o] else [o, f.span]

def blanks (n : Nat) : String := String.ofList (List.replicate n ' ')

/-- Carets under the columns of the spans, from column `from` on. -/
def carets (column : Nat) : List Span → String
  | [] => ""
  | s :: ss =>
    let start := max column s.start.column
    let width := max 1 (s.stop.column - s.start.column)
    blanks (start - column) ++ String.ofList (List.replicate width '^')
      ++ carets (start + width) ss

/-- How many digits the line numbers take; a pattern of one line has none. -/
def numberWidth (lineCount : Nat) : Nat :=
  if lineCount ≤ 1 then 0 else (toString lineCount).length

def margin (width line : Nat) : String :=
  if width = 0 then blanks 4
  else
    let n := toString line
    blanks (width - n.length) ++ n ++ ": "

/-- The lines of the pattern, each with the carets of the faults in it below. -/
def notate (f : Fault) (width : Nat) : Nat → List String → String
  | _, [] => ""
  | n, l :: ls =>
    let here := f.spans.filter fun s => s.isOneLine && s.start.line == n
    let notes :=
      if here.isEmpty then ""
      else blanks (if width = 0 then 4 else width + 2) ++ carets 1 here ++ "\n"
    margin width n ++ l ++ "\n" ++ notes ++ notate f width (n + 1) ls

def note (s : Span) : String :=
  s!"on line {s.start.line} (column {s.start.column}) through line {s.stop.line} (column "
    ++ toString (s.stop.column - 1) ++ ")\n"

def divider : String := String.ofList (List.replicate 79 '~') ++ "\n"

/-- The message of a fault: the pattern with its faulty places marked, and the cause. -/
def message (f : Fault) (pattern : String) : String :=
  let ls := lines pattern
  let lineCount := if pattern.toList.getLast? = some '\n' then ls.length + 1 else ls.length
  let notated := f.notate (numberWidth lineCount) 1 ls
  let heading := "regex parse error:\n"
  let verdict := "error: " ++ f.cause.text
  if pattern.toList.contains '\n' then
    heading ++ divider ++ notated ++ divider
      ++ String.join ((f.spans.filter (!·.isOneLine)).map note) ++ verdict
  else heading ++ notated ++ verdict

end Fault

end SchemaSieve.Pattern
