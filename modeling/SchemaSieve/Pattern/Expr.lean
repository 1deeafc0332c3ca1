import SchemaSieve.Pattern.Span

/-!
# Written patterns

The parts of a pattern as they are written, each with its span.
-/

namespace SchemaSieve.Pattern

/-- A character of the pattern that stands for itself. One written `\xNN` stands for a byte where
Unicode is off. -/
structure Literal where
  span : Span
  char : Char
  isByte : Bool := false
  deriving Repr

/-- The classes `\d`, `\s` and `\w`. -/
inductive Shorthand where
  | digit
  | space
  | word
  deriving DecidableEq, Repr

/-- The classes that are written `[:name:]` inside brackets. -/
inductive AsciiClass where
  | alnum
  | alpha
  | ascii
  | blank
  | cntrl
  | digit
  | graph
  | lower
  | print
  | punct
  | space
  | upper
  | word
  | xdigit
  deriving DecidableEq, Repr

def AsciiClass.ofName? : String → Option AsciiClass
  | "alnum" => some alnum
  | "alpha" => some alpha
  | "ascii" => some ascii
  | "blank" => some blank
  | "cntrl" => some cntrl
  | "digit" => some digit
  | "graph" => some graph
  | "lower" => some lower
  | "print" => some print
  | "punct" => some punct
  | "space" => some space
  | "upper" => some upper
  | "word" => some word
  | "xdigit" => some xdigit
  | _ => none

/-- What `\p` asks for: a property by its name, or a value of one. -/
inductive PropertyQuery where
  | named (name : String)
  | valued (name value : String)
  deriving DecidableEq, Repr

inductive SetOp where
  | inter
  | diff
  | symmDiff
  deriving DecidableEq, Repr

/-- What stands between the brackets of a class. -/
inductive ClassSet where
  | empty (span : Span)
  | literal (l : Literal)
  | range (span : Span) (first last : Literal)
  | ascii (span : Span) (name : AsciiClass) (negated : Bool)
  | property (span : Span) (query : PropertyQuery) (negated : Bool)
  | shorthand (span : Span) (name : Shorthand) (negated : Bool)
  | bracketed (span : Span) (negated : Bool) (set : ClassSet)
  | union (span : Span) (items : List ClassSet)
  | binary (span : Span) (op : SetOp) (lhs rhs : ClassSet)
  deriving Repr

def ClassSet.span : ClassSet → Span
  | empty s => s
  | literal l => l.span
  | range s .. => s
  | ascii s .. => s
  | property s .. => s
  | shorthand s .. => s
  | bracketed s .. => s
  | union s .. => s
  | binary s .. => s

inductive Assertion where
  | startLine
  | endLine
  | startText
  | endText
  | wordBoundary
  | notWordBoundary
  | wordStart
  | wordEnd
  | wordStartHalf
  | wordEndHalf
  deriving DecidableEq, Repr

/-- The flags that a group turns on or off; the others stay as they are. -/
structure FlagChange where
  ignoreCase? : Option Bool := none
  multiLine? : Option Bool := none
  dotAll? : Option Bool := none
  swapGreed? : Option Bool := none
  unicode? : Option Bool := none
  crlf? : Option Bool := none
  verbose? : Option Bool := none
  deriving DecidableEq, Repr

inductive Expr where
  | empty (span : Span)
  | flags (span : Span) (change : FlagChange)
  | literal (l : Literal)
  | dot (span : Span)
  | assertion (span : Span) (a : Assertion)
  | property (span : Span) (query : PropertyQuery) (negated : Bool)
  | shorthand (span : Span) (name : Shorthand) (negated : Bool)
  | bracketed (span : Span) (negated : Bool) (set : ClassSet)
  | repetition (span : Span) (min : Nat) (max : Option Nat) (e : Expr)
  | group (span : Span) (captures : Bool) (change : FlagChange) (e : Expr)
  | alternation (span : Span) (es : List Expr)
  | concat (span : Span) (es : List Expr)
  deriving Repr

def Expr.span : Expr → Span
  | empty s => s
  | flags s _ => s
  | literal l => l.span
  | dot s => s
  | assertion s _ => s
  | property s .. => s
  | shorthand s .. => s
  | bracketed s .. => s
  | repetition s .. => s
  | group s .. => s
  | alternation s _ => s
  | concat s _ => s

end SchemaSieve.Pattern
