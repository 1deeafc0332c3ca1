/-!
# Places in patterns

Positions and spans in the text of a pattern.
-/

namespace SchemaSieve.Pattern

/-- A place in a pattern. Lines and columns count characters from one. -/
structure Position where
  offset : Nat := 0
  line : Nat := 1
  column : Nat := 1
  deriving DecidableEq, Repr, Inhabited

def Position.after (p : Position) (c : Char) : Position :=
  if c = '\n' then ⟨p.offset + 1, p.line + 1, 1⟩ else ⟨p.offset + 1, p.line, p.column + 1⟩

structure Span where
  start : Position
  stop : Position
  deriving DecidableEq, Repr, Inhabited

namespace Span

def point (p : Position) : Span := ⟨p, p⟩

def isOneLine (s : Span) : Bool := s.start.line == s.stop.line

def before (a b : Span) : Bool :=
  a.start.offset < b.start.offset
    || a.start.offset == b.start.offset && a.stop.offset ≤ b.stop.offset

end Span

end SchemaSieve.Pattern
