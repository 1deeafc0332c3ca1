import SchemaSieve.Pattern.Error
import SchemaSieve.Text.Blank

/-!
# Walking through a pattern

The rest of a pattern with its place, and what a verbose pattern passes over.
-/

namespace SchemaSieve.Pattern

open Text

/-- The part of a pattern that is still to be read. In verbose patterns blanks and comments between
its parts mean nothing. -/
structure Cursor where
  rest : List Char
  pos : Position := {}
  verbose : Bool := false
  deriving Repr

namespace Cursor

def isEnd (c : Cursor) : Bool := c.rest.isEmpty

def char? (c : Cursor) : Option Char := c.rest.head?

def sees (c : Cursor) (x : Char) : Bool := c.char? == some x

def next (c : Cursor) : Cursor :=
  match c.rest with
  | [] => c
  | x :: xs => { c with rest := xs, pos := c.pos.after x }

/-- Passes over blanks, and over comments from `#` to the end of the line. -/
def passBlanks : Bool → List Char → Position → List Char × Position
  | _, [], p => ([], p)
  | true, x :: xs, p => passBlanks (x != '\n') xs (p.after x)
  | false, x :: xs, p =>
    if isBlank x then passBlanks false xs (p.after x)
    else if x = '#' then passBlanks true xs (p.after x)
    else (x :: xs, p)

def skip (c : Cursor) : Cursor :=
  if c.verbose then
    let r := passBlanks false c.rest c.pos
    { c with rest := r.1, pos := r.2 }
  else c

def nextSkip (c : Cursor) : Cursor := c.next.skip

def peek? (c : Cursor) : Option Char := c.next.char?

/-- What stands behind the next character, blanks aside. A comment is passed over only up to its
first character that is no blank. -/
def peekPast : Bool → List Char → Option Char
  | _, [] => none
  | inComment, x :: xs =>
    if isBlank x then peekPast inComment xs
    else if !inComment && x = '#' then peekPast true xs
    else some x

def peekSkip? (c : Cursor) : Option Char :=
  if c.verbose then peekPast false c.next.rest else c.peek?

def advance (c : Cursor) : Nat → Cursor
  | 0 => c
  | n + 1 => c.next.advance n

/-- Behind a text, if the rest begins with it. -/
def pass? (c : Cursor) (text : String) : Option Cursor :=
  if text.toList.isPrefixOf c.rest then some (c.advance text.length) else none

def here (c : Cursor) : Span := Span.point c.pos

def charSpan (c : Cursor) : Span := ⟨c.pos, c.next.pos⟩

def since (c : Cursor) (start : Position) : Span := ⟨start, c.pos⟩

end Cursor

end SchemaSieve.Pattern
