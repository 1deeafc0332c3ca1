import SchemaSieve.Json.Error

/-!
# Walking through a JSON text

A cursor that knows its line and column, and faults that are given a place as late as the value
around them allows.
-/

namespace SchemaSieve.Json

/-- The part of a JSON text that is still to be read, and the place where it begins. -/
structure Cursor where
  rest : List Char
  line : Nat := 1
  column : Nat := 0

namespace Cursor

def place (c : Cursor) : Place := ⟨c.line, c.column⟩

def next (c : Cursor) : Cursor :=
  match c.rest with
  | [] => c
  | x :: xs => if x = '\n' then ⟨xs, c.line + 1, 0⟩ else ⟨xs, c.line, c.column + x.utf8Size⟩

/-- The place behind the next `n` bytes, which may end inside a character. -/
def placeAfter (c : Cursor) : Nat → List Char → Place
  | _, [] => c.place
  | n, x :: xs =>
    if n = 0 then c.place
    else if n < x.utf8Size then ⟨c.line, c.column + n⟩
    else c.next.placeAfter (n - x.utf8Size) xs

def nextPlace (c : Cursor) : Place := c.placeAfter 1 c.rest

def skipBlanks (c : Cursor) : Cursor :=
  let rec go : List Char → Nat → Nat → Cursor
    | [], line, column => ⟨[], line, column⟩
    | x :: xs, line, column =>
      if x = '\n' then go xs (line + 1) 0
      else if x = ' ' ∨ x = '\t' ∨ x = '\r' then go xs line (column + 1)
      else ⟨x :: xs, line, column⟩
  go c.rest c.line c.column

end Cursor

/-- Reads from a JSON text. The place reached is kept when something is refused. -/
abbrev Scan := ExceptT Error (StateM Cursor)

namespace Scan

variable {α : Type}

def peek : Scan (Option Char) := do return (← get).rest.head?

def advance : Scan Unit := modify Cursor.next

def skipBlanks : Scan Unit := modify Cursor.skipBlanks

def failHere (cause : Cause) : Scan α := do throw ⟨cause, some (← get).place⟩

/-- Refuses the next character, or the end of the text. -/
def failNext (cause : Cause) : Scan α := do throw ⟨cause, some (← get).nextPlace⟩

/-- Refuses a value; the place is given by the value around it. -/
def reject (cause : Cause) : Scan α := throw ⟨cause, none⟩

/-- Gives a fault without a place the place that has been reached. -/
def located (body : Scan α) : Scan α := do
  try body catch e =>
    match e.place? with
    | some _ => throw e
    | none => failHere e.cause

/-- Reads a body and what closes it. The closing is tried when the body is refused as well, but the
first fault counts. -/
def closedBy (close : Scan Unit) (body : Scan α) : Scan α := located do
  let r ← try (do return Except.ok (← body)) catch e => pure (Except.error e)
  let closing ← try (do close; return Except.ok ()) catch e => pure (Except.error e)
  match r, closing with
  | .ok a, .ok () => return a
  | .error e, _ => throw e
  | _, .error e => throw e

/-- Goes one level deeper, unless that is too deep. -/
def descend (depth : Nat) (body : Nat → Scan α) : Scan α :=
  if depth ≤ 1 then failNext .tooDeep else body (depth - 1)

end Scan

end SchemaSieve.Json
