import SchemaSieve.Log
import SchemaSieve.Schema
import SchemaSieve.Schema.Block

/-!
# Reading documents

From a text to a schema, line by line. The items of a text come in the order of its lines.
-/

namespace SchemaSieve

open Text

/-- What the lines read so far leave behind for the lines to come. -/
structure Reader where
  lineCount : Nat := 0
  /-- Whether a line other than a blank or a comment has come. -/
  inBody : Bool := false
  place : Place := .outside []
  deriving DecidableEq, Repr

namespace Reader

/-- Reads a line that is neither blank nor a comment, the `n`-th of the text. -/
def visitBody (n : Nat) (line : String) (p : Place) : Place × List Item :=
  match LineClass.ofLine line with
  | .opener => p.openBlock n line
  | .closer => p.closeBlock n
  | _ => (p.addPlain line, [])

def step (r : Reader) (line : String) : Reader × List Item :=
  let n := r.lineCount + 1
  match LineClass.ofLine line with
  | .blank => ({ r with lineCount := n }, [])
  | .comment =>
    if r.inBody then ({ r with lineCount := n, place := r.place.describe line }, [])
    else ({ r with lineCount := n }, [.header line])
  | _ =>
    let scalars := if LineClass.isScalar line then [.scalar line] else []
    let moved := visitBody n line r.place
    (⟨n, true, moved.1⟩, scalars ++ moved.2)

def run (r : Reader) : List String → Reader × List Item
  | [] => (r, [])
  | line :: lines =>
    let here := r.step line
    let later := run here.1 lines
    (later.1, here.2 ++ later.2)

end Reader

def Item.ofText (content : String) : List Item :=
  let r := Reader.run {} (lines content)
  r.2 ++ r.1.place.finish

namespace Schema

def add (s : Schema) : Item → Schema
  | .header line => { s with header := s.header ++ [line] }
  | .scalar line => { s with scalars := s.scalars ++ [line] }
  | .declaration d => s.insert d
  | .trailing line => { s with trailing := s.trailing ++ [line] }
  | .remark _ => s

def ofItems (items : List Item) : Schema := items.foldl add {}

/-- Reads a schema document. Every text is one: blocks that are not closed or of no kind are left
out. -/
def ofText (content : String) : Schema := ofItems (Item.ofText content)

end Schema

namespace Remark

def level : Remark → LogLevel
  | indexed .. => .trace
  | _ => .debug

def text : Remark → String
  | discarded kind name n =>
    s!"Discarding unterminated `{kind.keyword} {name}` declaration (line {n})."
  | unrecognized n text => s!"Unrecognized declaration header on line {n}: `{text}`"
  | closedInArguments name n =>
    s!"Declaration `{name}` closed inside an open argument list (line {n})."
  | dropped n => s!"Dropping block without a recognized kind (closed on line {n})."
  | indexed kind name => s!"Indexed `{kind.keyword} {name}`."
  | leftOpen name => s!"Discarding `{name}` declaration left open at end of input."

def record (r : Remark) : LogRecord := ⟨r.level, r.text⟩

end Remark

def Item.record? : Item → Option LogRecord
  | .remark r => some r.record
  | _ => none

def Schema.readingLog (content : String) : List LogRecord :=
  (Item.ofText content).filterMap Item.record?

end SchemaSieve
