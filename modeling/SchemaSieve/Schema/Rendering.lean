import SchemaSieve.Schema
import SchemaSieve.Schema.Captions
import SchemaSieve.Schema.EmptyInput

/-!
# Writing documents

From a schema to a text: a list of lines, each ended by a line break, from which an empty input is
cut.
-/

namespace SchemaSieve

open Text

/-- How a schema is written. With `preserving`, the header and the scalars come first, the trailing
lines last, and no scalar is repeated among other lines. -/
structure Layout extends Captions where
  preserving : Bool := false
  deriving DecidableEq

namespace Schema

def isHoisted (s : Schema) (layout : Layout) (line : String) : Bool :=
  layout.preserving && s.scalars.contains line

def declarationLines (s : Schema) (layout : Layout) (d : Declaration) : List String :=
  "" :: (layout.descriptionLines d).filter (!s.isHoisted layout ·)
    ++ d.header :: d.additions ++ layout.fieldLines d ++ ["\x7d"]

def leadingLines (s : Schema) (layout : Layout) : List String :=
  if layout.preserving then s.header ++ s.scalars else []

def trailingLines (s : Schema) (layout : Layout) : List String :=
  if layout.preserving then
    match s.trailing.filter (!s.isHoisted layout ·) with
    | [] => []
    | ls => "" :: ls
  else []

/-- All lines of the document, an empty one ahead of each declaration. -/
def documentLines (s : Schema) (layout : Layout) : List String :=
  s.leadingLines layout ++ s.declarations.flatMap (s.declarationLines layout)
    ++ s.trailingLines layout

/-- The text of the document before an empty input is taken out. -/
def assemble (s : Schema) (layout : Layout) : String := unlines (s.documentLines layout)

def dropLineBreaks (text : String) : String := String.ofList (text.toList.dropWhile (· == '\n'))

/-- The text of a schema: its document without the first empty input and without leading line
breaks. -/
def render (s : Schema) (layout : Layout) : String :=
  dropLineBreaks (EmptyInput.remove (s.assemble layout))

end Schema

end SchemaSieve
