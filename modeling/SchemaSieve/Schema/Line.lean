import SchemaSieve.Text.Blank
import SchemaSieve.Text.Lines

/-!
# Lines of a document

What a single line is to the blocks of a document, whatever stands around it.
-/

namespace SchemaSieve

open Text

/-- What a line of a schema document is to the blocks of the document. -/
inductive LineClass where
  | blank
  | comment
  | opener
  | closer
  | plain
  deriving DecidableEq, Repr

namespace LineClass

/-- Whether a line begins with `#`, without blanks before it. -/
def isComment (line : String) : Bool := line.toList.head? == some '#'

/-- Whether a line ends in an opening brace, blanks after it aside. -/
def isOpener (line : String) : Bool := (dropTrailing isBlank line.toList).getLast? == some '\x7b'

/-- Whether a line holds a closing brace ahead of any `#`. -/
def isCloser (line : String) : Bool := (line.toList.takeWhile (· != '#')).contains '\x7d'

def ofLine (line : String) : LineClass :=
  if isBlankText line then blank
  else if isComment line then comment
  else if isOpener line then opener
  else if isCloser line then closer
  else plain

def isScalar (line : String) : Bool := "scalar".toList.isPrefixOf line.toList

end LineClass

end SchemaSieve
