import SchemaSieve.Text.Blank
import SchemaSieve.Text.Word

/-!
# Argument lists over several lines

A field such as `author(` may spread its arguments over the lines that follow. A list is open from
a line that begins with a word and `(` on, up to the first line with `): ` in it. Reader and
writer of documents both follow `ArgumentList.next`, but the writer takes comments out first.
-/

namespace SchemaSieve

open Text

/-- The word that begins a line, leading blanks aside, if a colon or an opening parenthesis follows
it, with that character. -/
def leadingToken (line : String) : Option (String × Char) :=
  let cs := (trim line).toList
  match cs.dropWhile isWord with
  | c :: _ => if c = ':' ∨ c = '(' then some (String.ofList (cs.takeWhile isWord), c) else none
  | [] => none

/-- Whether a closing parenthesis, a colon and a blank stand together. -/
def hasListEnd : List Char → Bool
  | ')' :: ':' :: c :: cs => isBlank c || hasListEnd (':' :: c :: cs)
  | _ :: cs => hasListEnd cs
  | [] => false

namespace ArgumentList

def opensAt (line : String) : Bool :=
  match leadingToken line with
  | some (_, c) => c = '('
  | none => false

def closesAt (line : String) : Bool := hasListEnd line.toList

/-- Whether a list is open after a line, given whether one was before it. -/
def next (isOpen : Bool) (line : String) : Bool := (isOpen || opensAt line) && !closesAt line

def openAfter (isOpen : Bool) (lines : List String) : Bool := lines.foldl next isOpen

end ArgumentList

end SchemaSieve
