import SchemaSieve.ArgumentList
import SchemaSieve.Declaration
import SchemaSieve.Descriptions
import SchemaSieve.Text.Lines

/-!
# Descriptions in documents

Where descriptions stand among the lines of a declaration. No text is ever put inside an open
argument list.
-/

namespace SchemaSieve

open Text

/-- How descriptions are written into a schema document. -/
structure Captions where
  descriptions : Descriptions := {}
  stripCommas : Bool := true
  deriving DecidableEq

namespace Captions

def tripleQuote : String := "\"\"\""

/-- A text between triple quotes, with a blank ahead of it. -/
def quote (stripCommas : Bool) (text : String) : String :=
  tripleQuote ++ " "
    ++ (if stripCommas then String.ofList (text.toList.filter (· != ',')) else text)
    ++ tripleQuote

def bodyLine (c : Captions) (text : String) : String := "  " ++ quote c.stripCommas text

/-- The text of an indented comment, if the line is one. -/
def comment? (line : String) : Option String :=
  match (trim line).toList with
  | '#' :: cs => some (String.ofList cs)
  | _ => none

/-- The text that belongs above a line, as the field it begins is called. -/
def textFor? (texts : OrderedMap String String) (line : String) : Option String :=
  match leadingToken line with
  | some (name, _) =>
    if name = Descriptions.nodeKey then none else (texts.find? name).filter (· != "")
  | none => none

/-- What a line is written as, given whether an argument list is open before it. -/
def captionedLine (c : Captions) (texts : OrderedMap String String) (isOpen : Bool)
    (line : String) : List String :=
  match comment? line with
  | some text => [c.bodyLine text]
  | none =>
    match if isOpen then none else textFor? texts line with
    | some text => [c.bodyLine text, line]
    | none => [line]

/-- Whether an argument list is open after a line. Comments leave that as it is. -/
def track (isOpen : Bool) (line : String) : Bool :=
  if (comment? line).isSome then isOpen else ArgumentList.next isOpen line

def captionedLines (c : Captions) (texts : OrderedMap String String) :
    Bool → List String → List String
  | _, [] => []
  | isOpen, line :: lines =>
    c.captionedLine texts isOpen line ++ c.captionedLines texts (track isOpen line) lines

/-- The lines of the fields: comments become descriptions, and texts stand above the fields they
describe. -/
def fieldLines (c : Captions) (d : Declaration) : List String :=
  c.captionedLines ((c.descriptions.fieldsOf? d.kind d.name).getD ∅) false
    (d.fields.flatMap lines)

/-- The lines above the opening line: the text stored for the declaration, or else its own. -/
def descriptionLines (c : Captions) (d : Declaration) : List String :=
  match (c.descriptions.node? d.kind d.name).filter (· != "") with
  | some text => [quote c.stripCommas text]
  | none => d.description.filter (· != "")

end Captions

end SchemaSieve
