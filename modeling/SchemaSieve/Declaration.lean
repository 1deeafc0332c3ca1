import SchemaSieve.Kind

/-!
# Declarations

One declaration of a schema document and its opening line.
-/

namespace SchemaSieve

/-- A declaration `kind Name words {` with its body. A field whose argument list runs over several
lines takes one entry of `fields` per line. -/
structure Declaration where
  kind : Kind
  name : String
  description : List String := []
  /-- The words after the name in the opening line. -/
  clause : List String := []
  /-- Lines that filters add, written ahead of the fields. -/
  additions : List String := []
  fields : List String := []
  deriving DecidableEq, Repr

namespace Declaration

/-- The words after the name as they are written: interfaces after `implements` are joined by
`&`. -/
def clauseParts : List String → List String
  | "implements" :: i :: is => ["implements", " & ".intercalate (i :: is)]
  | ws => ws

def header (d : Declaration) : String :=
  " ".intercalate (d.kind.keyword :: d.name :: (clauseParts d.clause ++ ["\x7b"]))

end Declaration

end SchemaSieve
