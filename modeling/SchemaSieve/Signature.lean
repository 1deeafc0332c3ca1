import SchemaSieve.Text.Blank
import SchemaSieve.Text.Word

/-!
# Signatures of fields

The words around the first colon that a blank follows. In a field with arguments they are those of
the first argument.
-/

namespace SchemaSieve

open Text

/-- The words around the first colon of a field that a blank follows, such as `id: ID`. -/
structure Signature where
  name : String := ""
  definition : String := ""
  deriving DecidableEq, Repr

namespace Signature

/-- Looks for a colon with a blank after it. The first argument holds, in reverse, the word that
ends at the current place. -/
def scan : List Char → List Char → Option (List Char × List Char)
  | _, [] => none
  | run, ':' :: c :: cs =>
    if isBlank c then some (run.reverse, cs.takeWhile isWord) else scan [] (c :: cs)
  | run, c :: cs => scan (if isWord c then c :: run else []) cs

/-- Both words are empty in a field without such a colon. -/
def ofField (field : String) : Signature :=
  match scan [] field.toList with
  | some (name, definition) => ⟨String.ofList name, String.ofList definition⟩
  | none => {}

end Signature

end SchemaSieve
