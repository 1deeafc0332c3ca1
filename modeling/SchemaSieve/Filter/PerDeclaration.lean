import SchemaSieve.Descriptions
import SchemaSieve.Filter

/-!
# Filters made from a template

One filter for each of several declarations, and one for each description of a field.
-/

namespace SchemaSieve

/-- The part of a selector that a matcher is put into. -/
inductive SelectorSlot where
  | fieldName
  | line
  deriving DecidableEq, Repr

def Selector.fill (slot : SelectorSlot) (m : Matcher) (s : Selector) : Selector :=
  match slot with
  | .fieldName => { s with fieldName := some m }
  | .line => { s with line := some m }

/-- Puts a matcher into the selector of an action, if it has one. -/
def Action.fill (slot : SelectorSlot) (m : Matcher) : Action → Action
  | describe s text => describe (s.fill slot m) text
  | remove invert (.selector s) => remove invert (.selector (s.fill slot m))
  | edit s e => edit (s.fill slot m) e
  | a => a

namespace Filter

/-- The template for one declaration, an input unless the template is for another kind. -/
def forDeclaration (template : Filter) (slot : SelectorSlot) (declaration : String) (m : Matcher) :
    Filter :=
  { template with
    action := template.action.fill slot m
    kind := template.kind.or (some .input)
    name := some (Matcher.ofTexts [declaration]) }

def perDeclaration (template : Filter) (slot : SelectorSlot)
    (pairs : List (String × Matcher)) : List Filter :=
  pairs.map fun p => template.forDeclaration slot p.1 p.2

end Filter

/-- A filter that writes the text of an entry above its field. -/
def DescriptionEntry.toFilter (e : DescriptionEntry) : Filter where
  action := .describe { fieldName := some (Matcher.ofTexts [e.field]) } e.text
  kind := some e.kind
  name := some (Matcher.ofTexts [e.declaration])

/-- Filters that write descriptions of fields while the pipeline runs, so that later filters see
them. -/
def Descriptions.toFilters (m : Descriptions) : List Filter :=
  m.fieldEntries.map DescriptionEntry.toFilter

end SchemaSieve
