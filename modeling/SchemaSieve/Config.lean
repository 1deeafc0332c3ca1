import SchemaSieve.Descriptions
import SchemaSieve.Filter
import SchemaSieve.Schema.Rendering

/-!
# Configurations

A configuration is a list of rules with texts for descriptions. Each rule becomes at most two
filters: one that adds its line, and one for the fields that it selects.
-/

namespace SchemaSieve

structure Surround where
  append : Option String := none
  prepend : Option String := none
  deriving DecidableEq, Repr

/-- One rule of a configuration. It removes the fields it selects, or with `invert` all others, or
it surrounds them with lines; and it may add a line. -/
structure Rule where
  add : Option String := none
  except : Option Matcher := none
  exceptName : Option Matcher := none
  fieldName : Option Matcher := none
  invert : Bool := false
  kind : Option Kind := none
  label : Option String := none
  line : Option Matcher := none
  name : Option Matcher := none
  surround : Option Surround := none

namespace Rule

def selector (r : Rule) : Selector where
  fieldName := r.fieldName
  line := r.line
  exception := r.except

/-- Restricts an action to the declarations that the rule is for. -/
def filter (r : Rule) (action : Action) : Filter where
  action := action
  kind := r.kind
  label := r.label
  name := r.name
  nameException := r.exceptName

/-- What becomes of the fields. A rule that only adds a line removes nothing. -/
def fieldAction? (r : Rule) : Option Action :=
  match r.surround with
  | some s => some (.edit r.selector (.wrap s.prepend s.append))
  | none =>
    if r.add.isNone || r.fieldName.isSome || r.line.isSome || r.invert then
      some (.remove r.invert (.selector r.selector))
    else none

def filters (r : Rule) : List Filter :=
  ((r.add.map Action.add).toList ++ r.fieldAction?.toList).map r.filter

end Rule

structure Config where
  descriptions : Descriptions := {}
  rules : List Rule := []
  stripCommas : Bool := true

namespace Config

def filters (c : Config) : List Filter := c.rules.flatMap Rule.filters

def layout (c : Config) (preserving : Bool) : Layout where
  descriptions := c.descriptions
  stripCommas := c.stripCommas
  preserving := preserving

def isDefault (c : Config) : Bool :=
  c.rules.isEmpty && c.stripCommas && c.descriptions.entries.isEmpty

end Config

end SchemaSieve
