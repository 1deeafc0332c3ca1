import SchemaSieve.Declaration
import SchemaSieve.Matcher
import SchemaSieve.Signature

/-!
# Filters

What a filter may do to the fields of the declarations that it is for. A test or an edit that is
given from outside may fail with a reason.
-/

namespace SchemaSieve

/-- What a filter may look at in one field. -/
structure Field where
  kind : Kind
  declaration : String
  line : String
  deriving DecidableEq, Repr

namespace Field

def signature (f : Field) : Signature := Signature.ofField f.line

end Field

/-- Selects fields by the name in their signature or by their whole line. The exception holds
against both. -/
structure Selector where
  fieldName : Option Matcher := none
  line : Option Matcher := none
  exception : Option Matcher := none

namespace Selector

def selects (s : Selector) (f : Field) : Bool :=
  accepts s.fieldName f.signature.name s.exception || accepts s.line f.line s.exception

end Selector

/-- Decides on a field, or fails with a reason. -/
inductive FieldTest where
  | selector (s : Selector)
  | custom (decide : Field → Except String Bool)

def FieldTest.run (f : Field) : FieldTest → Except String Bool
  | selector s => .ok (s.selects f)
  | custom decide => decide f

/-- Makes a new line of a field, or fails with a reason. -/
inductive Edit where
  | wrap (above below : Option String)
  | custom (make : Field → Except String String)

/-- Puts lines above and below a line. Empty parts are left out. -/
def Edit.wrapped (above below : Option String) (line : String) : String :=
  "\n".intercalate ((above.toList ++ line :: below.toList).filter (· != ""))

def Edit.run (f : Field) : Edit → Except String String
  | wrap above below => .ok (Edit.wrapped above below f.line)
  | custom make => make f

inductive Action where
  /-- Adds a line ahead of the fields. -/
  | add (line : String)
  /-- Puts a description above the fields selected. -/
  | describe (selector : Selector) (text : String)
  /-- Removes the fields for which the test is true, or with `invert` all others. -/
  | remove (invert : Bool) (test : FieldTest)
  /-- Edits the fields selected. -/
  | edit (selector : Selector) (e : Edit)

namespace Action

def descriptionLine (text : String) : String := "  \"\"\"" ++ text ++ "\"\"\""

def selects (f : Field) : Action → Except String Bool
  | add _ => .ok false
  | describe s _ => .ok (s.selects f)
  | remove _ test => test.run f
  | edit s _ => .ok (s.selects f)

/-- Turns a removal of the fields selected into one of all others, and back. -/
def inverted : Action → Action
  | remove invert test => remove (!invert) test
  | a => a

end Action

structure Filter where
  action : Action
  kind : Option Kind := none
  label : Option String := none
  name : Option Matcher := none
  nameException : Option Matcher := none

namespace Filter

def inverted (f : Filter) : Filter := { f with action := f.action.inverted }

/-- Whether the filter is for a declaration. Without a name it is for all names but the excepted. -/
def appliesTo (f : Filter) (kind : Kind) (name : String) : Bool :=
  f.kind.all (· = kind) &&
    match f.name with
    | some m => accepts (some m) name f.nameException
    | none => !f.nameException.any (·.isMatch name)

/-- Whether the filter is for the declaration of a field, and its action about the field. -/
def matchesField (f : Filter) (field : Field) : Except String Bool :=
  if f.appliesTo field.kind field.declaration then f.action.selects field else .ok false

end Filter

end SchemaSieve
