import SchemaSieve.Kind
import SchemaSieve.OrderedMap

/-!
# Descriptions

Texts for declarations and fields. Storing a text under a key that is there keeps the place of the
key.
-/

namespace SchemaSieve

/-- Texts to write above declarations and fields, by kind, name of the declaration and name of the
field. -/
structure Descriptions where
  entries : OrderedMap Kind (OrderedMap String (OrderedMap String String)) := ∅
  deriving DecidableEq

/-- One text with the key it is stored under. -/
structure DescriptionEntry where
  kind : Kind
  declaration : String
  field : String
  text : String
  deriving DecidableEq, Repr

namespace Descriptions

instance : Inhabited Descriptions := ⟨{}⟩

/-- The field name under which the text of the declaration itself is stored. -/
def nodeKey : String := "__node"

def insert (m : Descriptions) (kind : Kind) (declaration field text : String) : Descriptions :=
  ⟨m.entries.alter kind fun g =>
    (g.getD ∅).alter declaration fun fs => (fs.getD ∅).insert field text⟩

def insertNode (m : Descriptions) (kind : Kind) (declaration text : String) : Descriptions :=
  m.insert kind declaration nodeKey text

def fieldsOf? (m : Descriptions) (kind : Kind) (declaration : String) :
    Option (OrderedMap String String) :=
  (m.entries.find? kind).bind (·.find? declaration)

def field? (m : Descriptions) (kind : Kind) (declaration field : String) : Option String :=
  (m.fieldsOf? kind declaration).bind (·.find? field)

theorem field?_insert (m : Descriptions) (kind kind' : Kind)
    (declaration declaration' field field' text : String) :
    (m.insert kind declaration field text).field? kind' declaration' field'
      = if kind = kind' ∧ declaration = declaration' ∧ field = field' then some text
        else m.field? kind' declaration' field' := by
  simp only [field?, fieldsOf?, insert, OrderedMap.alter, OrderedMap.find?_insert]
  by_cases hkind : kind = kind'
  · subst hkind
    by_cases hdeclaration : declaration = declaration'
    · subst hdeclaration
      cases hgroup : m.entries.find? kind with
      | none => simp
      | some group => cases hfields : group.find? declaration <;> simp [hfields]
    · cases hgroup : m.entries.find? kind <;> simp [hdeclaration]
  · simp [hkind]

def node? (m : Descriptions) (kind : Kind) (declaration : String) : Option String :=
  m.field? kind declaration nodeKey

def isEmpty (m : Descriptions) : Bool :=
  m.entries.values.all fun g => g.values.all OrderedMap.isEmpty

def toList (m : Descriptions) : List DescriptionEntry :=
  m.entries.entries.flatMap fun g => g.2.entries.flatMap fun fs =>
    fs.2.entries.map fun e => ⟨g.1, fs.1, e.1, e.2⟩

/-- The texts of fields, without those of declarations. -/
def fieldEntries (m : Descriptions) : List DescriptionEntry :=
  m.toList.filter fun e => e.field != nodeKey

def ofList (es : List DescriptionEntry) : Descriptions :=
  es.foldl (fun m e => m.insert e.kind e.declaration e.field e.text) {}

end Descriptions

end SchemaSieve
