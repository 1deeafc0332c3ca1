import SchemaSieve.Declaration
import SchemaSieve.OrderedMap

/-!
# Schemas

The declarations of a document by kind and name, with the lines that belong to none of them.
-/

namespace SchemaSieve

/-- A schema document: its declarations by kind and name, and the lines kept beside them. -/
structure Schema where
  groups : OrderedMap Kind (OrderedMap String Declaration) := ∅
  /-- The comments ahead of all other content. -/
  header : List String := []
  scalars : List String := []
  /-- The lines left over behind the last declaration. -/
  trailing : List String := []
  deriving DecidableEq

namespace Schema

instance : Inhabited Schema := ⟨{}⟩

def declarations (s : Schema) : List Declaration := s.groups.values.flatMap OrderedMap.values

def size (s : Schema) : Nat := s.groups.values.foldl (fun n g => n + g.size) 0

def isEmpty (s : Schema) : Bool := s.size = 0

def find? (s : Schema) (kind : Kind) (name : String) : Option Declaration :=
  (s.groups.find? kind).bind (·.find? name)

/-- Stores a declaration in the place named by a kind and a name, which need not be its own. -/
def put (s : Schema) (kind : Kind) (name : String) (d : Declaration) : Schema :=
  { s with groups := s.groups.alter kind fun g => (g.getD ∅).insert name d }

/-- Stores a declaration under its kind and name. One that was there gives way and leaves its place
in the order. -/
def insert (s : Schema) (d : Declaration) : Schema := s.put d.kind d.name d

/-- Overwrites the declaration stored under a kind and a name, if there is one. -/
def replace? (s : Schema) (kind : Kind) (name : String) (d : Declaration) : Option Schema :=
  (s.find? kind name).map fun _ => s.put kind name d

/-- Visits the declarations in order, carrying a state along, and replaces each by what `f`
returns. -/
def mapAccum {σ : Type} (s : Schema) (f : σ → Declaration → Declaration × σ) (init : σ) :
    Schema × σ :=
  let r := s.groups.mapAccum (fun st g => g.mapAccum f st) init
  ({ s with groups := r.1 }, r.2)

/-- Equality that disregards the order of kinds and of declarations. -/
def equiv (a b : Schema) : Bool :=
  a.groups.sameEntries (fun g h => g.sameEntries (fun d e => d == e) h) b.groups
    && a.header == b.header && a.scalars == b.scalars && a.trailing == b.trailing

end Schema

end SchemaSieve
