import SchemaSieve.Filter
import SchemaSieve.Log
import SchemaSieve.Schema
import SchemaSieve.Text.Blank

/-!
# Running filters

Filters run over each declaration one after another, and each sees the fields as those before it
left them. The first failure ends the run; `Progress` holds what was removed up to there.
-/

namespace SchemaSieve

open Text

/-- A field that a filter took away, as it was at that time. -/
structure Removal where
  filterIndex : Nat
  label : Option String
  kind : Kind
  declaration : String
  line : String
  deriving DecidableEq, Repr

/-- A filter that could not decide on a field. -/
structure Failure where
  filterIndex : Nat
  label : Option String
  kind : Kind
  declaration : String
  reason : String
  deriving DecidableEq, Repr

def labelSuffix (label : Option String) : String :=
  match label with
  | some l => " (" ++ l ++ ")"
  | none => ""

def Failure.message (f : Failure) : String :=
  s!"filter #{f.filterIndex}" ++ labelSuffix f.label
    ++ s!" failed on `{f.kind.keyword} {f.declaration}`: {f.reason}"

def Removal.message (r : Removal) : String :=
  s!"Filter #{r.filterIndex}" ++ labelSuffix r.label
    ++ s!" removed `{trim r.line}` from `{r.kind.keyword} {r.declaration}`."

/-- Removals are told at level `info` if they are to be logged, and for tracing otherwise. -/
def Removal.record (logged : Bool) (r : Removal) : LogRecord :=
  ⟨if logged then .info else .trace, r.message⟩

namespace Filter

/-- Edits lines one by one. A failure leaves the line it is about and all later ones as they
were. -/
def editLines (edit : String → Except String (Option String)) :
    List String → List String × Option String
  | [] => ([], none)
  | l :: ls =>
    match edit l with
    | .error reason => (l :: ls, some reason)
    | .ok new? =>
      let rest := editLines edit ls
      (new?.getD l :: rest.1, rest.2)

/-- What a pass over the lines of a declaration took away and kept, and why it stopped, if it did
not come to their end. -/
structure Sorted where
  kept : List String := []
  removed : List String := []
  failure? : Option String := none
  deriving DecidableEq, Repr

def sortLines (removes : String → Except String Bool) : List String → Sorted
  | [] => {}
  | l :: ls =>
    match removes l with
    | .error reason => { failure? := some reason }
    | .ok b =>
      let rest := sortLines removes ls
      if b then { rest with removed := l :: rest.removed }
      else { rest with kept := l :: rest.kept }

structure Effect where
  declaration : Declaration
  removed : List String := []
  failure? : Option String := none
  deriving DecidableEq, Repr

def editFields (selector : Selector) (edit : Edit) (d : Declaration) : Effect :=
  let r := editLines (fun line =>
    let field : Field := ⟨d.kind, d.name, line⟩
    if selector.selects field then (edit.run field).map some else .ok none) d.fields
  { declaration := { d with fields := r.1 }, failure? := r.2 }

/-- Removes fields. A removal that fails leaves the declaration without any. -/
def removeFields (invert : Bool) (test : FieldTest) (d : Declaration) : Effect :=
  let r := sortLines (fun line => (test.run ⟨d.kind, d.name, line⟩).map (· == !invert)) d.fields
  { declaration := { d with fields := if r.failure?.isSome then [] else r.kept }
    removed := r.removed
    failure? := r.failure? }

def act (d : Declaration) : Action → Effect
  | .add line => { declaration := { d with additions := d.additions ++ [line] } }
  | .describe selector text =>
    editFields selector (.wrap (some (Action.descriptionLine text)) none) d
  | .remove invert test => removeFields invert test d
  | .edit selector edit => editFields selector edit d

def effect (f : Filter) (d : Declaration) : Effect :=
  if f.appliesTo d.kind d.name then act d f.action else { declaration := d }

end Filter

/-- What filters have taken away so far, and what stopped them. -/
structure Progress where
  removals : List Removal := []
  failure? : Option Failure := none
  deriving DecidableEq, Repr

namespace Pipeline

def note (p : Progress) (i : Nat) (f : Filter) (d : Declaration) (e : Filter.Effect) :
    Progress where
  removals := p.removals ++ e.removed.map fun line => ⟨i, f.label, d.kind, d.name, line⟩
  failure? := e.failure?.map fun reason => ⟨i, f.label, d.kind, d.name, reason⟩

/-- Runs filters over a declaration one after another, the first one having index `i`. -/
def runOn (i : Nat) : List Filter → Progress → Declaration → Declaration × Progress
  | [], p, d => (d, p)
  | f :: fs, p, d =>
    let e := f.effect d
    let p' := note p i f d e
    if p'.failure?.isSome then (e.declaration, p') else runOn (i + 1) fs p' e.declaration

/-- Runs filters over a declaration, unless a failure has stopped them before. -/
def visit (fs : List Filter) (p : Progress) (d : Declaration) : Declaration × Progress :=
  if p.failure?.isSome then (d, p) else runOn 0 fs p d

/-- Runs filters over every declaration in order. A failure ends the run where it happens. -/
def run (fs : List Filter) (s : Schema) : Schema × Progress := s.mapAccum (visit fs) {}

def apply (fs : List Filter) (s : Schema) : Except Failure Schema :=
  match run fs s with
  | (s', ⟨_, none⟩) => .ok s'
  | (_, ⟨_, some failure⟩) => .error failure

end Pipeline

end SchemaSieve
