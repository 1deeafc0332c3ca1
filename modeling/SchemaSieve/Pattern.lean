import SchemaSieve.Pattern.Meaning
import SchemaSieve.Pattern.Reading
import SchemaSieve.Pattern.Search
import SchemaSieve.Pattern.Weight

/-!
# Patterns

Text patterns: from what is written to a test that looks for a match anywhere in a text. A pattern
that would take too much room is refused.
-/

namespace SchemaSieve

structure Pattern where
  source : String
  node : Pattern.Node

namespace Pattern

inductive CompileError where
  | fault (pattern : String) (f : Fault)
  | tooLarge
  deriving DecidableEq, Repr

def CompileError.message : CompileError → String
  | fault pattern f => f.message pattern
  | tooLarge => s!"Compiled regex exceeds size limit of {weightLimit} bytes."

def compileNode (source : String) : Except Fault Node := do
  let e ← Expr.ofText source
  return (← Node.ofExpr {} e).1

def compile (source : String) : Except CompileError Pattern :=
  match compileNode source with
  | .error f => .error (.fault source f)
  | .ok node => if weightLimit < node.totalWeight then .error .tooLarge else .ok ⟨source, node⟩

def isMatch (p : Pattern) (text : String) : Bool := p.node.occursIn text.toList

/-- A pattern that matches exactly the given text. -/
def escape (text : String) : String :=
  String.ofList (text.toList.flatMap fun c => if isMeta c then ['\\', c] else [c])

end Pattern

end SchemaSieve
