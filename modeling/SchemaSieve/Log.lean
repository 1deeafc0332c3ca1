import SchemaSieve.Text.Visible

/-!
# Log records

What is told of a run besides its result.
-/

namespace SchemaSieve

/-- How much a log record matters, the weightiest first. -/
inductive LogLevel where
  | warn
  | info
  | debug
  | trace
  deriving DecidableEq, Repr

namespace LogLevel

def rank : LogLevel → Nat
  | warn => 0
  | info => 1
  | debug => 2
  | trace => 3

def name : LogLevel → String
  | warn => "warn"
  | info => "info"
  | debug => "debug"
  | trace => "trace"

/-- Whether a log kept at level `limit` takes records of level `l`. -/
def admits (limit l : LogLevel) : Bool := l.rank ≤ limit.rank

end LogLevel

structure LogRecord where
  level : LogLevel
  text : String
  deriving DecidableEq, Repr

def LogRecord.shown (r : LogRecord) : String := Text.visible r.text

end SchemaSieve
