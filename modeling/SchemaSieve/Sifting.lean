import SchemaSieve.Config
import SchemaSieve.Files.Output
import SchemaSieve.Pipeline
import SchemaSieve.Schema.Reading

/-!
# Sifting documents

Reading a document, filtering it and writing it, with the log of all that.
-/

namespace SchemaSieve

structure Job where
  filters : List Filter := []
  layout : Layout := {}
  logRemovals : Bool := false

def Config.job (c : Config) (preserving logRemovals : Bool) : Job where
  filters := c.filters
  layout := c.layout preserving
  logRemovals := logRemovals

def parsedRecord (s : Schema) : LogRecord := ⟨.debug, s!"Parsed {s.size} declarations."⟩

namespace Job

/-- The records of what the filters took away. -/
def removalLog (job : Job) (p : Progress) : List LogRecord :=
  p.removals.map (Removal.record job.logRemovals)

/-- Reads a schema document, filters it and writes it out again. -/
def sift (job : Job) (content : String) : Logged Failure String :=
  let schema := Schema.ofText content
  let (schema', progress) := Pipeline.run job.filters schema
  { result := match progress.failure? with
      | some failure => .error failure
      | none => .ok (schema'.render job.layout)
    log := Schema.readingLog content ++ parsedRecord schema :: job.removalLog progress }

end Job

inductive SiftError where
  | source (e : SourceError)
  | filter (e : Failure)
  | output (e : OutputError)
  deriving DecidableEq, Repr

def SiftError.message : SiftError → String
  | source e => e.message
  | filter e => e.message
  | output e => e.message

/-- The file that was written, and the backup of the one that it replaced. -/
structure Sifted where
  target : Path
  backup? : Option Path
  deriving DecidableEq, Repr

namespace Job

variable {m : Type → Type} [Monad m] [Files m]

def writtenRecord (source target : Path) : LogRecord :=
  ⟨.debug, s!"Wrote filtered schema from {source.quoted} to {target.quoted}."⟩

/-- Sifts a file into another one. Nothing is written before all else has succeeded. -/
def siftFile (job : Job) (source target : Path) : m (Logged SiftError Sifted) := do
  match ← Files.readSource source with
  | .error e => return { result := .error (.source e) }
  | .ok content =>
    let sifted := job.sift content
    match sifted.result with
    | .error e => return { result := .error (.filter e), log := sifted.log }
    | .ok text =>
      let written ← Files.writeWithBackup target text
      match written.result with
      | .error e => return { result := .error (.output e), log := sifted.log ++ written.log }
      | .ok backup? =>
        return {
          result := .ok ⟨target, backup?⟩
          log := sifted.log ++ written.log ++ [writtenRecord source target] }

end Job

end SchemaSieve
