import SchemaSieve.Command.Help
import SchemaSieve.Config.File
import SchemaSieve.Sifting
import SchemaSieve.Text.Blank

/-!
# Runs of the program

From a command line to what the program prints, its log and its exit code. Files are reached
through `Files` alone, so a run on a `Store` is a function of the arguments and of the store.
-/

namespace SchemaSieve.Command

open Text

/-- What a run of the program leaves behind, its files aside. -/
structure Outcome where
  exitCode : UInt32 := 0
  stdout : String := ""
  stderr : String := ""
  log : List LogRecord := []
  deriving DecidableEq

inductive Report where
  | rendered (schema : String)
  | written (file : Sifted)
  | failed (message : String)
  deriving DecidableEq, Repr

def checkMark : String := "\x1b[32m\u2714\x1b[0m"

def crossMark : String := "\x1b[31m\u2718\x1b[0m"

def Report.outcome : Report → Outcome
  | rendered schema => { stdout := schema }
  | written file =>
    { stdout := checkMark ++ s!" Wrote filtered schema to {file.target.quoted}.\n"
        ++ String.join (file.backup?.toList.map fun b =>
          s!"  * Backed up the previous output to {b.quoted}.\n") }
  | failed message => { exitCode := 1, stderr := crossMark ++ " " ++ message ++ "\n" }

/-- The level to log at: a verbose run logs at `debug`, and otherwise the environment decides. A
word that is no level is warned of. -/
def logLevel (verbose : Bool) (setting? : Option String) : LogLevel × List LogRecord :=
  if verbose then (.debug, [])
  else
    match setting?.map trim with
    | none => (.info, [])
    | some word =>
      if ["DEBUG", "debug", "VERBOSE", "verbose"].contains word then (.debug, [])
      else if ["INFO", "info"].contains word then (.info, [])
      else if ["TRACE", "trace"].contains word then (.trace, [])
      else if ["WARN", "warn"].contains word then (.warn, [])
      else (.info, [⟨.warn, s!"Invalid `LOG_LEVEL` environment variable value: `{word}`"⟩])

def levelRecord (l : LogLevel) : LogRecord :=
  ⟨.trace, s!"Initial logging level set to `{l.name.toUpper}`."⟩

def noConfigRecord : LogRecord := ⟨.debug, "No --config given; running without filters."⟩

variable {m : Type → Type} [Monad m] [Files m]

namespace FilterCall

def loadConfig (call : FilterCall) : m (Logged ConfigError Config) :=
  match call.config? with
  | some path => Config.load path
  | none => return { result := .ok {}, log := [noConfigRecord] }

def startRecord (call : FilterCall) (job : Job) : LogRecord :=
  ⟨.debug, s!"Running {job.filters.length} filters over {call.source.quoted}."⟩

def failedToFilter (call : FilterCall) (message : String) : Report :=
  .failed (s!"failed to filter {call.source.quoted}: " ++ message)

/-- Sifts the source without writing anything. -/
def rehearse (call : FilterCall) (job : Job) : m (Report × List LogRecord) := do
  match ← Files.readSource call.source with
  | .error e => return (.failed e.message, [])
  | .ok content =>
    let sifted := job.sift content
    match sifted.result with
    | .error e => return (call.failedToFilter e.message, sifted.log)
    | .ok text => return (.rendered text, sifted.log)

def perform (call : FilterCall) (job : Job) : m (Report × List LogRecord) := do
  let sifted ← job.siftFile call.source call.target
  match sifted.result with
  | .error e => return (call.failedToFilter e.message, sifted.log)
  | .ok file => return (.written file, sifted.log)

def run (call : FilterCall) : m (Report × List LogRecord) := do
  let config ← call.loadConfig
  match config.result with
  | .error e => return (.failed ("invalid filter configuration: " ++ e.message), config.log)
  | .ok c =>
    let job := c.job call.preserve call.logRemovals
    let (report, log) ← if call.dryRun then call.rehearse job else call.perform job
    return (report, config.log ++ call.startRecord job :: log)

end FilterCall

/-- Keeps the records that a log of a level takes, those of its own beginning included. -/
def startLog (verbose : Bool) (setting? : Option String) (log : List LogRecord) :
    List LogRecord :=
  let (level, warnings) := logLevel verbose setting?
  (levelRecord level :: warnings ++ log).filter fun r => level.admits r.level

def Invocation.run (setting? : Option String) : Invocation → m Outcome
  | .help topic => return { stdout := topic.text }
  | .version => return { stdout := versionText }
  | .bare verbose => return { stdout := programHelp, log := startLog verbose setting? [] }
  | .filter call verbose => do
    let (report, log) ← call.run
    return { report.outcome with log := startLog verbose setting? log }

/-- Runs the program with its arguments and the log level that the environment sets. -/
def run (arguments : List String) (setting? : Option String) : m Outcome :=
  match Invocation.ofArguments arguments with
  | .ok i => i.run setting?
  | .error e => return { exitCode := 2, stderr := s!"error: {e.message}\n" }

end SchemaSieve.Command
