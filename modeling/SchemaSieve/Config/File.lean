import SchemaSieve.Config.Reading
import SchemaSieve.Files.Output

/-!
# Configuration files

Reading a configuration from a file, and what can go wrong with it.
-/

namespace SchemaSieve

inductive ConfigError where
  | invalid (path : Path) (message : String)
  | unreadable (path : Path) (e : AccessError)
  deriving DecidableEq, Repr

def ConfigError.message : ConfigError → String
  | invalid p message => s!"invalid filter config {p.quoted}: {message}"
  | unreadable p e => s!"failed to read filter config {p.quoted}: {e.text}"

namespace Config

/-- Reads a configuration. The path only tells where it comes from. -/
def ofFileText (path : Path) (text : String) : Except ConfigError Config :=
  match ofText text with
  | .ok c => .ok c
  | .error e => .error (.invalid path e.message)

def loadedRecord (path : Path) (c : Config) : LogRecord :=
  ⟨.debug, s!"Loaded {c.rules.length} filter specs from {path.quoted}."⟩

def load {m : Type → Type} [Monad m] [Files m] (path : Path) : m (Logged ConfigError Config) := do
  match ← Files.readText path with
  | .error e => return { result := .error (.unreadable path e) }
  | .ok text =>
    match ofFileText path text with
    | .error e => return { result := .error e }
    | .ok c => return { result := .ok c, log := [loadedRecord path c] }

end Config

end SchemaSieve
