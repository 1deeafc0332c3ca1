import SchemaSieve.Files.Access
import SchemaSieve.Log

/-!
# Writing with backups

Schemas are read from files and written to files. What a file held before is copied beside it
first, and nothing is written if that fails.
-/

namespace SchemaSieve

inductive SourceError where
  | notAFile (path : Path)
  | notText (path : Path)
  | unreadable (path : Path) (e : AccessError)
  deriving DecidableEq, Repr

def SourceError.message : SourceError → String
  | notAFile p => s!"schema source {p.quoted} does not exist or is not a file"
  | notText p => s!"schema source {p.quoted} is not valid UTF-8"
  | unreadable p e => s!"failed to read schema source {p.quoted}: {e.text}"

inductive OutputError where
  | backupFailed (target backup : Path) (e : AccessError)
  | noFileName (target : Path)
  | writeFailed (target : Path) (e : AccessError)
  deriving DecidableEq, Repr

def OutputError.message : OutputError → String
  | backupFailed t b e => s!"failed to back up {t.quoted} to {b.quoted}: {e.text}"
  | noFileName t => s!"destination path {t.quoted} has no file name"
  | writeFailed t e => s!"failed to write {t.quoted}: {e.text}"

/-- A value or an error, with the log of the way to it. -/
structure Logged (ε α : Type) where
  result : Except ε α
  log : List LogRecord := []

namespace Files

variable {m : Type → Type} [Monad m] [Files m]

def readSource (source : Path) : m (Except SourceError String) := do
  if ← isFile source then
    match ← readText source with
    | .ok s => return .ok s
    | .error .notText => return .error (.notText source)
    | .error e => return .error (.unreadable source e)
  else return .error (.notAFile source)

def backupRecord (target backup : Path) : LogRecord :=
  ⟨.debug, s!"Backed up {target.quoted} to {backup.quoted}."⟩

/-- Copies what is at a path to its backup. If nothing is there, there is no backup. -/
def backUp (target : Path) : m (Except OutputError (Option Path)) := do
  if ← pathExists target then
    match target.backup? with
    | none => return .error (.noFileName target)
    | some backup =>
      match ← copy target backup with
      | .ok () => return .ok (some backup)
      | .error e => return .error (.backupFailed target backup e)
  else return .ok none

/-- Writes a text to a path, with a backup of the file that it replaces. -/
def writeWithBackup (target : Path) (text : String) :
    m (Logged OutputError (Option Path)) := do
  match ← backUp target with
  | .error e => return { result := .error e }
  | .ok backup? =>
    let log := backup?.toList.map (backupRecord target)
    match ← write target text.toUTF8 with
    | .ok () => return { result := .ok backup?, log }
    | .error e => return { result := .error (.writeFailed target e), log }

end Files

end SchemaSieve
