import SchemaSieve.Files.Path

/-!
# Access to files

The operations on files that the program needs, as a class: they run on real files, or on a
`Store` that is a plain value.
-/

namespace SchemaSieve

inductive AccessError where
  | notFound
  | notADirectory
  | isADirectory
  | nameTooLong
  | zeroInName
  | notRegular
  | notText
  | other (text : String)
  deriving DecidableEq, Repr

def AccessError.text : AccessError → String
  | notFound => "No such file or directory (os error 2)"
  | notADirectory => "Not a directory (os error 20)"
  | isADirectory => "Is a directory (os error 21)"
  | nameTooLong => "File name too long (os error 36)"
  | zeroInName => "file name contained an unexpected NUL byte"
  | notRegular => "the source path is neither a regular file nor a symlink to a regular file"
  | notText => "stream did not contain valid UTF-8"
  | other text => text

/-- Access to files by their paths. -/
class Files (m : Type → Type) where
  pathExists : Path → m Bool
  isFile : Path → m Bool
  read : Path → m (Except AccessError ByteArray)
  /-- Copies a file to a path, over the file that is there. -/
  copy : Path → Path → m (Except AccessError Unit)
  /-- Writes a file, over the one that is there. -/
  write : Path → ByteArray → m (Except AccessError Unit)

namespace Files

variable {m : Type → Type} [Monad m] [Files m]

def readText (p : Path) : m (Except AccessError String) := do
  match ← read p with
  | .error e => return .error e
  | .ok bytes =>
    match String.fromUTF8? bytes with
    | some s => return .ok s
    | none => return .error .notText

end Files

end SchemaSieve
