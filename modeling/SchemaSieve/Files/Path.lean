import SchemaSieve.Text.Quoted

/-!
# Paths

Paths with slashes, their components, and where a backup of a file goes.
-/

namespace SchemaSieve

/-- A path as it is written, with slashes between its parts. -/
structure Path where
  text : String
  deriving DecidableEq, Repr

namespace Path

/-- The parts of a path that mean something: doubled and final slashes do not, and a single dot only
at the beginning of a relative path. -/
inductive Component where
  | root
  | current
  | parent
  | normal (name : String)
  deriving DecidableEq, Repr

/-- The pieces between slashes. The first argument holds the current piece in reverse. -/
def splitSlashes : List Char → List Char → List (List Char)
  | piece, [] => [piece.reverse]
  | piece, c :: cs =>
    if c = '/' then piece.reverse :: splitSlashes [] cs else splitSlashes (c :: piece) cs

/-- The pieces of the text of a path. There is always a first one; it is empty in an absolute path.
-/
def pieces (p : Path) : List String := (splitSlashes [] p.text.toList).map String.ofList

def componentOf? (piece : String) : Option Component :=
  if piece = "" ∨ piece = "." then none
  else if piece = ".." then some .parent
  else some (.normal piece)

def components (p : Path) : List Component :=
  match p.pieces with
  | [] => []
  | [piece] => if piece = "." then [.current] else (componentOf? piece).toList
  | piece :: more =>
    let head := if piece = "" then [.root] else if piece = "." then [.current]
      else (componentOf? piece).toList
    head ++ more.filterMap componentOf?

/-- The pieces, in reverse, without those at the end that mean nothing. The first piece stays. -/
def dropIdle : List String → List String
  | piece :: more :: ps =>
    if piece = "" ∨ piece = "." then dropIdle (more :: ps) else piece :: more :: ps
  | ps => ps

def isNormal (piece : String) : Bool := piece != "" && piece != "." && piece != ".."

def fileName? (p : Path) : Option String :=
  match dropIdle p.pieces.reverse with
  | piece :: _ => if isNormal piece then some piece else none
  | [] => none

def parentPieces (p : Path) : List String :=
  (dropIdle ((dropIdle p.pieces.reverse).drop 1)).reverse

def withFileName (p : Path) (name : String) : Path :=
  match p.parentPieces with
  | [] => ⟨name⟩
  | ps => ⟨"/".intercalate (ps ++ [name])⟩

/-- What is put before the name of a file in the name of its backup. -/
def backupMark : String := ".bk."

/-- The path of the backup of a file, beside the file. There is none if the path has no name at its
end. -/
def backup? (p : Path) : Option Path :=
  p.fileName?.map fun name => p.withFileName (backupMark ++ name)

def quoted (p : Path) : String := Text.quoted p.text

end Path

end SchemaSieve
