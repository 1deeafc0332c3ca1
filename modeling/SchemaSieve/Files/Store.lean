import SchemaSieve.Files.Access
import SchemaSieve.OrderedMap

/-!
# A store of files

Directories and files as a value, with the rules by which a path leads to one of them.
-/

namespace SchemaSieve

inductive Entry where
  | directory
  | file (bytes : ByteArray)

instance : DecidableEq Entry
  | .directory, .directory => isTrue rfl
  | .directory, .file _ => isFalse nofun
  | .file _, .directory => isFalse nofun
  | .file a, .file b =>
    match a.instDecidableEq b with
    | isTrue h => isTrue (congrArg Entry.file h)
    | isFalse h => isFalse fun e => h (Entry.file.inj e)

/-- Where an entry is: the names from the root down to it. -/
abbrev Location := List String

/-- Directories and files. The root is always there. -/
structure Store where
  entries : OrderedMap Location Entry := ∅
  workingDirectory : Location := []
  deriving DecidableEq

namespace Store

instance : Inhabited Store := ⟨{}⟩

def find? (s : Store) (l : Location) : Option Entry :=
  if l = [] then some .directory else s.entries.find? l

def put (s : Store) (l : Location) (e : Entry) : Store :=
  { s with entries := s.entries.insert l e }

/-- The longest name and the longest path, in bytes. -/
def maxName : Nat := 255

def maxPath : Nat := 4095

/-- Goes on from a place by one piece of a path. -/
def walkPiece (s : Store) (l : Location) (piece : String) : Except AccessError Location :=
  if piece = "" then .ok l
  else
    match s.find? l with
    | some .directory =>
      if piece = "." then .ok l
      else if piece = ".." then .ok l.dropLast
      else if maxName < piece.utf8ByteSize then .error .nameTooLong
      else if (s.find? (l ++ [piece])).isSome then .ok (l ++ [piece])
      else .error .notFound
    | some (.file _) => .error .notADirectory
    | none => .error .notFound

def walk (s : Store) : Location → List String → Except AccessError Location
  | l, [] => .ok l
  | l, piece :: pieces => do s.walk (← s.walkPiece l piece) pieces

def start (s : Store) (p : Path) : Location :=
  if p.text.toList.head? = some '/' then [] else s.workingDirectory

def checkPath (p : Path) : Except AccessError Unit :=
  if p.text.toList.contains '\x00' then .error .zeroInName
  else if p.text = "" then .error .notFound
  else if maxPath < p.text.utf8ByteSize then .error .nameTooLong
  else .ok ()

/-- The place that a path leads to. A slash at the end asks for a directory. -/
def locate (s : Store) (p : Path) : Except AccessError Location := do
  checkPath p
  let l ← s.walk (s.start p) p.pieces
  match s.find? l with
  | some (.file _) =>
    if p.text.toList.getLast? = some '/' then .error .notADirectory else return l
  | _ => return l

/-- The place where a file is to be written. -/
def locateNew (s : Store) (p : Path) : Except AccessError Location := do
  checkPath p
  let parts := p.pieces.filter (· != "")
  let parent ← s.walk (s.start p) parts.dropLast
  match parts.getLast? with
  | none => .error .isADirectory
  | some name =>
    if name = "." ∨ name = ".." then
      let _ ← s.walkPiece parent name
      .error .isADirectory
    else
      match s.find? parent with
      | some .directory =>
        if p.text.toList.getLast? = some '/' then .error .isADirectory
        else if maxName < name.utf8ByteSize then .error .nameTooLong
        else if s.find? (parent ++ [name]) = some .directory then .error .isADirectory
        else return parent ++ [name]
      | some (.file _) => .error .notADirectory
      | none => .error .notFound

def entryAt? (s : Store) (p : Path) : Option Entry :=
  match s.locate p with
  | .ok l => s.find? l
  | .error _ => none

def readFile (s : Store) (p : Path) : Except AccessError ByteArray := do
  match s.find? (← s.locate p) with
  | some (.file bytes) => return bytes
  | some .directory => .error .isADirectory
  | none => .error .notFound

def writeFile (s : Store) (p : Path) (bytes : ByteArray) : Except AccessError Store := do
  return s.put (← s.locateNew p) (.file bytes)

def copyFile (s : Store) (source target : Path) : Except AccessError Store := do
  match s.find? (← s.locate source) with
  | some (.file bytes) => s.writeFile target bytes
  | some .directory => .error .notRegular
  | none => .error .notFound

def commit (r : Except AccessError Store) : StateM Store (Except AccessError Unit) := do
  match r with
  | .ok s =>
    set s
    return .ok ()
  | .error e => return .error e

instance : Files (StateM Store) where
  pathExists p := do return ((← get).entryAt? p).isSome
  isFile p := do
    match (← get).entryAt? p with
    | some (.file _) => return true
    | _ => return false
  read p := do return (← get).readFile p
  copy source target := do commit ((← get).copyFile source target)
  write p bytes := do commit ((← get).writeFile p bytes)

def addDirectory (s : Store) (l : Location) : Store :=
  (List.range l.length).foldl (fun s n => s.put (l.take (n + 1)) .directory) s

def addFile (s : Store) (l : Location) (bytes : ByteArray) : Store :=
  (s.addDirectory l.dropLast).put l (.file bytes)

def below (s : Store) (l : Location) : List (Location × Entry) :=
  s.entries.entries.filterMap fun e =>
    if l.isPrefixOf e.1 ∧ e.1 ≠ l then some (e.1.drop l.length, e.2) else none

end Store

end SchemaSieve
