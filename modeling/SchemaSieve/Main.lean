import SchemaSieve.Command.Run

/-!
# The program

Arguments and environment in; files read and written, texts and an exit code out.
-/

namespace SchemaSieve

/-- The cause of a failed access, by the number that the system gives it. The number may come
negated. -/
def systemError (code : UInt32) (details : String) : AccessError :=
  let number := if code < 0x80000000 then code else 0 - code
  match number.toNat with
  | 2 => .notFound
  | 20 => .notADirectory
  | 21 => .isADirectory
  | 36 => .nameTooLong
  | n => .other s!"{details} (os error {n})"

def accessError (e : IO.Error) : AccessError :=
  match e with
  | .alreadyExists _ code details | .noFileOrDirectory _ code details
  | .inappropriateType _ code details | .invalidArgument _ code details
  | .permissionDenied _ code details | .resourceExhausted _ code details
  | .noSuchThing _ code details | .interrupted _ code details
  | .otherError code details | .resourceBusy code details | .resourceVanished code details
  | .unsupportedOperation code details | .hardwareFault code details
  | .unsatisfiedConstraints code details | .illegalOperation code details
  | .protocolError code details | .timeExpired code details => systemError code details
  | e => .other (toString e)

/-- The result of an access to a path, or the cause of its failure. -/
def attempt {α : Type} (p : Path) (access : IO α) : IO (Except AccessError α) := do
  if p.text.toList.contains '\x00' then return .error .zeroInName
  try return .ok (← access) catch e => return .error (accessError e)

/-- Whether something of a kind is at a path. -/
def holdsKind (p : Path) (accepts : IO.FS.FileType → Bool) : IO Bool := do
  if p.text.toList.contains '\x00' then return false
  try
    let file ← IO.FS.realPath p.text
    return accepts (← file.metadata).type
  catch _ => return false

def isRegular : IO.FS.FileType → Bool
  | .file => true
  | _ => false

instance : Files IO where
  pathExists p := holdsKind p fun _ => true
  isFile p := holdsKind p isRegular
  read p := attempt p (IO.FS.readBinFile p.text)
  copy source target := do
    match ← attempt source (IO.FS.readBinFile source.text) with
    | .ok bytes => attempt target (IO.FS.writeBinFile target.text bytes)
    | .error e =>
      if ← holdsKind source fun kind => !isRegular kind then return .error .notRegular
      else return .error e
  write p bytes := attempt p (IO.FS.writeBinFile p.text bytes)

end SchemaSieve

open SchemaSieve

def main (arguments : List String) : IO UInt32 := do
  let outcome : Command.Outcome ← Command.run arguments (← IO.getEnv "LOG_LEVEL")
  for r in outcome.log do
    IO.eprintln s!"{r.level.name.toUpper} {r.shown}"
  IO.print outcome.stdout
  IO.eprint outcome.stderr
  return outcome.exitCode
