import SchemaSieve.Files.Path

/-!
# Command lines

What the arguments of the program ask for. The value of an option or of a place is looked at when
the next argument comes, so the order of two faults is that of the arguments.
-/

namespace SchemaSieve.Command

inductive UsageError where
  | unexpectedArgument (argument : String)
  | unexpectedValue (value argument : String)
  | missingValue (argument : String)
  | repeated (argument : String)
  | missingArguments
  | unknownSubcommand (name : String)
  deriving DecidableEq, Repr

def UsageError.message : UsageError → String
  | unexpectedArgument a => s!"unexpected argument '{a}' found"
  | unexpectedValue v a => s!"unexpected value '{v}' for '{a}' found; no more were expected"
  | missingValue a => s!"a value is required for '{a}' but none was supplied"
  | repeated a => s!"the argument '{a}' cannot be used multiple times"
  | missingArguments => "the following required arguments were not provided:"
  | unknownSubcommand name => s!"unrecognized subcommand '{name}'"

structure FilterCall where
  config? : Option Path := none
  dryRun : Bool := false
  logRemovals : Bool := false
  preserve : Bool := false
  source : Path
  target : Path
  deriving DecidableEq, Repr

inductive HelpTopic where
  | program
  | filter
  | help
  deriving DecidableEq, Repr

/-- What a command line asks for. -/
inductive Invocation where
  | help (topic : HelpTopic)
  | version
  /-- No command is named. -/
  | bare (verbose : Bool)
  | filter (call : FilterCall) (verbose : Bool)
  deriving DecidableEq, Repr

inductive Flag where
  | dryRun
  | logRemovals
  | preserve
  | verbose
  deriving DecidableEq, Repr

def Flag.name : Flag → String
  | dryRun => "--dry-run"
  | logRemovals => "--log-removals"
  | preserve => "--preserve"
  | verbose => "--verbose"

inductive Form where
  /-- `--`, behind which no argument is an option. -/
  | escape
  /-- `--name` or `--name=value`. -/
  | long (name : String) (value? : Option String)
  /-- `-abc`, for three options. -/
  | short (letters : List Char)
  | value
  deriving DecidableEq, Repr

def Form.ofArgument (a : String) : Form :=
  match a.toList with
  | ['-', '-'] => escape
  | '-' :: '-' :: cs =>
    let name := cs.takeWhile (· != '=')
    long (String.ofList name)
      (if name.length < cs.length then some (String.ofList (cs.drop (name.length + 1))) else none)
  | '-' :: c :: cs => short (c :: cs)
  | _ => value

/-- An argument whose value has not been looked at yet. -/
inductive Pending where
  | config (value? : Option String)
  | source (value : String)
  | target (value : String)
  deriving DecidableEq, Repr

/-- What the arguments of a filter command have said so far. -/
structure FilterArguments where
  config? : Option String := none
  source? : Option String := none
  target? : Option String := none
  flags : List Flag := []
  pending? : Option Pending := none
  /-- Whether the next argument may be the value of an option. -/
  awaitsValue : Bool := false
  /-- Whether all arguments to come are values. -/
  escaped : Bool := false
  deriving DecidableEq, Repr

namespace FilterArguments

def configName : String := "--config <CONFIG>"

def setConfig (a : FilterArguments) (value : String) : Except UsageError FilterArguments :=
  if a.config?.isSome then .error (.repeated configName)
  else if value = "" then .error (.missingValue configName)
  else .ok { a with config? := some value }

/-- Looks at the value that waits for it. -/
def settle (a : FilterArguments) : Except UsageError FilterArguments :=
  let a' := { a with pending? := none, awaitsValue := false }
  match a.pending? with
  | none => .ok a'
  | some (.config none) => .error (.missingValue configName)
  | some (.config (some v)) => a'.setConfig v
  | some (.source v) =>
    if v = "" then .error (.missingValue "<SOURCE>") else .ok { a' with source? := some v }
  | some (.target v) =>
    if v = "" then .error (.missingValue "<DEST>") else .ok { a' with target? := some v }

def setFlag (a : FilterArguments) (f : Flag) : Except UsageError FilterArguments := do
  let a ← a.settle
  if a.flags.contains f then throw (.repeated f.name) else return { a with flags := f :: a.flags }

/-- Takes a value by its place: the source, then the target, and then no more. -/
def addValue (a : FilterArguments) (value : String) : Except UsageError FilterArguments :=
  let hasSource := a.source?.isSome || a.pending? matches some (.source _)
  let hasTarget := a.target?.isSome || a.pending? matches some (.target _)
  if hasTarget then .error (.unexpectedArgument value)
  else do
    let a ← a.settle
    return { a with pending? := some (if hasSource then .target value else .source value) }

/-- The outcome of one argument: more to come, or help asked for. -/
abbrev Step := Except UsageError (FilterArguments ⊕ HelpTopic)

def helpStep (a : FilterArguments) : Step := do
  let _ ← a.settle
  return .inr .filter

def flagOfLong? : String → Option Flag
  | "dry-run" => some .dryRun
  | "log-removals" => some .logRemovals
  | "preserve" => some .preserve
  | "verbose" => some .verbose
  | _ => none

def long (a : FilterArguments) (name : String) (value? : Option String) : Step := do
  if name = "config" then
    let a ← a.settle
    match value? with
    | some v => return .inl (← a.setConfig v)
    | none => return .inl { a with pending? := some (.config none), awaitsValue := true }
  else
    match flagOfLong? name, value? with
    | some f, none => return .inl (← a.setFlag f)
    | some f, some v => throw (.unexpectedValue v f.name)
    | none, some v =>
      if name = "help" then throw (.unexpectedValue v "--help")
      else throw (.unexpectedArgument ("--" ++ name))
    | none, none =>
      if name = "help" then a.helpStep else throw (.unexpectedArgument ("--" ++ name))

def shorts (a : FilterArguments) : List Char → Step
  | [] => .ok (.inl a)
  | 'v' :: cs => do (← a.setFlag .verbose).shorts cs
  | 'h' :: _ => a.helpStep
  | c :: _ => .error (.unexpectedArgument ("-" ++ String.singleton c))

def step (a : FilterArguments) (argument : String) : Step :=
  if a.escaped then do return .inl (← a.addValue argument)
  else
    match Form.ofArgument argument with
    | .escape => .ok (.inl { a with escaped := true })
    | .long name value? => a.long name value?
    | .short letters => a.shorts letters
    | .value =>
      if a.awaitsValue then
        .ok (.inl { a with pending? := some (.config (some argument)), awaitsValue := false })
      else do return .inl (← a.addValue argument)

def finish (a : FilterArguments) : Except UsageError Invocation := do
  let a ← a.settle
  match a.source?, a.target? with
  | some source, some target =>
    return .filter
      { config? := a.config?.map Path.mk
        dryRun := a.flags.contains .dryRun
        logRemovals := a.flags.contains .logRemovals
        preserve := a.flags.contains .preserve
        source := ⟨source⟩
        target := ⟨target⟩ }
      (a.flags.contains .verbose)
  | _, _ => throw .missingArguments

def run (a : FilterArguments) : List String → Except UsageError Invocation
  | [] => a.finish
  | argument :: rest => do
    match ← a.step argument with
    | .inl a => a.run rest
    | .inr topic => return .help topic

end FilterArguments

def helpOn : List String → Except UsageError Invocation
  | [] => .ok (.help .program)
  | ["filter"] => .ok (.help .filter)
  | ["help"] => .ok (.help .help)
  | "filter" :: name :: _ => .error (.unknownSubcommand name)
  | "help" :: name :: _ => .error (.unknownSubcommand name)
  | name :: _ => .error (.unknownSubcommand name)

def globalShorts (verbose : Bool) : List Char → Except UsageError (Bool ⊕ Invocation)
  | [] => .ok (.inl verbose)
  | 'v' :: cs => if verbose then .error (.repeated Flag.verbose.name) else globalShorts true cs
  | 'h' :: _ => .ok (.inr (.help .program))
  | 'V' :: _ => .ok (.inr .version)
  | c :: _ => .error (.unexpectedArgument ("-" ++ String.singleton c))

def globalLong (verbose : Bool) (name : String) (value? : Option String) :
    Except UsageError (Bool ⊕ Invocation) :=
  if ["verbose", "help", "version"].contains name then
    match value? with
    | some v => .error (.unexpectedValue v ("--" ++ name))
    | none =>
      if name = "help" then .ok (.inr (.help .program))
      else if name = "version" then .ok (.inr .version)
      else globalShorts verbose ['v']
  else .error (.unexpectedArgument ("--" ++ name))

/-- The `filter` command is verbose if that is said ahead of it. -/
def Invocation.orVerbose (verbose : Bool) : Invocation → Invocation
  | .filter call v => .filter call (v || verbose)
  | i => i

def isCommand (name : String) : Bool := name = "filter" || name = "help"

/-- Reads the arguments up to the command, and then those of the command. -/
def readArguments (verbose escaped : Bool) : List String → Except UsageError Invocation
  | [] => .ok (.bare verbose)
  | a :: rest =>
    if escaped then .error (if isCommand a then .unexpectedArgument a else .unknownSubcommand a)
    else if a = "filter" then do return (← FilterArguments.run {} rest).orVerbose verbose
    else if a = "help" then helpOn rest
    else
      match Form.ofArgument a with
      | .escape => readArguments verbose true rest
      | .value => .error (.unknownSubcommand a)
      | .long name value? => do
        match ← globalLong verbose name value? with
        | .inl verbose => readArguments verbose false rest
        | .inr i => return i
      | .short letters => do
        match ← globalShorts verbose letters with
        | .inl verbose => readArguments verbose false rest
        | .inr i => return i

def Invocation.ofArguments (arguments : List String) : Except UsageError Invocation :=
  readArguments false false arguments

end SchemaSieve.Command
