import AccessGateway.Settings.Environment
import AccessGateway.Text.Split

/-!
# Command-line options

Reading of options with values, of the flags for help and version, and of commands. An option may be given once at
each level; where the command line gives none, a variable of the environment or a default stands in. Options of the
program that are global may also follow a command; the one further to the right wins.

An option waits for its value until the next argument, so the value is looked at only when that argument has been
understood: of two faults the later one may be reported.
-/

namespace AccessGateway.CommandLine

/-- Why a command line cannot be used, or what it asks for instead. -/
inductive UsageError where
  | unknownArgument (text : String)
  | unknownCommand (text : String)
  | missingValue (option : String)
  | badValue (option value : String)
  | superfluousValue (flag value : String)
  | repeated (option : String)
  /-- The help is asked for. -/
  | help
  /-- The version is asked for. -/
  | version
deriving DecidableEq, Repr

/-- What may stand as a value. -/
inductive ValueKind where
  | text
  | nonEmpty
  /-- A number of 16 bits. -/
  | port
deriving DecidableEq, Repr

/-- An option with a value. -/
structure OptionSpec where
  name : String
  short : Option Char := none
  kind : ValueKind := .text
  environment : Option String := none
  default : Option String := none
  isGlobal : Bool := false
deriving DecidableEq, Repr

/-- A command with options of its own. -/
structure CommandSpec where
  name : String
  options : List OptionSpec
deriving DecidableEq, Repr

structure ProgramSpec where
  options : List OptionSpec
  commands : List CommandSpec
deriving DecidableEq, Repr

/-- Where a value comes from; a later constructor is the stronger one. -/
inductive Source where
  | default
  | environment
  | commandLine
deriving DecidableEq, Repr

/-- The strength of a source. -/
def Source.rank : Source → Nat
  | default => 0
  | environment => 1
  | commandLine => 2

/-- The values found, by option. -/
abbrev Values := List (String × Source × String)

/-- The number of an optional sign and digits, if it has 16 bits. -/
def portNumber? (cs : List Char) : Option Nat :=
  match cs with
  | '-' :: r => (Text.natural? r).filter (· = 0)
  | _ => Text.unsigned? 65535 cs

/-- Refuses a value that may not stand for an option. -/
def OptionSpec.check (o : OptionSpec) (value : String) : Except UsageError Unit :=
  match o.kind with
  | .text => .ok ()
  | .nonEmpty => if value.isEmpty then .error (.missingValue o.name) else .ok ()
  | .port => if (portNumber? value.toList).isSome then .ok () else .error (.badValue o.name value)

/-- What has been read at one level: the values, and an option whose value may be still to come. -/
structure Level where
  values : Values := []
  pending : Option (OptionSpec × Option String) := none
deriving DecidableEq, Repr

namespace Level

def store (o : OptionSpec) (value : String) (l : Level) : Except UsageError Level := do
  if (l.values.lookup o.name).isSome then throw (.repeated o.name)
  o.check value
  return { l with values := l.values ++ [(o.name, .commandLine, value)] }

/-- Takes up the pending option. -/
def settle (l : Level) : Except UsageError Level :=
  match l.pending with
  | none => .ok l
  | some (o, none) => .error (.missingValue o.name)
  | some (o, some value) => { l with pending := none }.store o value

/-- Starts an option, with its value if it came in the same argument. -/
def start (o : OptionSpec) (value : Option String) (l : Level) : Except UsageError Level := do
  let l ← l.settle
  match value with
  | some v => l.store o v
  | none => return { l with pending := some (o, none) }

/-- An option waits for its value. -/
def isWaiting (l : Level) : Bool :=
  match l.pending with
  | some (_, none) => true
  | _ => false

/-- Gives the waiting option its value. -/
def supply (value : String) (l : Level) : Level :=
  { l with pending := l.pending.map fun p => (p.1, some value) }

/-- Asks for help or the version, once everything before has been taken up. -/
def ask (e : UsageError) (l : Level) : Except UsageError Level := do
  let _ ← l.settle
  throw e

end Level

/-- What may be given at one level. -/
structure Scope where
  options : List OptionSpec
  commands : List String
  hasVersion : Bool
deriving DecidableEq, Repr

namespace Scope

/-- The failure for an argument that is no option: a word that might have been a command, or any other argument. -/
def unexpected (s : Scope) (a : String) : UsageError :=
  if s.commands.isEmpty then .unknownArgument a else .unknownCommand a

/-- Reads an argument behind two hyphens. -/
def readLong (s : Scope) (text : List Char) (l : Level) : Except UsageError Level :=
  let name := String.ofList (text.takeWhile (· ≠ '='))
  let value := match text.dropWhile (· ≠ '=') with
    | _ :: v => some (String.ofList v)
    | [] => none
  let flag (e : UsageError) : Except UsageError Level :=
    match value with
    | some v => .error (.superfluousValue name v)
    | none => l.ask e
  match s.options.find? (·.name == name) with
  | some o => l.start o value
  | none =>
    if name = "help" then flag .help
    else if name = "version" && s.hasVersion then flag .version
    else .error (.unknownArgument s!"--{name}")

/-- Reads an argument behind one hyphen. -/
def readShort (s : Scope) (text : List Char) (l : Level) : Except UsageError Level :=
  match text with
  | [] => .ok l
  | c :: rest =>
    match s.options.find? (·.short == some c) with
    | some o =>
      match rest with
      | [] => l.start o none
      | '=' :: v => l.start o (some (String.ofList v))
      | v => l.start o (some (String.ofList v))
    | none =>
      if c = 'h' then l.ask .help
      else if c = 'V' && s.hasVersion then l.ask .version
      else .error (.unknownArgument s!"-{c}")

/-- What the help command answers: the help of the commands named after it, which go one level deep. -/
def helpAnswer (s : Scope) : List String → UsageError
  | [] => .help
  | a :: rest =>
    if !s.commands.contains a then .unknownCommand a
    else
      match rest with
      | [] => .help
      | b :: _ => .unknownCommand b

/-- What two hyphens alone leave: nothing may follow them. -/
def afterHyphens (s : Scope) (l : Level) : List String → Except UsageError (Level × Option (String × List String))
  | [] => .ok (l, none)
  | a :: _ => .error (if s.commands.contains a then .unknownArgument a else s.unexpected a)

/-- Reads the arguments of one level up to a command. -/
def read (s : Scope) (l : Level) : List String → Except UsageError (Level × Option (String × List String))
  | [] => .ok (l, none)
  | a :: rest =>
    if !l.isWaiting && s.commands.contains a then
      if a = "help" then .error (s.helpAnswer rest) else .ok (l, some (a, rest))
    else
      match a.toList with
      | ['-', '-'] => s.afterHyphens l rest
      | '-' :: '-' :: text => s.readLong text l >>= fun l => s.read l rest
      | '-' :: c :: text => s.readShort (c :: text) l >>= fun l => s.read l rest
      | _ => if l.isWaiting then s.read (l.supply a) rest else .error (s.unexpected a)

/-- The values of a level, completed from the environment and by defaults. -/
def complete (s : Scope) (vs : Settings.Variables) (l : Level) : Except UsageError Values := do
  let l ← l.settle
  let values ← s.options.foldlM (fun values o => do
    match (l.values.lookup o.name).isSome, o.environment.bind vs.get? with
    | false, some v => do
      o.check v
      return values ++ [(o.name, .environment, v)]
    | _, _ => return values) l.values
  return s.options.foldl (fun values o =>
    match values.lookup o.name, o.default with
    | none, some d => values ++ [(o.name, .default, d)]
    | _, _ => values) values

end Scope

/-- The values of a program and of its command, if one was given. -/
structure Reading where
  values : Values
  command : Option (String × Values)
deriving DecidableEq, Repr

namespace ProgramSpec

/-- The options that may also follow a command. -/
def globals (p : ProgramSpec) : List OptionSpec := p.options.filter (·.isGlobal)

/-- What may be given before a command. -/
def scope (p : ProgramSpec) : Scope := ⟨p.options, p.commands.map (·.name) ++ ["help"], true⟩

/-- What may be given after a command. -/
def commandScope (p : ProgramSpec) (c : CommandSpec) : Scope := ⟨c.options ++ p.globals, [], false⟩

/-- Reads a command and its arguments. -/
def readCommand (p : ProgramSpec) (vs : Settings.Variables) (name : String) (args : List String) :
    Except UsageError Values :=
  match p.commands.find? (·.name == name) with
  | none => .error (.unknownCommand name)
  | some c => do
    let s := p.commandScope c
    let (l, _) ← s.read {} args
    s.complete vs l

def read (p : ProgramSpec) (vs : Settings.Variables) (args : List String) : Except UsageError Reading := do
  let (l, command) ← p.scope.read {} args
  match command with
  | none => return ⟨← p.scope.complete vs l, none⟩
  | some (name, rest) =>
    let inner ← p.readCommand vs name rest
    return ⟨← p.scope.complete vs l, some (name, inner)⟩

end ProgramSpec

namespace Reading

/-- The value of an option. The one after the command is taken unless the one before comes from a stronger source. -/
def value? (r : Reading) (name : String) : Option String :=
  match r.values.lookup name, r.command.bind (·.2.lookup name) with
  | some (s, v), some (t, w) => some (if t.rank < s.rank then v else w)
  | some (_, v), none => some v
  | none, some (_, w) => some w
  | none, none => none

end Reading

end AccessGateway.CommandLine
