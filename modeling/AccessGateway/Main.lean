import AccessGateway.CommandLine.Outcome
import AccessGateway.Gateway.Startup

/-!
# The program

Reads the command line, the environment and the files it names, and does what they come to. Serving needs a network
runtime to carry the relays; this program checks that the gateway would start and says so.
-/

namespace AccessGateway.Program

/-- The variables of an environment block: texts that end in a zero byte, a name and a value around an equals sign. -/
def environmentOf (block : List UInt8) : Settings.Variables :=
  (block.splitOn 0).filterMap fun entry =>
    (Text.splitFirst? '=' (Text.lossyText entry).toList).map fun (name, value) =>
      (String.ofList name, String.ofList value)

/-- What stands under a path. -/
def entry (path : String) : IO FileEntry := do
  try
    return .content (← IO.FS.readBinFile path).toList
  catch e =>
    match e with
    | .noFileOrDirectory .. => return .absent
    | _ => return .directory

/-- The home directory of a user in the list of users, which has a line for each: seven parts between colons, the third
the number of the user and the sixth the directory. -/
def homeIn? (users number : String) : Option String :=
  (users.splitOn "\n").findSome? fun line =>
    match line.splitOn ":" with
    | [_, _, n, _, _, home, _] => if n = number && home ≠ "" then some home else none
    | _ => none

/-- The home directory that the system has on record for the user who runs the program. -/
def recordedHome : IO (Option String) := do
  try
    let status ← IO.FS.readFile "/proc/self/status"
    let number := (status.splitOn "\n").findSome? fun line =>
      match line.splitOn "\t" with
      | "Uid:" :: n :: _ => some n
      | _ => none
    let users ← IO.FS.readFile "/etc/passwd"
    return number.bind (homeIn? users)
  catch _ => return none

/-- The surroundings of a command line: the environment, the configuration file and the environment files it names. -/
def surroundings (args : List String) : IO Surroundings := do
  let vs := environmentOf (← IO.FS.readBinFile "/proc/self/environ").toList
  let path := match Invocation.read vs args with
    | .ok i => i.config
    | .error _ => none
  let first ← path.toList.mapM fun p => return (p, ← entry p)
  let recordedHome ← recordedHome
  let known (files : List (String × FileEntry)) : Surroundings :=
    ⟨vs, fun p => (files.lookup p).getD .absent, recordedHome⟩
  match Config.load (known first) path with
  | .error _ => return known first
  | .ok (c, _) =>
    let rest ← (c.envFiles.map (Config.expandHome ((known first).home vs))).mapM fun p => return (p, ← entry p)
    return known (first ++ rest)

/-- The conditions of a start on a machine where every address is free and nobody answers. -/
def conditions (vs : Settings.Variables) : StartConditions where
  environment := vs
  webFault _ := none
  binding _ := none
  present := 0
  firstKey url := .failed (.connect url)

/-- Says whether a gateway would start. -/
def serve (c : Config) (vs : Settings.Variables) : IO UInt32 := do
  match c.start (conditions vs) with
  | .error f => IO.eprintln s!"Gateway error: {f.message}"
  | .ok g => IO.eprintln s!"No network runtime to serve {g.address.render} with"
  return 1

end AccessGateway.Program

open AccessGateway in
/-- Does what the command line comes to. -/
def main (args : List String) : IO UInt32 := do
  match Outcome.ofArguments (← Program.surroundings args) args with
  | .finished code stdout stderr =>
    IO.print stdout
    IO.eprint stderr
    return code.toUInt32
  | .serve c vs => Program.serve c vs
