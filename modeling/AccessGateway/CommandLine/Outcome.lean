import AccessGateway.CommandLine.Invocation
import AccessGateway.Config.Check
import AccessGateway.Config.Load

/-!
# Outcomes

What a command line comes to: a text and an exit status, or a configuration to serve with. Port expressions that are
checked are answered with the number of ports of each transport. The exit status is 0 for an answer, 1 for a failure
and 2 for a command line that cannot be used.
-/

namespace AccessGateway

/-- What a command line comes to. -/
inductive Outcome where
  | finished (code : Nat) (stdout stderr : String)
  /-- The gateway is to serve. -/
  | serve (c : Config) (vs : Settings.Variables)

namespace Outcome

/-- A short help. -/
def helpText : String :=
  s!"Usage: {Product.name} [OPTIONS] [COMMAND]\n\nCommands:\n  serve        Start the headend (default)\n" ++
  "  check-ports  Validate port-range expressions offline\n"

/-- The wording of a command line that cannot be used. -/
def usageMessage : CommandLine.UsageError → String
  | .unknownArgument a => s!"error: unexpected argument '{a}' found\n"
  | .unknownCommand a => s!"error: unrecognized subcommand '{a}'\n"
  | .missingValue o => s!"error: a value is required for '--{o}' but none was supplied\n"
  | .badValue o v => s!"error: invalid value '{v}' for '--{o}'\n"
  | .superfluousValue f v => s!"error: unexpected value '{v}' for '--{f}' found; no more were expected\n"
  | .repeated o => s!"error: the argument '--{o}' cannot be used multiple times\n"
  | .help => helpText
  | .version => s!"{Product.name} {Product.version}\n"

/-- What follows from a command line that asks for no work. -/
def ofUsage (e : CommandLine.UsageError) : Outcome :=
  match e with
  | .help | .version => .finished 0 (usageMessage e) ""
  | e => .finished 2 "" (usageMessage e)

/-- The number of ports of a transport in a set. -/
def portCount (s : PortSet) (t : Transport) : Nat := (s.expand.filter (·.1 = t)).length

/-- The answer to expressions of port ranges. -/
def checkPorts (tcp udp : String) : Outcome :=
  match PortSet.readChecked tcp udp with
  | .ok s => .finished 0 s!"tcp: {portCount s .tcp} port(s)\nudp: {portCount s .udp} port(s)\n" ""
  | .error e => .finished 1 "" s!"Invalid port ranges: {e.message}\n"

/-- The configuration with the options of the command line over it. -/
def override (i : Invocation) (c : Config) : Config :=
  { c with server := { c.server with
    httpPort := i.httpPort.getD c.server.httpPort
    host := i.host.getD c.server.host } }

/-- What serving comes to before anything is opened. -/
def serving (s : Surroundings) (i : Invocation) : Outcome :=
  match Config.load s i.config with
  | .error e => .finished 1 "" s!"Failed to load configuration: {e.failure.message}\n"
  | .ok (c, vs) =>
    let c := override i c
    match c.check with
    | .error f => .finished 1 "" s!"Failed to create gateway: {f.message}\n"
    | .ok () => .serve c vs

/-- What a command line comes to. -/
def ofArguments (s : Surroundings) (args : List String) : Outcome :=
  match Invocation.read s.environment args with
  | .error e => ofUsage e
  | .ok i =>
    match i.command with
    | some (.checkPorts tcp udp) => checkPorts tcp udp
    | _ => serving s i

end Outcome

end AccessGateway
