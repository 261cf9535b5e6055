import AccessGateway.CommandLine.Options

/-!
# Invocations

The options and commands of the gateway, and what a command line asks of it: to serve, which is also what no command
means, or to check expressions of port ranges without a gateway.
-/

namespace AccessGateway

/-- What the gateway is to do. -/
inductive Command where
  | serve
  | checkPorts (tcp udp : String)
deriving DecidableEq, Repr

/-- A command line that has been understood. -/
structure Invocation where
  config : Option String
  httpPort : Option Nat
  host : Option String
  logLevel : String
  logFormat : Option String
  command : Option Command
deriving DecidableEq, Repr

namespace Invocation

/-- The options and commands. -/
def spec : CommandLine.ProgramSpec where
  options := [
    { name := "config", short := some 'c', kind := .nonEmpty, environment := some "HEADEND_CONFIG", isGlobal := true },
    { name := "http-port", kind := .port, environment := some "HEADEND_HTTP_PORT" },
    { name := "host", environment := some "HEADEND_HOST" },
    { name := "log-level", environment := some "HEADEND_LOG_LEVEL", default := some "info", isGlobal := true },
    { name := "log-format", environment := some "HEADEND_LOG_FORMAT", isGlobal := true }]
  commands := [⟨"serve", []⟩,
    ⟨"check-ports", [{ name := "tcp", default := some "" }, { name := "udp", default := some "" }]⟩]

def read (vs : Settings.Variables) (args : List String) : Except CommandLine.UsageError Invocation := do
  let r ← spec.read vs args
  return {
    config := r.value? "config"
    httpPort := (r.value? "http-port").bind fun v => CommandLine.portNumber? v.toList
    host := r.value? "host"
    logLevel := (r.value? "log-level").getD ""
    logFormat := r.value? "log-format"
    command := r.command.map fun (name, _) =>
      if name = "serve" then .serve else .checkPorts ((r.value? "tcp").getD "") ((r.value? "udp").getD "") }

end Invocation

end AccessGateway
