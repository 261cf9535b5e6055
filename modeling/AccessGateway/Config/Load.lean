import AccessGateway.Config.Record
import AccessGateway.Json.Writer
import AccessGateway.Settings.EnvFile
import AccessGateway.Settings.OfYaml
import AccessGateway.Settings.Placeholder

/-!
# Loading the configuration

The configuration file comes first and the environment is laid over it. After both have been read, the environment
files named by the configuration add variables to the environment, and placeholders in addresses, identities and
secrets are replaced by variables. So a variable from an environment file is seen by placeholders, but sets no
configuration key.
-/

namespace AccessGateway

/-- What stands under a path. -/
inductive FileEntry where
  | absent
  | directory
  | content (bytes : List UInt8)
deriving DecidableEq, Repr, Inhabited

/-- What loading sees around it: the environment, the files, and the home directory that the system has on record for
the user. -/
structure Surroundings where
  environment : Settings.Variables
  entry : String → FileEntry
  recordedHome : Option String := none

/-- The home directory: the one that the environment names, unless it is missing or empty, or else the recorded one. -/
def Surroundings.home (s : Surroundings) (vs : Settings.Variables) : Option String :=
  ((vs.get? "HOME").filter (· ≠ "")).or s.recordedHome

/-- Why there is no configuration. -/
inductive LoadError where
  /-- There is nothing under the path of the configuration file. -/
  | notFound (path : String)
  /-- A setting, or the file as a whole, is not what it should be. -/
  | unreadable (key : Option String)
deriving DecidableEq, Repr

/-- The failure reported for a configuration that cannot be loaded. -/
def LoadError.failure : LoadError → Failure
  | .notFound path => .config s!"Config file not found: {path}"
  | .unreadable (some key) => .config s!"invalid value for key {Json.quote key}"
  | .unreadable none => .config "the configuration file cannot be read"

namespace Config

/-- The settings in the configuration file; a directory holds none. -/
def fileSettings (s : Surroundings) : Option String → Except LoadError Setting
  | none => .ok (.group .file [])
  | some path =>
    match s.entry path with
    | .absent => .error (.notFound path)
    | .directory => .ok (.group .file [])
    | .content bytes => ((Text.text? bytes).bind Settings.ofYaml?).elim (.error (.unreadable none)) .ok

/-- A path whose leading tilde stands for the home directory, if there is one. -/
def expandHome (home : Option String) (path : String) : String :=
  match path.toList, home with
  | '~' :: rest, some home => home ++ String.ofList rest
  | _, _ => path

/-- The environment with the variables of the environment files; what is missing or no file is skipped. -/
def loadEnvFiles (s : Surroundings) (paths : List String) : Settings.Variables :=
  paths.foldl (fun vs path =>
    match s.entry (expandHome (s.home vs) path) with
    | .content bytes => Settings.EnvFile.load vs bytes
    | _ => vs) s.environment

/-- The configuration with placeholders replaced in the fields that may hold them. -/
def expandPlaceholders (vs : Settings.Variables) (c : Config) : Config :=
  let expand := Settings.expandText vs.get?
  { c with
    auth := { c.auth with backendUrl := expand c.auth.backendUrl }
    firewall := { c.firewall with url := expand c.firewall.url, token := c.firewall.token.map expand }
    dynamicPorts := { c.dynamicPorts with
      backendUrl := expand c.dynamicPorts.backendUrl
      gatewayId := expand c.dynamicPorts.gatewayId
      clusterId := expand c.dynamicPorts.clusterId }
    metrics := { c.metrics with token := c.metrics.token.map expand }
    mirror := { c.mirror with destinations := c.mirror.destinations.map expand } }

/-- Loads the configuration, and says what the environment is afterwards. -/
def load (s : Surroundings) (path : Option String) : Except LoadError (Config × Settings.Variables) := do
  let settings := (← fileSettings s path).merge (Settings.ofVariables s.environment)
  match ofSettings settings with
  | .error blame => throw (.unreadable blame.key?)
  | .ok c =>
    let vs := loadEnvFiles s c.envFiles
    return (c.expandPlaceholders vs, vs)

end Config

end AccessGateway
