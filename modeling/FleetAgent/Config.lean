import FleetAgent.Config.Collector
import FleetAgent.Config.CommandLine
import FleetAgent.Config.LogLevel
import FleetAgent.Identifier
import FleetAgent.Tunnel.Backoff
import FleetAgent.Url.Parser
/-!
# Configuration

The settings of an agent, read from its command line and environment (`Config.readGiven`) and then
validated (`Config.ofGiven`): first the URL of the controller, then the project, then the level of
the log. The URL is kept as it was given, without slashes at its end (`Config.validateUrl`).
-/

namespace FleetAgent

/-- A token that allows a device to register. It is never shown, so its written form for a reader
does not depend on it. -/
structure RegistrationToken where
  /-- The text of the token. -/
  secret : String
deriving DecidableEq

/-- The token for a reader. -/
def RegistrationToken.describe (_ : RegistrationToken) : String :=
  "RegistrationToken(<redacted>)"

/-- The settings of an agent, all of them valid. Times are in milliseconds. -/
structure Config where
  /-- The URL of the controller, without slashes at its end. -/
  controllerUrl : String
  /-- The project that the device belongs to. -/
  project : ProjectId
  /-- The token to register with. -/
  registrationToken : Option RegistrationToken
  /-- The directory of the configuration. -/
  confDir : String
  /-- The directory of the identity. -/
  stateDir : String
  /-- The port of the local server. -/
  serverPort : Nat
  /-- How much is logged. -/
  logLevel : LogLevel
  /-- How the log is written. -/
  logFormat : LogFormat
  /-- The time between two attempts to register. -/
  registrationRetry : Nat
  /-- The time between two requests for the bundle. -/
  bundlePoll : Nat
  /-- The time between two looks at the description of the device. -/
  infoInterval : Nat
  /-- The file that describes the operating system. -/
  osReleasePath : String
  /-- How observations are collected. -/
  collector : CollectorConfig
  /-- How long to wait before the tunnel is opened again. -/
  tunnelBackoff : Backoff
  /-- How long to wait for tasks when stopping. -/
  stopGrace : Nat

namespace Config

/-- The URL of the controller if none is given. -/
def defaultControllerUrl : String := "https://cloud.deviceplane.com:443/api"

/-- The settings that need no choice, with a URL and a project. The URL is not validated, but
slashes at its end are dropped. -/
def standard (controllerUrl : String) (project : ProjectId) : Config where
  controllerUrl := Text.dropTrailing '/' controllerUrl
  project := project
  registrationToken := none
  confDir := "/etc/deviceplane"
  stateDir := "/var/lib/deviceplane"
  serverPort := 4444
  logLevel := .info
  logFormat := .json
  registrationRetry := 5000
  bundlePoll := 10000
  infoInterval := 60000
  osReleasePath := "/etc/os-release"
  collector := .standard
  tunnelBackoff := .standard
  stopGrace := 70000

/-! ### The URL of the controller -/

/-- Why a URL cannot be that of a controller. They are looked for in this order. -/
inductive UrlFault where
  /-- It is no URL. -/
  | unreadable (e : Url.ParseError)
  /-- Its scheme is neither `http` nor `https`. -/
  | scheme
  /-- It has no host. -/
  | noHost
  /-- It has a query or a fragment. -/
  | tail
deriving Repr, DecidableEq

/-- The words for a fault in messages. -/
def UrlFault.message : UrlFault → String
  | .unreadable e => e.message
  | .scheme => "scheme must be http or https"
  | .noHost => "missing host"
  | .tail => "query and fragment are not allowed"

/-- Validates the URL of a controller, and gives `raw` without slashes at its end. What is validated
is the URL that `raw` parses to, while what is kept is the text. -/
def validateUrl (raw : String) : Except UrlFault String := do
  let url ← (Url.parse raw).mapError .unreadable
  if url.scheme ≠ "http" ∧ url.scheme ≠ "https" then throw .scheme
  if url.host.isNone then throw .noHost
  if url.query.isSome || url.fragment.isSome then throw .tail
  return Text.dropTrailing '/' raw

/-! ### Settings -/

/-- Why settings are refused, each with the text that was given. -/
inductive ConfigError where
  | usage (e : CommandLine.UsageError)
  | controllerUrl (url : String) (fault : UrlFault)
  | project (e : IdentifierError)
  | logLevel (text : String)

/-- The message for a reader, if the error has a wording of its own. -/
def ConfigError.message? : ConfigError → Option String
  | .usage _ => none
  | .controllerUrl url fault =>
    some ("invalid controller URL '" ++ url ++ "': " ++ fault.message)
  | .project e => some ("invalid project: " ++ e.message)
  | .logLevel text =>
    some ("invalid log level '" ++ text ++
      "' (expected trace, debug, info, warn, error or fatal)")

/-- The port of the text `s`: a decimal number, perhaps behind a sign, that fits in sixteen bits. -/
def portOf? (s : String) : Option Nat :=
  let (negative, ds) := match s.toList with
    | '-' :: r => (true, r)
    | '+' :: r => (false, r)
    | r => (false, r)
  if ds.isEmpty then none
  else match Url.number? 10 ds with
    | none => none
    | some n => if 65535 < n || (negative && n != 0) then none else some n

/-- Any text. -/
def anyText (_ : String) : Option CommandLine.UsageError := none

/-- A path, which is not empty. -/
def aPath (s : String) : Option CommandLine.UsageError :=
  if s = "" then some .invalidValue else none

/-- A port. -/
def aPort (s : String) : Option CommandLine.UsageError :=
  if (portOf? s).isNone then some .malformedValue else none

/-- The name of a log format. -/
def aFormat (s : String) : Option CommandLine.UsageError :=
  if s = "json" ∨ s = "pretty" then none else some .invalidValue

/-- The settings that can be given, in the order in which their variables are looked at. -/
def settings : List CommandLine.Setting := [
  ⟨"controller", "DEVICEPLANE_CONTROLLER", some defaultControllerUrl, anyText⟩,
  ⟨"project", "DEVICEPLANE_PROJECT", none, anyText⟩,
  ⟨"registration-token", "DEVICEPLANE_REGISTRATION_TOKEN", none, anyText⟩,
  ⟨"conf-dir", "DEVICEPLANE_CONF_DIR", some "/etc/deviceplane", aPath⟩,
  ⟨"state-dir", "DEVICEPLANE_STATE_DIR", some "/var/lib/deviceplane", aPath⟩,
  ⟨"server-port", "DEVICEPLANE_SERVER_PORT", some "4444", aPort⟩,
  ⟨"log-level", "DEVICEPLANE_LOG_LEVEL", some "info", anyText⟩,
  ⟨"log-format", "DEVICEPLANE_LOG_FORMAT", some "json", aFormat⟩]

/-- Settings as they are given, of which only the port and the format have been read. -/
structure Given where
  controller : String
  project : String
  registrationToken : Option String
  confDir : String
  stateDir : String
  serverPort : Nat
  logLevel : String
  logFormat : LogFormat

/-- Reads settings from the arguments `args` and an environment, given as pairs of names and values.
A project must be given; everything else has a default or may be absent. -/
def readGiven (environment : List (String × String)) (args : List String) :
    Except CommandLine.UsageError Given := do
  let values ← CommandLine.read settings environment args
  match values.lookup "project" with
  | none => throw .missingArgument
  | some project =>
    let value (name : String) : String := (values.lookup name).getD ""
    return {
      controller := value "controller"
      project := project
      registrationToken := values.lookup "registration-token"
      confDir := value "conf-dir"
      stateDir := value "state-dir"
      serverPort := (portOf? (value "server-port")).getD 0
      logLevel := value "log-level"
      logFormat := if value "log-format" = "pretty" then .pretty else .json }

/-- Validates settings and gives the first fault, or the configuration. A token of blanks alone
counts as none. -/
def ofGiven (g : Given) : Except ConfigError Config := do
  let url ← (validateUrl g.controller).mapError (.controllerUrl g.controller)
  let project ← (Identifier.parse .project g.project).mapError .project
  let level ← match LogLevel.ofText? g.logLevel with
    | some level => pure level
    | none => throw (.logLevel g.logLevel)
  return { standard url project with
    registrationToken := (g.registrationToken.filter fun t => Text.trim t != "").map (⟨·⟩)
    confDir := g.confDir
    stateDir := g.stateDir
    serverPort := g.serverPort
    logLevel := level
    logFormat := g.logFormat }

/-- The configuration of a command line and an environment. -/
def ofCommandLine (environment : List (String × String)) (args : List String) :
    Except ConfigError Config := do
  ofGiven (← (readGiven environment args).mapError .usage)

end Config

end FleetAgent
