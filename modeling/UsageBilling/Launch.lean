import UsageBilling.Http.Handlers
import UsageBilling.Settings
/-!
The start of the program up to the database: the settings are read, the log and the tracer are set up,
and the database is asked for a connection. A start ends with a fault if the settings cannot be read or
the database refuses. It leaves behind an exit code, the log, and what is told to standard error.
-/
namespace UsageBilling

inductive LogLevel where
  | error
  | warn
  | info
  | debug
  | trace
  deriving DecidableEq, Repr

namespace LogLevel

def rank : LogLevel → Nat
  | error => 1
  | warn => 2
  | info => 3
  | debug => 4
  | trace => 5

def name : LogLevel → String
  | error => "ERROR"
  | warn => "WARN"
  | info => "INFO"
  | debug => "DEBUG"
  | trace => "TRACE"

end LogLevel

structure LogEvent where
  level : LogLevel
  /-- The part of the program that tells. -/
  target : String
  message : String
  fields : List (String × Json)
  deriving DecidableEq

namespace LogEvent

def toJson (event : LogEvent) : Json :=
  .obj ([("level", .str event.level.name), ("message", .str event.message),
    ("target", .str event.target)] ++ event.fields)

end LogEvent

/-- Lets the events of the targets that start with `target` pass up to a rank; zero lets none. -/
structure LogDirective where
  target : String
  rank : Nat
  deriving DecidableEq, Repr

namespace LogDirective

def rank? (text : String) : Option Nat :=
  let names := [["off", "0"], ["error", "1"], ["warn", "2"], ["info", "3"], ["debug", "4"],
    ["trace", "5"]]
  names.findIdx? fun names => names.contains text.toLower

def isTargetChar (c : Char) : Bool := c.isAlphanum || c == '_' || c == ':' || c == '-'

def isTarget (text : List Char) : Bool := !text.isEmpty && text.all isTargetChar

def parse? (text : String) : Option LogDirective :=
  match rank? text with
  | some rank => some ⟨"", rank⟩
  | none =>
    let target := text.toList.takeWhile (· ≠ '=')
    if isTarget target then
      match text.toList.drop target.length with
      | [] | ['='] => some ⟨String.ofList target, LogLevel.trace.rank⟩
      | _ :: rank => (rank? (String.ofList rank)).map fun rank => ⟨String.ofList target, rank⟩
    else none

def pieces (text : String) : List String :=
  ((text.toList.splitOn ',').map String.ofList).filter (· ≠ "")

def covers (directive : LogDirective) (event : LogEvent) : Bool :=
  directive.target.toList.isPrefixOf event.target.toList

end LogDirective

/-- A list of directives. The longest target that covers an event decides about it. -/
abbrev LogFilter := List LogDirective

namespace LogFilter

def orErrors (filter : LogFilter) : LogFilter :=
  if filter.isEmpty then [⟨"", LogLevel.error.rank⟩] else filter

/-- Reads a filter in which every directive must be readable. -/
def parse? (text : String) : Option LogFilter :=
  ((LogDirective.pieces text).mapM LogDirective.parse?).map orErrors

/-- Reads the directives that can be read. -/
def ofText (text : String) : LogFilter :=
  orErrors ((LogDirective.pieces text).filterMap LogDirective.parse?)

/-- The directive among those given first and last that has the longer target; the last of equals. -/
def closer (event : LogEvent) (found : Option LogDirective) (directive : LogDirective) :
    Option LogDirective :=
  if directive.covers event then
    match found with
    | some other =>
      if other.target.length ≤ directive.target.length then some directive else found
    | none => some directive
  else found

def passes (filter : LogFilter) (event : LogEvent) : Bool :=
  (filter.foldl (closer event) none).any fun directive => event.level.rank ≤ directive.rank

end LogFilter

structure Launch where
  exitCode : Nat
  logs : List LogEvent := []
  errorLines : List String := []
  deriving DecidableEq

namespace Launch

def escapeChar (c : Char) : List Char :=
  if c = '\x22' then ['\\', '\x22']
  else if c = '\\' then ['\\', '\\']
  else if c = '\n' then ['\\', 'n']
  else if c = '\r' then ['\\', 'r']
  else if c = '\t' then ['\\', 't']
  else if c.toNat = 0 then ['\\', '0']
  else if c.toNat < 0x20 ∨ c.toNat = 0x7f then
    "\\u\x7b".toList ++ Nat.toDigits 16 c.toNat ++ ['\x7d']
  else [c]

def quoted (text : String) : String :=
  "\"" ++ String.ofList (text.toList.flatMap escapeChar) ++ "\""

def optionText (value : Option String) : String :=
  match value with
  | some text => "Some(" ++ text ++ ")"
  | none => "None"

def errorLine (text : String) : String :=
  "Error: Custom \x7b kind: Other, error: " ++ quoted text ++ " \x7d"

def connectFault : Fault :=
  .database ⟨"Failed to connect: error with configuration: no such database", []⟩

def listenFault : Fault := .internal ⟨"Address already in use (os error 98)", []⟩

def serviceTarget : String := "metering_service"

def startEvents (settings : Settings) : List LogEvent :=
  let number (n : Nat) : Json := .int n
  let shown (n : Nat) : Json := .str (toString n)
  [⟨.info, serviceTarget, "Starting metering-service",
      [("version", .str Http.serviceVersion),
        ("otlp_endpoint", .str (optionText (settings.otlpEndpoint.map quoted)))]⟩,
    ⟨.info, serviceTarget, "Configuration loaded",
      [("service_name", .str settings.serviceName), ("http_port", shown settings.listener.port),
        ("db_max_connections", shown settings.database.maxConnections),
        ("db_min_connections", shown settings.database.minConnections),
        ("flush_interval_secs", number settings.tracker.flushIntervalSecs),
        ("flush_threshold", number settings.tracker.flushThreshold),
        ("report_interval_secs", .str (optionText (settings.reportIntervalSecs.map toString))),
        ("provider_url", .str settings.provider.baseUrl)]⟩,
    ⟨.info, serviceTarget ++ "::services::database", "Connecting to PostgreSQL",
      [("max_connections", number settings.database.maxConnections),
        ("min_connections", number settings.database.minConnections)]⟩]

def faultEvents (fault : Fault) : List LogEvent :=
  [⟨.error, serviceTarget ++ "::startup", "Failed to connect to PostgreSQL",
      [("error", .str fault.message)]⟩,
    ⟨.error, serviceTarget, "Failed to build application", [("error", .str fault.message)]⟩]

/-- The filter that the environment asks for; one that cannot be read gives way to the settings. -/
def filterOf (environment : Environment) (settings : Settings) : LogFilter :=
  ((environment.lookup "RUST_LOG").bind LogFilter.parse?).getD (LogFilter.ofText settings.logLevel)

/-- A tracer that is not set up is told by its endpoint, and the start goes on without it. -/
def tracerLines (settings : Settings) : List String :=
  settings.otlpEndpoint.toList.map fun endpoint =>
    "Failed to initialize OTLP tracer for service '" ++ settings.serviceName ++
      "' at endpoint '" ++ endpoint ++ "'"

def run (environment : Environment) : Launch :=
  match Settings.ofEnvironment environment with
  | .error fault => {
      exitCode := 1
      errorLines := ["Failed to load configuration: " ++ fault.message,
        errorLine ("Configuration error: " ++ fault.message)] }
  | .ok settings => {
      exitCode := 1
      logs := (startEvents settings ++ faultEvents connectFault).filter fun event =>
        (filterOf environment settings).passes event
      errorLines := tracerLines settings ++
        [errorLine ("Application build error: " ++ connectFault.message)] }

def variableNames : List String :=
  ["APP__HOST", "APP__PORT", "USAGE_FLUSH_THRESHOLD", "USAGE_FLUSH_INTERVAL_SECS",
    "USAGE_REPORT_INTERVAL_SECS", "USAGE_FLUSH_TIMEOUT_SECS", "SERVICE_NAME", "SERVICE_VERSION",
    "LOG_LEVEL", "RUST_LOG", "OTLP_ENDPOINT", "DATABASE_URL", "DATABASE_MAX_CONNECTIONS",
    "DATABASE_MIN_CONNECTIONS", "BILLING_PROVIDER_URL", "BILLING_PROVIDER_SECRET_KEY",
    "BILLING_PROVIDER_TIMEOUT_SECS", "BILLING_WEBHOOK_SECRET", "BILLING_WEBHOOK_TOLERANCE_SECS",
    "PRICE_ID_PRO", "PRICE_ID_ENTERPRISE"]

end Launch

end UsageBilling
