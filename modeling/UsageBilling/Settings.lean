import UsageBilling.Fault
import UsageBilling.Json.Record
import UsageBilling.Plan
import UsageBilling.Provider.Client
import UsageBilling.Text.Blank
import UsageBilling.Webhook.Acceptance
/-!
Settings of the service, read from the environment. A number that cannot be read counts as not set;
the port is the exception.
-/
namespace UsageBilling

structure Listener where
  host : String := "0.0.0.0"
  port : Nat := 8080
  deriving DecidableEq, Repr, Inhabited

namespace Listener

def address (listener : Listener) : String := listener.host ++ ":" ++ toString listener.port

open Json in
def reader : Reader Listener := Reader.record [
  .defaulted "host" Reader.string fun value listener => { listener with host := value },
  .defaulted "port" (Reader.unsigned Text.greatestUnsigned16)
    fun value listener => { listener with port := value }] {}

end Listener

structure TrackerSettings where
  flushIntervalSecs : Nat := 10
  flushThreshold : Nat := 100
  closeTimeoutSecs : Nat := 30
  deriving DecidableEq, Repr, Inhabited

structure DatabaseSettings where
  url : String
  maxConnections : Nat := 10
  minConnections : Nat := 2
  deriving DecidableEq, Repr, Inhabited

structure Settings where
  listener : Listener := {}
  serviceName : String := "metering-service"
  serviceVersion : String := "0.1.0"
  logLevel : String := "info"
  otlpEndpoint : Option String := none
  database : DatabaseSettings
  tracker : TrackerSettings := {}
  /-- How often usage is reported; never without it. -/
  reportIntervalSecs : Option Nat := none
  provider : Provider.ClientSettings := {}
  webhook : Webhook.Settings := {}
  prices : PriceIds := {}
  deriving DecidableEq, Repr, Inhabited

abbrev Environment := List (String × String)

namespace Environment

variable (environment : Environment)

def textOr (name usual : String) : String := (environment.lookup name).getD usual

def numberOr (name : String) (greatest usual : Nat) : Nat :=
  ((environment.lookup name).bind fun text =>
    Text.readUnsigned? greatest (Text.trim text.toList)).getD usual

def signedOr (name : String) (usual : Int) : Int :=
  ((environment.lookup name).bind fun text => Text.readSigned? (Text.trim text.toList)).getD usual

def quoted (text : String) : String := "\"" ++ text ++ "\""

def wordValue? (word : String) : Option Nat :=
  if ["true", "on", "yes"].contains word.toLower then some 1
  else if ["false", "off", "no"].contains word.toLower then some 0
  else none

def readPort (text : String) : Except Fault Nat :=
  match (wordValue? text).or (Text.readUnsigned? Text.greatestUnsigned16 text.toList) with
  | some port => .ok port
  | none =>
    let complaint := "invalid type: string " ++ quoted text ++
      ", expected an integer for key \x60port\x60 in the environment"
    .error (.configuration ⟨complaint, []⟩)

def listener : Except Fault Listener := do
  let port ← match environment.lookup "APP__PORT" with
    | some text => readPort text
    | none => pure ({} : Listener).port
  return { host := environment.textOr "APP__HOST" ({} : Listener).host, port }

def positive (name : String) (value : Nat) : Except Fault Nat :=
  if value = 0 then .error (.configuration ⟨name ++ " must be greater than zero", []⟩) else .ok value

end Environment

namespace Settings

/-- Reads the settings. Of several faults the one of the port comes first, then those of the flushes,
and last a missing database. -/
def ofEnvironment (environment : Environment) : Except Fault Settings := do
  let listener ← environment.listener
  let word := Text.greatestUnsigned64
  let usual : Settings := { database := { url := "" } }
  let flushThreshold ← Environment.positive "USAGE_FLUSH_THRESHOLD"
    (environment.numberOr "USAGE_FLUSH_THRESHOLD" word usual.tracker.flushThreshold)
  let flushIntervalSecs ← Environment.positive "USAGE_FLUSH_INTERVAL_SECS"
    (environment.numberOr "USAGE_FLUSH_INTERVAL_SECS" word usual.tracker.flushIntervalSecs)
  let reportIntervalSecs := environment.numberOr "USAGE_REPORT_INTERVAL_SECS" word 0
  let url ← match environment.lookup "DATABASE_URL" with
    | some url => pure url
    | none => throw (.configuration ⟨"DATABASE_URL is required", []⟩)
  return {
    listener
    serviceName := environment.textOr "SERVICE_NAME" usual.serviceName
    serviceVersion := environment.textOr "SERVICE_VERSION" usual.serviceVersion
    logLevel := environment.textOr "LOG_LEVEL" usual.logLevel
    otlpEndpoint := (environment.lookup "OTLP_ENDPOINT").filter (· ≠ "")
    database := {
      url
      maxConnections := environment.numberOr "DATABASE_MAX_CONNECTIONS" Text.greatestUnsigned32
        usual.database.maxConnections
      minConnections := environment.numberOr "DATABASE_MIN_CONNECTIONS" Text.greatestUnsigned32
        usual.database.minConnections }
    tracker := {
      flushIntervalSecs
      flushThreshold
      closeTimeoutSecs := environment.numberOr "USAGE_FLUSH_TIMEOUT_SECS" word
        usual.tracker.closeTimeoutSecs }
    reportIntervalSecs := if reportIntervalSecs = 0 then none else some reportIntervalSecs
    provider := {
      baseUrl := environment.textOr "BILLING_PROVIDER_URL" usual.provider.baseUrl
      secretKey := environment.textOr "BILLING_PROVIDER_SECRET_KEY" usual.provider.secretKey
      timeoutSecs := environment.numberOr "BILLING_PROVIDER_TIMEOUT_SECS" word
        usual.provider.timeoutSecs }
    webhook := {
      secret := environment.textOr "BILLING_WEBHOOK_SECRET" usual.webhook.secret
      toleranceSecs := environment.signedOr "BILLING_WEBHOOK_TOLERANCE_SECS"
        usual.webhook.toleranceSecs }
    prices := {
      pro := environment.lookup "PRICE_ID_PRO"
      enterprise := environment.lookup "PRICE_ID_ENTERPRISE" } }

open Json (ofText? ofOption)

def toJson (settings : Settings) : Json :=
  .obj [
    ("bind", .str settings.listener.address),
    ("host", .str settings.listener.host),
    ("port", .int settings.listener.port),
    ("service_name", .str settings.serviceName),
    ("service_version", .str settings.serviceVersion),
    ("log_level", .str settings.logLevel),
    ("otlp_endpoint", ofText? settings.otlpEndpoint),
    ("database", .obj [
      ("url", .str settings.database.url),
      ("max", .int settings.database.maxConnections),
      ("min", .int settings.database.minConnections)]),
    ("tracker", .obj [
      ("interval_secs", .int settings.tracker.flushIntervalSecs),
      ("threshold", .int settings.tracker.flushThreshold),
      ("close_timeout_secs", .int settings.tracker.closeTimeoutSecs)]),
    ("report_interval_secs", ofOption (fun (secs : Nat) => .int secs) settings.reportIntervalSecs),
    ("provider", .obj [
      ("url", .str settings.provider.baseUrl),
      ("key", .str settings.provider.secretKey),
      ("timeout_secs", .int settings.provider.timeoutSecs)]),
    ("webhook", .obj [
      ("secret", .str settings.webhook.secret),
      ("tolerance", .int settings.webhook.toleranceSecs)]),
    ("prices", .obj [
      ("pro", ofText? settings.prices.pro),
      ("enterprise", ofText? settings.prices.enterprise)])]

end Settings

end UsageBilling
