import Runbook.Schema
import Runbook.Text.Blank
import Runbook.Value.Equality

/-!
The settings of the orchestrator. Each has a name under which the environment or a caller may give
it, and a default.
-/

namespace Runbook

structure Settings where
  appName : String
  appVersion : String
  apiRoot : String
  environment : String
  databaseUrl : String
  echoesSql : Bool
  poolSize : Int
  poolOverflow : Int
  completionUrl : String
  completionKey : String
  completionTimeout : Double
  httpTimeout : Double
  mailHost : String
  mailPort : Int
  mailUser : String
  mailPassword : String
  mailSecured : Bool
  mailSender : String
  slackUrl : String
  smsUrl : String
  smsToken : String
  ordersByDependency : Bool
  enforcesTimeouts : Bool
  stepTimeout : Option Double
  recordsSteps : Bool
  allowedOrigins : String
  logLevel : String
  logFormat : String
deriving Repr

namespace Settings

open Schema

/-- All settings by name, with their defaults. -/
def defaults : Value.Fields := [
  ("APP_NAME", .string "Workflow Orchestrator"), ("APP_VERSION", .string "1.0.0"),
  ("API_V1_PREFIX", .string "/api/v1"), ("ENVIRONMENT", .string "development"),
  ("DATABASE_URL", .string "sqlite+aiosqlite:///./orchestrator.db"),
  ("SQLALCHEMY_ECHO", .bool false), ("DB_POOL_SIZE", .int 20), ("DB_MAX_OVERFLOW", .int 10),
  ("AI_PROCESSOR_URL", .string ""), ("AI_PROCESSOR_API_KEY", .string ""),
  ("AI_PROCESSOR_TIMEOUT", .double (.ofInt 120)), ("HTTP_DEFAULT_TIMEOUT", .double (.ofInt 30)),
  ("SMTP_HOST", .string ""), ("SMTP_PORT", .int 587), ("SMTP_USER", .string ""),
  ("SMTP_PASSWORD", .string ""), ("SMTP_USE_TLS", .bool true),
  ("EMAIL_FROM", .string "workflows@localhost"), ("SLACK_WEBHOOK_URL", .string ""),
  ("SMS_GATEWAY_URL", .string ""), ("SMS_GATEWAY_TOKEN", .string ""),
  ("DEPENDENCY_ORDERED_EXECUTION", .bool false), ("ENFORCE_STEP_TIMEOUTS", .bool true),
  ("DEFAULT_STEP_TIMEOUT", .null), ("RECORD_STEP_RESULTS", .bool false),
  ("ALLOWED_ORIGINS", .string "*"), ("LOG_LEVEL", .string "INFO"), ("LOG_FORMAT", .string "auto")]

/-- What is given for a setting: by the caller, else by the environment, else its default. -/
def given (arguments environment : Value.Fields) (name : String) : Value :=
  ((Entries.get? arguments name).or ((Entries.get? environment name).or
    (Entries.get? defaults name))).getD .null

/-- Arguments that name no setting. -/
def unknownArguments (arguments : Value.Fields) : List Issue :=
  (arguments.filter fun entry => !Entries.has defaults entry.1).map fun entry =>
    ⟨[entry.1], .unexpected⟩

def decodeFields (arguments environment : Value.Fields) : Decoded Settings :=
  let setting {α : Type} (name : String) (decode : Decoder α) : Decoded α :=
    (decode (given arguments environment name)).under name
  Decoded.valid Settings.mk
    |>.part (setting "APP_NAME" text)
    |>.part (setting "APP_VERSION" text)
    |>.part (setting "API_V1_PREFIX" text)
    |>.part (setting "ENVIRONMENT" text)
    |>.part (setting "DATABASE_URL" text)
    |>.part (setting "SQLALCHEMY_ECHO" boolean)
    |>.part (setting "DB_POOL_SIZE" integer)
    |>.part (setting "DB_MAX_OVERFLOW" integer)
    |>.part (setting "AI_PROCESSOR_URL" text)
    |>.part (setting "AI_PROCESSOR_API_KEY" text)
    |>.part (setting "AI_PROCESSOR_TIMEOUT" number)
    |>.part (setting "HTTP_DEFAULT_TIMEOUT" number)
    |>.part (setting "SMTP_HOST" text)
    |>.part (setting "SMTP_PORT" integer)
    |>.part (setting "SMTP_USER" text)
    |>.part (setting "SMTP_PASSWORD" text)
    |>.part (setting "SMTP_USE_TLS" boolean)
    |>.part (setting "EMAIL_FROM" text)
    |>.part (setting "SLACK_WEBHOOK_URL" text)
    |>.part (setting "SMS_GATEWAY_URL" text)
    |>.part (setting "SMS_GATEWAY_TOKEN" text)
    |>.part (setting "DEPENDENCY_ORDERED_EXECUTION" boolean)
    |>.part (setting "ENFORCE_STEP_TIMEOUTS" boolean)
    |>.part (setting "DEFAULT_STEP_TIMEOUT" (nullable number))
    |>.part (setting "RECORD_STEP_RESULTS" boolean)
    |>.part (setting "ALLOWED_ORIGINS" text)
    |>.part (setting "LOG_LEVEL" text)
    |>.part (setting "LOG_FORMAT" text)

/-- The settings from arguments and environment. Arguments that name no setting are refused; the
environment may hold anything else. -/
def load (arguments environment : Value.Fields) : Decoded Settings :=
  match decodeFields arguments environment, unknownArguments arguments with
  | .valid settings, [] => .valid settings
  | decoded, unknown => .invalid (decoded.issues ++ unknown)

/-- All settings by name. -/
def toFields (s : Settings) : Value.Fields := [
  ("APP_NAME", .string s.appName), ("APP_VERSION", .string s.appVersion),
  ("API_V1_PREFIX", .string s.apiRoot), ("ENVIRONMENT", .string s.environment),
  ("DATABASE_URL", .string s.databaseUrl), ("SQLALCHEMY_ECHO", .bool s.echoesSql),
  ("DB_POOL_SIZE", .int s.poolSize), ("DB_MAX_OVERFLOW", .int s.poolOverflow),
  ("AI_PROCESSOR_URL", .string s.completionUrl), ("AI_PROCESSOR_API_KEY", .string s.completionKey),
  ("AI_PROCESSOR_TIMEOUT", .double s.completionTimeout),
  ("HTTP_DEFAULT_TIMEOUT", .double s.httpTimeout), ("SMTP_HOST", .string s.mailHost),
  ("SMTP_PORT", .int s.mailPort), ("SMTP_USER", .string s.mailUser),
  ("SMTP_PASSWORD", .string s.mailPassword), ("SMTP_USE_TLS", .bool s.mailSecured),
  ("EMAIL_FROM", .string s.mailSender), ("SLACK_WEBHOOK_URL", .string s.slackUrl),
  ("SMS_GATEWAY_URL", .string s.smsUrl), ("SMS_GATEWAY_TOKEN", .string s.smsToken),
  ("DEPENDENCY_ORDERED_EXECUTION", .bool s.ordersByDependency),
  ("ENFORCE_STEP_TIMEOUTS", .bool s.enforcesTimeouts),
  ("DEFAULT_STEP_TIMEOUT", .ofOption .double s.stepTimeout),
  ("RECORD_STEP_RESULTS", .bool s.recordsSteps), ("ALLOWED_ORIGINS", .string s.allowedOrigins),
  ("LOG_LEVEL", .string s.logLevel), ("LOG_FORMAT", .string s.logFormat)]

/-- The settings whose values are not the defaults. -/
def changed (settings : Settings) : Value.Fields :=
  settings.toFields.filter fun entry =>
    match Entries.get? defaults entry.1 with
    | some default => !Value.nestedEq entry.2 default
    | none => true

def isDevelopment (settings : Settings) : Bool :=
  settings.environment == "development"

def isProduction (settings : Settings) : Bool :=
  settings.environment == "production"

/-- The origins that may send requests, as a comma separates them. -/
def origins (settings : Settings) : List String :=
  ((settings.allowedOrigins.splitOn ",").map fun origin =>
    String.ofList (Text.trimBlank origin.toList)).filter fun origin => !origin.isEmpty

/-- The notification channels that are set up, with their settings. -/
def channels (s : Settings) : Value.Fields :=
  (if s.mailHost.isEmpty then [] else [("email", .object [
    ("smtp_host", .string s.mailHost), ("smtp_port", .int s.mailPort),
    ("smtp_user", .string s.mailUser), ("smtp_password", .string s.mailPassword),
    ("from_address", .string s.mailSender), ("use_tls", .bool s.mailSecured)])])
  ++ (if s.slackUrl.isEmpty then [] else
    [("slack", .object [("webhook_url", .string s.slackUrl)])])
  ++ (if s.smsUrl.isEmpty then [] else [("sms", .object [
    ("gateway_url", .string s.smsUrl), ("token", .string s.smsToken)])])

end Settings

end Runbook
