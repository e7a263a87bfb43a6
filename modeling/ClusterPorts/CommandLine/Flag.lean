import ClusterPorts.Failure
import ClusterPorts.Log
import ClusterPorts.Text.Pieces

/-!
# Flags

The flags of the command line, each with the variable of the environment that
stands in for it and with what it takes. A value is checked when it is read; what
is wrong with a command line is a `UsageFault`.
-/

namespace ClusterPorts.CommandLine

/-- A flag. `port` belongs to one command; the others belong to all. -/
inductive Flag where
  | config
  | subscriptionId
  | infraId
  | region
  | resourceGroup
  | tenantId
  | clientId
  | clientSecret
  | accessToken
  | timeoutSecs
  | pollSecs
  | dryRun
  | logLevel
  | port
deriving DecidableEq, Repr, Inhabited

namespace Flag

/-- The name of a flag. -/
def name : Flag → String
  | config => "config"
  | subscriptionId => "subscription-id"
  | infraId => "infra-id"
  | region => "region"
  | resourceGroup => "resource-group"
  | tenantId => "tenant-id"
  | clientId => "client-id"
  | clientSecret => "client-secret"
  | accessToken => "access-token"
  | timeoutSecs => "timeout-secs"
  | pollSecs => "poll-interval-secs"
  | dryRun => "dry-run"
  | logLevel => "log-level"
  | port => "port"

/-- The variable that stands in for a flag. -/
def variableName : Flag → String
  | config => "CLOUD_PREPARE_CONFIG"
  | subscriptionId => "AZURE_SUBSCRIPTION_ID"
  | infraId => "CLOUD_PREPARE_INFRA_ID"
  | region => "AZURE_REGION"
  | resourceGroup => "CLOUD_PREPARE_RESOURCE_GROUP"
  | tenantId => "AZURE_TENANT_ID"
  | clientId => "AZURE_CLIENT_ID"
  | clientSecret => "AZURE_CLIENT_SECRET"
  | accessToken => "AZURE_ACCESS_TOKEN"
  | timeoutSecs => "CLOUD_PREPARE_TIMEOUT_SECS"
  | pollSecs => "CLOUD_PREPARE_POLL_INTERVAL_SECS"
  | dryRun => "CLOUD_PREPARE_DRY_RUN"
  | logLevel => "CLOUD_PREPARE_LOG_LEVEL"
  | port => "CLOUD_PREPARE_PORTS"

/-- What the value of a flag is called. -/
def placeholder : Flag → String
  | timeoutSecs => "TIMEOUT_SECS"
  | pollSecs => "POLL_INTERVAL_SECS"
  | port => "PORTS"
  | _ => "VALUE"

/-- Whether a flag takes a value. -/
def takesValue : Flag → Bool
  | dryRun => false
  | _ => true

/-- Whether a flag may be given more than once. -/
def isRepeatable : Flag → Bool
  | port => true
  | _ => false

/-- The flags that belong to all commands. -/
def common : List Flag :=
  [config, subscriptionId, infraId, region, resourceGroup, tenantId, clientId, clientSecret,
    accessToken, timeoutSecs, pollSecs, dryRun, logLevel]

/-- The flags that name a cluster on Azure or let a client in there. -/
def azure : List Flag :=
  [subscriptionId, infraId, region, resourceGroup, tenantId, clientId, clientSecret, accessToken]

/-- The levels that can be asked for. -/
def levels : List String := ["trace", "debug", "info", "warn", "error"]

end Flag

/-- What is wrong with a command line, or what it asks for instead of a command. -/
inductive UsageFault where
  | helpWanted
  | versionWanted
  | nothingGiven
  | noCommand
  | unknownCommand
  | unknownArgument
  | noValue
  | unknownChoice
  | surplusValue
  | repeatedFlag
  | badValue (value : String) (flag : Flag) (reason : String)
deriving DecidableEq, Repr

namespace UsageFault

/-- The kind of a fault. -/
def kind : UsageFault → String
  | helpWanted => "DisplayHelp"
  | versionWanted => "DisplayVersion"
  | nothingGiven => "DisplayHelpOnMissingArgumentOrSubcommand"
  | noCommand => "MissingSubcommand"
  | unknownCommand => "InvalidSubcommand"
  | unknownArgument => "UnknownArgument"
  | noValue => "InvalidValue"
  | unknownChoice => "InvalidValue"
  | surplusValue => "TooManyValues"
  | repeatedFlag => "ArgumentConflict"
  | badValue _ _ _ => "ValueValidation"

/-- Whether a fault is not one: the program says what was asked for and ends well. -/
def isWanted : UsageFault → Bool
  | helpWanted => true
  | versionWanted => true
  | _ => false

/-- The first line of what is said about a value that cannot be read. -/
def message? : UsageFault → Option String
  | badValue value flag reason =>
    let all := "error: invalid value '" ++ value ++ "' for '--" ++ flag.name ++ " <"
      ++ flag.placeholder ++ ">': " ++ reason
    some (String.ofList (all.toList.takeWhile (· ≠ '\n')))
  | _ => none

end UsageFault

/-- The value of a flag. -/
inductive Value where
  | text (s : String)
  | number (n : UInt64)
  | port (port : Port)
  | truth (b : Bool)
deriving DecidableEq, Repr, Inhabited

namespace Flag

/-- Read a number of seconds. -/
def readSecs (flag : Flag) (s : String) : Except UsageFault Value :=
  match Text.numeralUpTo Text.largestWord s.toList with
  | .ok n => .ok (.number n.toUInt64)
  | .error fault => .error (.badValue s flag fault.message)

/-- Read a value of a flag. -/
def read (flag : Flag) (s : String) : Except UsageFault Value :=
  match flag with
  | config => if s = "" then .error .noValue else .ok (.text s)
  | timeoutSecs => readSecs flag s
  | pollSecs => readSecs flag s
  | dryRun =>
    if s = "true" then .ok (.truth true)
    else if s = "false" then .ok (.truth false)
    else .error .unknownChoice
  | logLevel => if levels.contains s then .ok (.text s) else .error .unknownChoice
  | port =>
    match Port.read s with
    | .ok p => .ok (.port p)
    | .error failure => .error (.badValue s flag failure.message)
  | _ => .ok (.text s)

/-- Read what is given for a flag: ports may be separated by commas. -/
def readAll (flag : Flag) (s : String) : Except UsageFault (List Value) :=
  match flag with
  | port => (Text.pieces ',' s.toList).mapM fun piece => flag.read (String.ofList piece)
  | _ => do return [← flag.read s]

end Flag

end ClusterPorts.CommandLine
