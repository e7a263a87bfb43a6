import ClusterPorts.Json.Problem
import ClusterPorts.Port

/-!
# Failures

Why an operation did not succeed. A failure that the library itself finds is
named by its cause; one that comes from outside carries the words it came with.
The wording of all of them is here.
-/

namespace ClusterPorts

/-- What is wrong with a configuration. -/
inductive SettingsFault where
  | blankField (name : String)
  | noCredentials
  | noFactory
  | noFactorySettings
  | noTimeout
  | noPollInterval
  | pollBeyondTimeout (poll timeout : Nat)
  | flawedPorts (flaw : Port.Flaw)
  | unknownCloud (name : String)
  | notAzure
  | unreadableFile (path reason : String)
  | unreadableText (path : String) (problem : Json.Problem)
  | other (message : String)
deriving DecidableEq, Repr

/-- The wording of a configuration's faults. -/
def SettingsFault.message : SettingsFault → String
  | .blankField name => "Azure " ++ name ++ " cannot be empty"
  | .noCredentials =>
    "Azure credentials missing: set access_token, or tenant_id, client_id and client_secret"
  | .noFactory => "Custom cloud factory cannot be empty"
  | .noFactorySettings => "Custom cloud config cannot be null"
  | .noTimeout => "Operation timeout must be > 0"
  | .noPollInterval => "Poll interval must be > 0"
  | .pollBeyondTimeout poll timeout =>
    "Poll interval (" ++ toString poll ++ "s) cannot exceed the operation timeout ("
      ++ toString timeout ++ "s)"
  | .flawedPorts .zero => "Port 0 cannot be opened"
  | .flawedPorts (.repeated port) => "Duplicate port " ++ port.text
  | .unknownCloud name => "Unknown cloud type: " ++ name
  | .notAzure => "Invalid config for Azure cloud"
  | .unreadableFile path reason => "Failed to read " ++ path ++ ": " ++ reason
  | .unreadableText path problem => "Failed to parse " ++ path ++ ": " ++ problem.message
  | .other message => message

/-- Why an operation cannot be done as it was asked for. -/
inductive InputFault where
  | notAPort (fault : PortFault)
  | noPorts
  | tooManyPorts (requested capacity : Nat)
  | flawedPorts (flaw : Port.Flaw)
  | noPriorityLeft (group : String) (port : Port)
  | alreadyForwarded (port : Port) (rule balancer : String)
  | foreignAssociation (subnet current group : String)
  | other (message : String)
deriving DecidableEq, Repr

/-- The wording of what is wrong with an input. -/
def InputFault.message : InputFault → String
  | .notAPort fault => fault.message
  | .noPorts => "no ports to open"
  | .tooManyPorts requested capacity =>
    toString requested ++ " ports requested, a security group holds at most "
      ++ toString capacity ++ " rules in its priority range"
  | .flawedPorts .zero => "port 0 cannot be opened"
  | .flawedPorts (.repeated port) => "port " ++ port.text ++ " listed twice"
  | .noPriorityLeft group port =>
    "no free rule priority left in security group " ++ group ++ " for port " ++ port.text
  | .alreadyForwarded port rule balancer =>
    "port " ++ port.text ++ " is already forwarded by rule " ++ rule
      ++ " on load balancer " ++ balancer
  | .foreignAssociation subnet current group =>
    "subnet " ++ subnet ++ " is associated with security group " ++ current
      ++ ", refusing to replace it with " ++ group
  | .other message => message

/-- Why an operation did not succeed. -/
inductive Failure where
  | settings (fault : SettingsFault)
  | input (fault : InputFault)
  | document (problem : Json.Problem)
  | http (message : String)
  | authentication (message : String)
  | rateLimited (message : String)
  | notFound (resource : String)
  | timeout (message : String)
  | operationFailed (operation status : String)
  | provider (provider message : String)
  | other (message : String)
deriving DecidableEq, Repr

namespace Failure

/-- The wording of a failure. -/
def message : Failure → String
  | .settings fault => "Configuration error: " ++ fault.message
  | .input fault => "Invalid input: " ++ fault.message
  | .document problem => "JSON error: " ++ problem.message
  | .http message => "HTTP error: " ++ message
  | .authentication message => "Authentication failed: " ++ message
  | .rateLimited message => "Rate limited: " ++ message
  | .notFound resource => "Resource not found: " ++ resource
  | .timeout message => "Timed out: " ++ message
  | .operationFailed operation status =>
    "Operation " ++ operation ++ " finished with status " ++ status
  | .provider name message => "Provider error (" ++ name ++ "): " ++ message
  | .other message => message

/-- The kind of a failure. -/
def kind : Failure → String
  | .settings _ => "Config"
  | .input _ => "InvalidInput"
  | .document _ => "Json"
  | .http _ => "Http"
  | .authentication _ => "Authentication"
  | .rateLimited _ => "RateLimited"
  | .notFound _ => "NotFound"
  | .timeout _ => "Timeout"
  | .operationFailed _ _ => "OperationFailed"
  | .provider _ _ => "Provider"
  | .other _ => "Other"

/-- A failure of something else, explained from its cause outwards: what the
outermost explanation says is what the failure says. -/
def ofExplanations (explanations : List String) : Failure :=
  .other (explanations.getLast?.getD "")

/-- Whether a failure says that a resource does not exist. -/
def isNotFound : Failure → Bool
  | .notFound _ => true
  | _ => false

/-- A failure by its kind and its parts. -/
def inspect (failure : Failure) : String :=
  match failure with
  | .operationFailed operation status =>
    Inspect.record failure.kind
      [("operation", Inspect.text operation), ("status", Inspect.text status)]
  | .provider name message =>
    Inspect.record failure.kind
      [("provider", Inspect.text name), ("message", Inspect.text message)]
  | .settings fault => Inspect.wrapped failure.kind (Inspect.text fault.message)
  | .input fault => Inspect.wrapped failure.kind (Inspect.text fault.message)
  | .document problem => Inspect.wrapped failure.kind (Inspect.text problem.message)
  | .http message | .authentication message | .rateLimited message | .notFound message
  | .timeout message | .other message => Inspect.wrapped failure.kind (Inspect.text message)

end Failure

/-- Read a port. What is no port is invalid input. -/
def Port.read (s : String) : Except Failure Port :=
  (parse s).mapError fun fault => .input (.notAPort fault)

end ClusterPorts
