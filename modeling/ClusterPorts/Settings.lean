import ClusterPorts.Failure
import ClusterPorts.Json.Basic
import ClusterPorts.Text.Blank

/-!
# Settings

What a preparation needs to know: the cloud with the cluster in it, the ports to
open between the cluster's own machines, and how long an operation may take.
Settings can be read from a file (`Settings.Codec`) and are checked before they
are used. Inspecting them never shows a secret.
-/

namespace ClusterPorts

/-- A cluster on Azure, and how to be let in there. -/
structure AzureSettings where
  subscriptionId : String
  infraId : String
  region : String
  resourceGroup : String
  tenantId : Option String := none
  clientId : Option String := none
  clientSecret : Option String := none
  accessToken : Option String := none
  endpoint : Option String := none
  authorityHost : Option String := none
deriving Inhabited

/-- The cloud that a cluster runs on. A custom cloud is made by a registered
factory, which alone knows what its settings mean. -/
inductive CloudSettings where
  | azure (settings : AzureSettings)
  | custom (factory : String) (settings : Json)

/-- How operations are carried out. -/
structure OperationSettings where
  timeoutSecs : UInt64 := 300
  pollSecs : UInt64 := 5
  dryRun : Bool := false
deriving DecidableEq, Repr, Inhabited

/-- The settings of a preparation. -/
structure Settings where
  cloud : CloudSettings
  ports : List Port := []
  operation : OperationSettings := {}

/-- Whether an optional text is there and not empty. -/
def isGiven : Option String → Bool
  | some s => s ≠ ""
  | none => false

namespace AzureSettings

/-- The fields that name the cluster and that may not be blank. -/
def named (azure : AzureSettings) : List (String × String) :=
  [("subscription_id", azure.subscriptionId), ("infra_id", azure.infraId),
   ("region", azure.region), ("resource_group", azure.resourceGroup)]

/-- Whether there is an access token. -/
def hasToken (azure : AzureSettings) : Bool := isGiven azure.accessToken

/-- Whether there is all that a client needs to ask for an access token. -/
def hasPrincipal (azure : AzureSettings) : Bool :=
  isGiven azure.tenantId && isGiven azure.clientId && isGiven azure.clientSecret

/-- Check that the cluster is named and that there are credentials. -/
def validate (azure : AzureSettings) : Except SettingsFault Unit :=
  match azure.named.find? fun (_, value) => Text.isBlankText value with
  | some (name, _) => .error (.blankField name)
  | none => if azure.hasToken || azure.hasPrincipal then .ok () else .error .noCredentials

/-- The settings, without the secrets. -/
def inspect (azure : AzureSettings) : String :=
  Inspect.record "Azure"
    [("subscription_id", Inspect.text azure.subscriptionId),
     ("infra_id", Inspect.text azure.infraId),
     ("region", Inspect.text azure.region),
     ("resource_group", Inspect.text azure.resourceGroup),
     ("tenant_id", Inspect.option Inspect.text azure.tenantId),
     ("client_id", Inspect.option Inspect.text azure.clientId),
     ("client_secret", Inspect.option (fun _ => Inspect.redacted) azure.clientSecret),
     ("access_token", Inspect.option (fun _ => Inspect.redacted) azure.accessToken),
     ("resource_manager_endpoint", Inspect.option Inspect.text azure.endpoint),
     ("authority_host", Inspect.option Inspect.text azure.authorityHost)]

end AzureSettings

namespace CloudSettings

/-- Check the settings of a cloud. -/
def validate : CloudSettings → Except SettingsFault Unit
  | .azure settings => settings.validate
  | .custom factory settings =>
    if factory = "" then .error .noFactory
    else if settings.isNull then .error .noFactorySettings
    else .ok ()

/-- The name under which the cloud's factory is registered. -/
def typeName : CloudSettings → String
  | .azure _ => "azure"
  | .custom factory _ => factory

/-- The settings, without secrets where they are known to be secret. -/
def inspect : CloudSettings → String
  | .azure settings => settings.inspect
  | .custom factory settings =>
    Inspect.record "Custom" [("factory", Inspect.text factory), ("config", settings.inspect)]

end CloudSettings

namespace OperationSettings

/-- Check that a time is set and that at least one poll fits into it. -/
def validate (operation : OperationSettings) : Except SettingsFault Unit :=
  if operation.timeoutSecs = 0 then .error .noTimeout
  else if operation.pollSecs = 0 then .error .noPollInterval
  else if operation.timeoutSecs < operation.pollSecs then
    .error (.pollBeyondTimeout operation.pollSecs.toNat operation.timeoutSecs.toNat)
  else .ok ()

/-- The settings by their names. -/
def inspect (operation : OperationSettings) : String :=
  Inspect.record "OperationConfig"
    [("timeout_secs", toString operation.timeoutSecs.toNat),
     ("poll_interval_secs", toString operation.pollSecs.toNat),
     ("dry_run", Inspect.bool operation.dryRun)]

end OperationSettings

namespace Settings

/-- Check the cloud, then the operation, then the ports. -/
def validate (settings : Settings) : Except SettingsFault Unit := do
  settings.cloud.validate
  settings.operation.validate
  match Port.flaw? settings.ports with
  | some flaw => .error (.flawedPorts flaw)
  | none => return ()

/-- The settings, without the secrets of a known cloud. -/
def inspect (settings : Settings) : String :=
  Inspect.record "PrepareConfig"
    [("cloud", settings.cloud.inspect),
     ("internal_ports", Inspect.list Port.inspect settings.ports),
     ("operation", settings.operation.inspect)]

end Settings

end ClusterPorts
