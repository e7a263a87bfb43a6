import ClusterPorts.CommandLine.Parse
import ClusterPorts.Settings.Codec

/-!
# Settings from a command line

The settings are those of the configuration file, if there is one, with what the
command line gives in their place. They are checked before they are used.
-/

namespace ClusterPorts.CommandLine

/-- Why a command line does not give settings that can be used. -/
inductive SetupFault where
  | file (fault : SettingsFault)
  | foreignFlags (flags : List String) (factory : String)
  | invalid (fault : SettingsFault)
  | noPorts
deriving DecidableEq, Repr

/-- The wording of each fault. -/
def SetupFault.message : SetupFault → String
  | file fault => (Failure.settings fault).message
  | foreignFlags flags factory =>
    "Azure flags (" ++ ", ".intercalate flags ++ ") cannot be combined with the '" ++ factory
      ++ "' cloud from the configuration file"
  | invalid fault => "Invalid configuration: " ++ (Failure.settings fault).message
  | noPorts =>
    "No ports to open. Pass --port 4500/udp or set CLOUD_PREPARE_PORTS=4500/udp,4490/udp"

namespace Invocation

/-- A cluster on Azure that nothing is known about. -/
def blank : AzureSettings := ⟨"", "", "", "", none, none, none, none, none, none⟩

/-- The settings to begin with. -/
def fileSettings (invocation : Invocation) (files : String → FileContents) :
    Except SetupFault Settings :=
  match invocation.text? .config with
  | none => .ok { cloud := .azure blank }
  | some path => (Settings.load path (files path)).mapError .file

/-- What the flags give of a cluster on Azure. -/
def mergeAzure (invocation : Invocation) (azure : AzureSettings) : AzureSettings :=
  { azure with
    subscriptionId := (invocation.text? .subscriptionId).getD azure.subscriptionId
    infraId := (invocation.text? .infraId).getD azure.infraId
    region := (invocation.text? .region).getD azure.region
    resourceGroup := (invocation.text? .resourceGroup).getD azure.resourceGroup
    tenantId := (invocation.text? .tenantId).or azure.tenantId
    clientId := (invocation.text? .clientId).or azure.clientId
    clientSecret := (invocation.text? .clientSecret).or azure.clientSecret
    accessToken := (invocation.text? .accessToken).or azure.accessToken }

/-- What the flags give of a cloud: nothing, if it is not Azure. -/
def mergeCloud (invocation : Invocation) : CloudSettings → Except SetupFault CloudSettings
  | .azure settings => .ok (.azure (invocation.mergeAzure settings))
  | .custom factory settings =>
    if invocation.azureFlags.isEmpty then .ok (.custom factory settings)
    else .error (.foreignFlags invocation.azureFlags factory)

/-- What the flags give of how operations are carried out. A timeout that is
shorter than the poll interval of the file shortens it too. -/
def mergeOperation (invocation : Invocation) (operation : OperationSettings) :
    OperationSettings where
  timeoutSecs := (invocation.number? .timeoutSecs).getD operation.timeoutSecs
  pollSecs :=
    match invocation.number? .pollSecs, invocation.number? .timeoutSecs with
    | some poll, _ => poll
    | none, some timeout =>
      if timeout < operation.pollSecs then timeout else operation.pollSecs
    | none, none => operation.pollSecs
  dryRun := operation.dryRun || invocation.isSet .dryRun

/-- The ports that are given, or else those of the file. -/
def mergePorts (invocation : Invocation) (ports : List Port) : List Port :=
  if invocation.verb = .prepare ∧ invocation.ports ≠ [] then invocation.ports else ports

/-- The settings that a command line gives, together with its file. -/
def settings (invocation : Invocation) (files : String → FileContents) :
    Except SetupFault Settings := do
  let base ← invocation.fileSettings files
  let cloud ← invocation.mergeCloud base.cloud
  let merged : Settings :=
    ⟨cloud, invocation.mergePorts base.ports, invocation.mergeOperation base.operation⟩
  match merged.validate with
  | .error fault => .error (.invalid fault)
  | .ok () =>
    if invocation.verb = .prepare ∧ merged.ports = [] then .error .noPorts else .ok merged

end Invocation

end ClusterPorts.CommandLine
