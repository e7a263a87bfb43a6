import ClusterPorts.Json.Reader
import ClusterPorts.Json.Tagged
import ClusterPorts.Port.Codec
import ClusterPorts.Settings

/-!
# Settings in files

The settings of a cloud carry a `type`. Everything that has a default may be left
out of a file, and fields that the library does not know are passed over.
-/

namespace ClusterPorts

open Json

/-- How operations are carried out; every field has a default. -/
def OperationSettings.codec : Codec OperationSettings :=
  (Record.both (.defaulted "timeout_secs" 300 .uint64) <|
    .both (.defaulted "poll_interval_secs" 5 .uint64)
      (.defaulted "dry_run" false .bool)).closed
    "struct OperationConfig"
    (fun (timeout, poll, dryRun) => ⟨timeout, poll, dryRun⟩)
    (fun operation => (operation.timeoutSecs, operation.pollSecs, operation.dryRun))

namespace AzureSettings

/-- The fields of a cluster on Azure. -/
def fields : Record (String × String × String × String × Option String × Option String ×
    Option String × Option String × Option String × Option String) :=
  .both (.required "subscription_id" .string) <|
  .both (.required "infra_id" .string) <|
  .both (.required "region" .string) <|
  .both (.required "resource_group" .string) <|
  .both (.nullable "tenant_id" .string) <|
  .both (.nullable "client_id" .string) <|
  .both (.nullable "client_secret" .string) <|
  .both (.nullable "access_token" .string) <|
  .both (.nullable "resource_manager_endpoint" .string)
    (.nullable "authority_host" .string)

/-- Read the fields that stand beside the tag. -/
def decode (node : Node) : Except Problem AzureSettings := do
  let (subscription, infra, region, group, tenant, client, secret, token, endpoint, authority) ←
    Tagged.variant fields "struct variant CloudConfig::Azure" node
  return ⟨subscription, infra, region, group, tenant, client, secret, token, endpoint, authority⟩

/-- Write the fields. -/
def write (azure : AzureSettings) (members : Members) : Members :=
  fields.write
    (azure.subscriptionId, azure.infraId, azure.region, azure.resourceGroup, azure.tenantId,
      azure.clientId, azure.clientSecret, azure.accessToken, azure.endpoint, azure.authorityHost)
    members

end AzureSettings

namespace CloudSettings

/-- The fields of a custom cloud. -/
def customFields : Record (String × Json) :=
  .both (.required "factory" .string) (.required "config" .json)

/-- Read a custom cloud. -/
def decodeCustom (node : Node) : Except Problem CloudSettings := do
  let (factory, settings) ←
    Tagged.variant customFields "struct variant CloudConfig::Custom" node
  return .custom factory settings

/-- The settings of a cloud say by their `type` which cloud it is. -/
def codec : Codec CloudSettings where
  decode := Tagged.decode "internally tagged enum CloudConfig" "type"
    [("azure", fun node => .azure <$> AzureSettings.decode node), ("custom", decodeCustom)]
  encode
    | .azure settings => .object (settings.write [("type", .string "azure")])
    | .custom factory settings =>
      .object (customFields.write (factory, settings) [("type", .string "custom")])

end CloudSettings

namespace Settings

/-- Settings, of which only the cloud has no default. -/
def codec : Codec Settings :=
  (Record.both (.required "cloud" CloudSettings.codec) <|
    .both (.defaulted "internal_ports" [] (Codec.list Port.codec))
      (.defaulted "operation" {} OperationSettings.codec)).closed
    "struct PrepareConfig"
    (fun (cloud, ports, operation) => ⟨cloud, ports, operation⟩)
    (fun settings => (settings.cloud, settings.ports, settings.operation))

/-- The settings in the text of a file. -/
def ofText (path text : String) : Except SettingsFault Settings :=
  match (Document.ofText text).read codec.decode with
  | .ok settings => .ok settings
  | .error problem => .error (.unreadableText path problem)

end Settings

/-- What is found under the path of a file. -/
inductive FileContents where
  | text (s : String)
  | missing
  | directory
  | notText
  | unreadable (reason : String)
deriving DecidableEq, Repr

namespace Settings

/-- Load the settings from a file without checking them. -/
def load (path : String) : FileContents → Except SettingsFault Settings
  | .text s => ofText path s
  | .missing => .error (.unreadableFile path "No such file or directory (os error 2)")
  | .directory => .error (.unreadableFile path "Is a directory (os error 21)")
  | .notText => .error (.unreadableFile path "stream did not contain valid UTF-8")
  | .unreadable reason => .error (.unreadableFile path reason)

/-- Load the settings from a file and check them. -/
def loadChecked (path : String) (contents : FileContents) : Except SettingsFault Settings := do
  let settings ← load path contents
  settings.validate
  return settings

end Settings

end ClusterPorts
