import ClusterPorts.Azure.Client
import ClusterPorts.Cloud
import ClusterPorts.Provision

/-!
# Clusters on Azure as a cloud
-/

namespace ClusterPorts.Azure

/-- The credential that settings give: an access token if there is one, or else
what it takes to ask for one. -/
def credential (settings : AzureSettings) : Except SettingsFault Credential :=
  match settings.accessToken.filter (· ≠ ""), settings.tenantId, settings.clientId,
    settings.clientSecret with
  | some token, _, _, _ => .ok (.accessToken token)
  | none, some tenant, some client, some secret =>
    .ok (.clientSecret tenant client secret
      (settings.authorityHost.getD Credential.standardAuthority))
  | none, _, _, _ => .error .noCredentials

/-- Where the cluster of the settings is. -/
def cluster (settings : AzureSettings) : Cluster where
  subscriptionId := settings.subscriptionId
  infraId := settings.infraId
  region := settings.region
  resourceGroup := settings.resourceGroup

/-- The client of the settings, and what there is to say about it. -/
def client (settings : AzureSettings) (operation : OperationSettings) :
    Except SettingsFault (Client × List LogEntry) := do
  let credential ← credential settings
  return Client.create settings.subscriptionId settings.resourceGroup credential
    (settings.endpoint.getD Client.standardEndpoint) (.ofSecs operation.timeoutSecs.toNat)
    (.ofSecs operation.pollSecs.toNat) operation.dryRun

/-- The name of the cloud. -/
def name : String := "azure"

variable {σ : Type}

/-- A cluster as the client sees it. -/
def site (cluster : Cluster) (client : Client) : Site := ⟨cluster, client.groupPath⟩

/-- A cluster as a cloud. -/
def cloud (world : World σ) (cluster : Cluster) (client : Client) : Cloud (Run σ) where
  name := name
  prepare ports := client.run world (Provision.prepare (site cluster client) ports)
  cleanup := client.run world (Provision.cleanup (site cluster client))

/-- The factory of clusters on Azure. -/
def factory (world : World σ) : Factory (Run σ) := fun settings =>
  match settings.cloud with
  | .azure azure =>
    match client azure settings.operation with
    | .ok (client, entries) => (entries, .ok (cloud world (cluster azure) client))
    | .error fault => ([], .error (.settings fault))
  | .custom _ _ => ([], .error (.settings .notAzure))

end ClusterPorts.Azure
