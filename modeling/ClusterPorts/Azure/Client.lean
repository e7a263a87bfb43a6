import ClusterPorts.Azure.Token
import ClusterPorts.Cluster
import ClusterPorts.Network.Codec

/-!
# The client of Azure's resource manager

The client reads and writes the network resources of one resource group. A
request is made once: what fails is not tried again. Writing a resource may take
longer than the request; the answer then says where the state of the operation
can be read, and the client reads it until the operation has ended. The request
and the waiting together are limited in time. A client in rehearsal reads
resources, but only says what it would write.
-/

namespace ClusterPorts.Azure

/-- A client. -/
structure Client where
  subscriptionId : String
  resourceGroup : String
  endpoint : String
  tokens : TokenSource
  timeout : Span
  pollInterval : Span
  dryRun : Bool
deriving Inhabited

/-- The state of an operation that takes its time. -/
inductive OperationState where
  | pending
  | succeeded
  | failed (detail : String)
deriving DecidableEq, Repr

namespace Client

/-- Where the resource manager is. -/
def standardEndpoint : String := "https://management.azure.com"

/-- The version of the resource manager's interface. -/
def version : String := "2021-03-01"

/-- A client, and what there is to say about it. -/
def create (subscriptionId resourceGroup : String) (credential : Credential) (endpoint : String)
    (timeout pollInterval : Span) (dryRun : Bool) : Client × List LogEntry :=
  let endpoint := withoutSlashes endpoint
  ({ subscriptionId, resourceGroup, endpoint
     tokens := .forEndpoint credential endpoint
     timeout, pollInterval, dryRun },
    if dryRun then [.warn "Azure client running in DRY-RUN mode - no changes will be made"]
    else [])

/-- A client without its secrets. -/
def inspect (client : Client) : String :=
  Inspect.record "ArmNetworkClient"
    [("subscription_id", Inspect.text client.subscriptionId),
     ("resource_group", Inspect.text client.resourceGroup),
     ("endpoint", Inspect.text client.endpoint),
     ("tokens", client.tokens.inspect),
     ("dry_run", Inspect.bool client.dryRun)]

/-- The path of the network resources. -/
def root (client : Client) : String := Cluster.path client.subscriptionId client.resourceGroup

/-- The path of a security group, which is its id. -/
def groupPath (client : Client) (name : String) : String :=
  client.root ++ "/networkSecurityGroups/" ++ name

/-- The path of a subnet. -/
def subnetPath (client : Client) (network name : String) : String :=
  client.root ++ "/virtualNetworks/" ++ network ++ "/subnets/" ++ name

/-- The path of a load balancer. -/
def balancerPath (client : Client) (name : String) : String :=
  client.root ++ "/loadBalancers/" ++ name

/-- The address of the resource at a path. -/
def address (client : Client) (path : String) : String :=
  client.endpoint ++ path ++ "?api-version=" ++ version

/-- The failure that a status means for a resource. -/
def statusFailure (status : Http.Status) (what errorText : String) : Failure :=
  if status.code = 401 ∨ status.code = 403 then
    .authentication ("Invalid credentials or insufficient permissions for " ++ what ++ ". Status: "
      ++ status.text)
  else if status.code = 404 then .notFound what
  else if status.code = 409 then
    .provider "azure" ("Conflict: " ++ what ++ " is being modified by another operation. Status: "
      ++ status.text)
  else if status.code = 429 then
    .rateLimited ("Rate limit exceeded for " ++ what ++ ". Please retry later. Status: "
      ++ status.text)
  else if 500 ≤ status.code ∧ status.code ≤ 599 then
    .provider "azure" ("Azure server error (transient) for " ++ what ++ ": " ++ status.text ++ " - "
      ++ errorText)
  else
    .provider "azure" ("Request for " ++ what ++ " failed: " ++ status.text ++ " - " ++ errorText)

/-- An answer that fulfils its request, or else the failure that it means. -/
def checked (what : String) (response : Http.Response) : Except Failure Http.Response :=
  if response.status.isSuccess then .ok response
  else .error (statusFailure response.status what (errorText response))

/-- A header that says where the state of an operation can be read. -/
def place? (response : Http.Response) (name : String) : Option String :=
  (response.header? name).filter (· ≠ "")

/-- How the state of an operation is told: by a document, or by a status. -/
inductive Report where
  | document
  | status
deriving DecidableEq, Repr

/-- Where the state of an operation can be read and how it is told, if the
operation has not already ended. -/
def follow? (response : Http.Response) : Option (String × Report) :=
  match place? response "azure-asyncoperation" with
  | some address => some (address, .document)
  | none => (place? response "location").map (·, .status)

/-- How long an answer asks to wait. -/
def retryAfter? (response : Http.Response) : Option Span := do
  let value ← response.header? "retry-after"
  match Text.numeralUpTo Text.largestWord (Text.trimChars value.toList) with
  | .ok secs => some (.ofSecs secs)
  | .error _ => none

/-- How long to wait after an answer. -/
def delayAfter (client : Client) (response : Http.Response) : Span :=
  (retryAfter? response).getD client.pollInterval

/-- The state that a document tells. -/
def stateOf (document : Json) : OperationState :=
  match (document.member? "status").bind Json.string? with
  | none => .pending
  | some s =>
    if Text.sameLetters s "Succeeded" then .succeeded
    else if Text.sameLetters s "Failed" || Text.sameLetters s "Canceled" then
      match ((document.member? "error").bind (·.member? "message")).bind Json.string? with
      | some message => .failed (s ++ ": " ++ message)
      | none => .failed s
    else .pending

/-- The state that an answer tells. -/
def stateIn (report : Report) (response : Http.Response) : Except Failure OperationState :=
  match report with
  | .document =>
    match response.body.read? Json.Node.keep with
    | some document => .ok (stateOf document)
    | none => .error (.provider "azure" ("Failed to parse operation status: " ++ unreadable))
  | .status => .ok (if response.status.code = 202 then .pending else .succeeded)

variable {σ : Type}

/-- Make a request with a token. -/
def ask (client : Client) (world : World σ) (limit : Option Limit) (method : Http.Method)
    (address : String) (content : Http.Content) : Act σ Http.Response := do
  Act.log (.debug (method.text ++ " " ++ address))
  let token ← client.tokens.token world limit
  match ← Act.send world limit
    (Http.Request.to address method (some ("Bearer " ++ token)) "application/json" content) with
  | .ok response => return response
  | .error fault => Act.fail (.provider "azure" ("HTTP request failed: " ++ fault.message))

/-- The value of an outcome, whose failure is the failure of the action. -/
def orFail {α : Type} : Except Failure α → Act σ α
  | .ok a => pure a
  | .error failure => Act.fail failure

/-- Read a resource, if it exists. -/
def read {α : Type} (client : Client) (world : World σ) (path what : String)
    (codec : Json.Codec α) : Act σ (Option α) := do
  let response ← client.ask world none .get (client.address path) .empty
  if response.status.code = 404 then
    Act.log (.debug (what ++ " does not exist"))
    return none
  else
    let response ← orFail (checked what response)
    match response.body.read? codec.decode with
    | some a => return some a
    | none => Act.fail (.provider "azure" ("Failed to parse " ++ what ++ ": " ++ unreadable))

/-- Read the state of an operation until it has ended. There is time for no more
than `ticks` of the readings, since each of them takes some. -/
def poll (client : Client) (world : World σ) (limit : Limit) (what address : String)
    (report : Report) : (ticks : Nat) → (delay : Span) → Act σ Unit
  | 0, _ => Act.fail limit.failure
  | ticks + 1, delay => do
    Act.sleep limit delay
    let response ← client.ask world (some limit) .get address .empty
    let response ← orFail (checked what response)
    match ← orFail (stateIn report response) with
    | .pending => do
      Act.log (.debug ("Waiting for " ++ what ++ " to complete"))
      poll client world limit what address report ticks (client.delayAfter response)
    | .succeeded => Act.log (.debug (what ++ " completed"))
    | .failed detail => Act.fail (.operationFailed what detail)

/-- Wait for the end of the operation that an answer has begun. -/
def finish (client : Client) (world : World σ) (limit : Limit) (what : String)
    (response : Http.Response) : Act σ Unit := do
  match follow? response with
  | none => return ()
  | some (address, report) =>
    let ticks := limit.deadline.nanos - (← get).elapsed.nanos
    client.poll world limit what address report ticks (client.delayAfter response)

/-- The limit of an operation that begins now. -/
def limit (client : Client) (what : String) : Act σ Limit := do
  return ⟨⟨(← get).elapsed.nanos + client.timeout.nanos⟩,
    .timeout (what ++ " did not complete within " ++ client.timeout.text)⟩

/-- Write a resource and wait until it is written. -/
def write (client : Client) (world : World σ) (path what : String) (document : Json) :
    Act σ Unit := do
  if client.dryRun then
    Act.log (.info ("[DRY-RUN] Would PUT " ++ path ++ " with payload: " ++ document.compress))
  else
    Act.log (.info ("Creating or updating " ++ what))
    let limit ← client.limit what
    let response ← client.ask world (some limit) .put (client.address path) (.document document)
    let response ← orFail (checked what response)
    client.finish world limit what response

/-- Delete a resource and wait until it is gone. That it does not exist is fine. -/
def delete (client : Client) (world : World σ) (path what : String) : Act σ Unit := do
  if client.dryRun then Act.log (.info ("[DRY-RUN] Would DELETE " ++ path))
  else
    Act.log (.info ("Deleting " ++ what))
    let limit ← client.limit what
    let response ← client.ask world (some limit) .delete (client.address path) .empty
    if response.status.code = 404 ∨ response.status.code = 204 then
      Act.log (.debug (what ++ " already gone"))
    else
      let response ← orFail (checked what response)
      client.finish world limit what response

/-- What a security group is called in messages. -/
def groupTitle (name : String) : String := "security group " ++ name

/-- What a subnet is called in messages. -/
def subnetTitle (network name : String) : String := "subnet " ++ Request.subnetPath network name

/-- What a load balancer is called in messages. -/
def balancerTitle (name : String) : String := "load balancer " ++ name

/-- Do what a request asks for. -/
def fulfil (client : Client) (world : World σ) : (request : Request) → Act σ request.Answer
  | .readGroup name =>
    client.read world (client.groupPath name) (groupTitle name) SecurityGroup.codec
  | .writeGroup group =>
    client.write world (client.groupPath group.name) (groupTitle group.name)
      (SecurityGroup.codec.encode group)
  | .deleteGroup name => client.delete world (client.groupPath name) (groupTitle name)
  | .readSubnet network name => do
    match ← client.read world (client.subnetPath network name) (subnetTitle network name)
      Subnet.codec with
    | some subnet => return subnet
    | none => Act.fail (.notFound (subnetTitle network name))
  | .writeSubnet network subnet =>
    client.write world (client.subnetPath network subnet.name) (subnetTitle network subnet.name)
      (Subnet.codec.encode subnet)
  | .readBalancer name =>
    client.read world (client.balancerPath name) (balancerTitle name) LoadBalancer.codec
  | .writeBalancer balancer =>
    client.write world (client.balancerPath balancer.name) (balancerTitle balancer.name)
      (LoadBalancer.codec.encode balancer)

/-- Run a plan with a client. -/
def run {α : Type} (client : Client) (world : World σ) (plan : Plan α) :
    Run σ (Except Failure α) :=
  plan.run Run.takeNote fun request => (client.fulfil world request).attempt

end Client

end ClusterPorts.Azure
