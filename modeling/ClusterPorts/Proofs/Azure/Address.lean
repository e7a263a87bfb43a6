import ClusterPorts.Proofs.Azure.Reading
import ClusterPorts.Proofs.Http.Url

/-!
# Where resources are

Every request is about one resource: a security group, a subnet or a load balancer
of some name. When names are plain, requests for different resources go to
different paths, and they get there.
-/

namespace ClusterPorts

open Http.Url (joined joined_cons)

/-- The place of a resource. -/
inductive Place where
  | group (name : String)
  | subnet (network name : String)
  | balancer (name : String)
deriving DecidableEq

namespace Place

/-- The end of the path. -/
def segments : Place → List String
  | group name => ["networkSecurityGroups", name]
  | subnet network name => ["virtualNetworks", network, "subnets", name]
  | balancer name => ["loadBalancers", name]

/-- The names in the path are plain. -/
def IsPlain : Place → Prop
  | group name => Http.Url.IsPlain name
  | subnet network name => Http.Url.IsPlain network ∧ Http.Url.IsPlain name
  | balancer name => Http.Url.IsPlain name

theorem segments_injective {place other : Place} (same : place.segments = other.segments) :
    place = other := by
  cases place <;> cases other <;> simp [segments] at same ⊢ <;> assumption

theorem IsPlain.segments {place : Place} (plain : place.IsPlain) :
    ∀ s ∈ place.segments, Http.Url.IsPlain s := by
  cases place with
  | group name => exact List.forall_mem_cons.mpr ⟨by decide, List.forall_mem_singleton.mpr plain⟩
  | subnet network name =>
      refine List.forall_mem_cons.mpr ⟨by decide, List.forall_mem_cons.mpr ⟨plain.1, ?_⟩⟩
      exact List.forall_mem_cons.mpr ⟨by decide, List.forall_mem_singleton.mpr plain.2⟩
  | balancer name =>
      exact List.forall_mem_cons.mpr ⟨by decide, List.forall_mem_singleton.mpr plain⟩

end Place

/-- The place of the resource that a request is about. -/
def Request.place : Request → Place
  | .readGroup name => .group name
  | .writeGroup group => .group group.name
  | .deleteGroup name => .group name
  | .readSubnet network name => .subnet network name
  | .writeSubnet network subnet => .subnet network subnet.name
  | .readBalancer name => .balancer name
  | .writeBalancer balancer => .balancer balancer.name

namespace Azure.Client

variable {client : Client} {secret : String} {place other : Place}

/-- The path of the resource at a place. -/
def pathTo (client : Client) : Place → String
  | .group name => client.groupPath name
  | .subnet network name => client.subnetPath network name
  | .balancer name => client.balancerPath name

theorem pathOf_eq (client : Client) (request : Request) :
    client.pathOf request = client.pathTo request.place := by
  cases request <;> rfl

/-- The segments of the path of all the network resources. -/
def rootSegments (client : Client) : List String :=
  ["subscriptions", client.subscriptionId, "resourceGroups", client.resourceGroup, "providers",
    "Microsoft.Network"]

theorem toList_root (client : Client) : client.root.toList = joined client.rootSegments := by
  unfold root Cluster.path rootSegments
  simp only [String.toList_append, List.append_assoc, joined_cons]
  simp [joined]

theorem toList_pathTo (client : Client) (place : Place) :
    (client.pathTo place).toList = joined (client.rootSegments ++ place.segments) := by
  rw [joined, List.flatMap_append, ← joined, ← toList_root]
  cases place with
  | group name =>
      unfold pathTo groupPath Place.segments
      simp
  | subnet network name =>
      unfold pathTo subnetPath Place.segments
      simp
  | balancer name =>
      unfold pathTo balancerPath Place.segments
      simp

theorem pathTo_eq (client : Client) (place : Place) :
    client.pathTo place = String.ofList (joined (client.rootSegments ++ place.segments)) :=
  String.toList_inj.mp ((toList_pathTo client place).trans String.toList_ofList.symm)

/-- The client has a server to speak to and a token that can be sent there, and the
names of the subscription and of the resource group are plain. -/
structure IsPlain (client : Client) (secret : String) : Prop where
  server : Http.Url.IsServer client.endpoint
  subscription : Http.Url.IsPlain client.subscriptionId
  resourceGroup : Http.Url.IsPlain client.resourceGroup
  sendable : Http.isHeaderValue ("Bearer " ++ secret)

theorem IsPlain.root (plain : client.IsPlain secret) :
    ∀ s ∈ client.rootSegments, Http.Url.IsPlain s := by
  simp only [rootSegments, List.forall_mem_cons]
  exact ⟨by decide, plain.subscription, by decide, plain.resourceGroup, by decide, by decide,
    List.forall_mem_nil _⟩

theorem IsPlain.segments (plain : client.IsPlain secret) (own : place.IsPlain) :
    ∀ s ∈ client.rootSegments ++ place.segments, Http.Url.IsPlain s :=
  List.forall_mem_append.mpr ⟨plain.root, own.segments⟩

theorem reaches_of_parse? {path : String} {url : Http.Url}
    (parsed : Http.Url.parse? (client.address path) = some url)
    (web : url.scheme = "http" ∨ url.scheme = "https") (hosted : url.host ≠ none)
    (sendable : Http.isHeaderValue ("Bearer " ++ secret)) : client.Reaches secret path url := by
  intro method content
  have isWeb : url.isWeb = true := by
    unfold Http.Url.isWeb
    rcases web with same | same <;> simp [same]
  rw [requestTo, Http.Request.to, parsed]
  simp [isWeb, hosted, sendable, bearing]

/-- Requests for the resource at a plain place go to its path. -/
theorem IsPlain.reaches (plain : client.IsPlain secret) (own : place.IsPlain) :
    ∃ url, client.Reaches secret (client.pathTo place) url ∧ url.path = client.pathTo place := by
  obtain ⟨scheme, host, port, web, parsed⟩ := Http.Url.parse?_joined plain.server
  have parsed := parsed (by simp [rootSegments]) (plain.segments own)
  rw [← pathTo_eq] at parsed
  have address_eq : client.address (client.pathTo place) =
      client.endpoint ++ client.pathTo place ++ "?api-version=2021-03-01" := by
    rw [address, String.append_assoc]
    rfl
  rw [← address_eq] at parsed
  exact ⟨_, reaches_of_parse? parsed web (Option.some_ne_none _) plain.sendable, rfl⟩

/-- Different resources have different paths. -/
theorem IsPlain.pathTo_injective (plain : client.IsPlain secret) (own : place.IsPlain)
    (own' : other.IsPlain) (same : client.pathTo place = client.pathTo other) : place = other := by
  have chars := congrArg String.toList same
  rw [toList_pathTo, toList_pathTo] at chars
  have segments := Http.Url.joined_injective (plain.segments own) (plain.segments own') chars
  exact Place.segments_injective (List.append_cancel_left segments)

end Azure.Client

/-- What follows a plain text may be what is safe in a path and is not all dots. -/
theorem Http.Url.IsPlain.append {s rest : String} (plain : IsPlain s)
    (all : rest.toList.all isSegmentChar = true) (any : rest.toList.any (· ≠ '.') = true) :
    IsPlain (s ++ rest) where
  all := by rw [String.toList_append, List.all_append, plain.all, all, Bool.and_self]
  not_here same := by
    obtain ⟨c, member, other⟩ := List.any_eq_true.mp any
    have other := of_decide_eq_true other
    have member : c ∈ (s ++ rest).toList := by simp [member]
    rw [same] at member
    exact other (List.mem_singleton.mp member)
  not_above same := by
    obtain ⟨c, member, other⟩ := List.any_eq_true.mp any
    have other := of_decide_eq_true other
    have member : c ∈ (s ++ rest).toList := by simp [member]
    rw [same] at member
    rcases List.mem_pair.mp member with rfl | rfl <;> exact other rfl

/-- The names of the resources of a cluster are plain if its infrastructure id is. -/
theorem Site.isPlain_names {site : Site} (plain : Http.Url.IsPlain site.cluster.infraId) :
    ∀ name ∈ site.names, Http.Url.IsPlain name := by
  simp only [names, subnets, Cluster.subnets, List.forall_mem_append, List.forall_mem_cons]
  refine ⟨⟨plain.append ?_ ?_, plain, plain.append ?_ ?_, plain.append ?_ ?_,
    List.forall_mem_nil _⟩, plain.append ?_ ?_, plain.append ?_ ?_, List.forall_mem_nil _⟩ <;> decide

end ClusterPorts
