import ClusterPorts.Cluster
import ClusterPorts.Provision.Group

/-!
# Ports between the machines of a cluster

The ports are opened in the security group of the cluster's machines, with which
the subnets of the workers and of the masters are then associated. A subnet that
is associated with another group is never taken from it: what would have to be
given back could no longer be known.
-/

namespace ClusterPorts.Provision

open Plan

/-- Read the subnets and give those that are still to be associated with the
group. A subnet of another group ends the plan before any subnet is written. -/
def unassociated (site : Site) : List String → Plan (List Subnet)
  | [] => pure []
  | name :: rest => do
    let subnet ← request (.readSubnet site.network name)
    if subnet.isAssociatedWith site.internalId then do
      log (.debug ("Subnet " ++ name ++ " already uses " ++ site.group))
      unassociated site rest
    else
      match subnet.group with
      | some current => fail (.input (.foreignAssociation name current.id site.group))
      | none => do
        let more ← unassociated site rest
        return subnet :: more

/-- Associate subnets with the group. -/
def associate (site : Site) : List Subnet → Plan Unit
  | [] => pure ()
  | subnet :: rest => do
    log (.info ("Associating security group " ++ site.group ++ " with subnet " ++ subnet.name))
    request (.writeSubnet site.network { subnet with group := some (.ofId site.internalId) })
    associate site rest

/-- Open the ports between the machines of the cluster. -/
def openInternal (site : Site) (ports : List Port) : Plan Unit := do
  ensureGroup site.group site.cluster.region Rules.internalStem ports
  let pending ← unassociated site site.subnets
  associate site pending

/-- Undo the association of subnets with the group, where there is one. -/
def dissociate (site : Site) : List String → Plan Unit
  | [] => pure ()
  | name :: rest => do
    match ← find (.readSubnet site.network name) with
    | none => dissociate site rest
    | some subnet =>
      if subnet.isAssociatedWith site.internalId then do
        log (.info ("Dissociating security group " ++ site.group ++ " from subnet " ++ name))
        request (.writeSubnet site.network { subnet with group := none })
        dissociate site rest
      else dissociate site rest

/-- Take the library's rules from the group. A group that has no other rule was
made by the library: it is deleted when no subnet is associated with it anymore. -/
def closeInternal (site : Site) : Plan Unit := do
  match ← request (.readGroup site.group) with
  | none => log (.info ("Security group " ++ site.group ++ " does not exist, nothing to remove"))
  | some group =>
    let rules := Rules.others Rules.internalStem group.rules
    let removed := group.rules.length - rules.length
    if !rules.isEmpty then
      if 0 < removed then do
        log (.info ("Removing " ++ toString removed ++ " Submariner rule(s) from " ++ site.group))
        request (.writeGroup { group with rules, subnets := none })
      else log (.info ("Security group " ++ site.group ++ " has no Submariner rules"))
    else do
      dissociate site site.subnets
      request (.deleteGroup site.group)

end ClusterPorts.Provision
