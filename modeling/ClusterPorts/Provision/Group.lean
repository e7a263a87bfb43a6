import ClusterPorts.Network.Plan
import ClusterPorts.Provision.Rules

/-!
# Security groups with the rules for ports
-/

namespace ClusterPorts.Provision

open Plan

/-- A security group with rules added to it, as it is written: the associations
with subnets are the cloud's. -/
def extended (group : SecurityGroup) (added : List SecurityRule) : SecurityGroup :=
  { group with rules := group.rules ++ added, subnets := none }

/-- Add the rules that a group lacks, and write the group if it is new or if
there were any. -/
def addRules (stem name : String) (isNew : Bool) (group : SecurityGroup) (ports : List Port) :
    Plan Unit :=
  match Rules.additions stem group ports with
  | .error fault => fail (.input fault)
  | .ok added =>
    if !isNew && added.isEmpty then
      log (.info ("Security group " ++ name ++ " already has all Submariner rules"))
    else do
      log (.info ("Writing " ++ toString added.length ++ " Submariner rule(s) to security group "
        ++ name))
      request (.writeGroup (extended group added))

/-- Make sure that a group exists and that it has a rule for each of the ports. -/
def ensureGroup (name region stem : String) (ports : List Port) : Plan Unit := do
  match ← request (.readGroup name) with
  | some group => addRules stem name false group ports
  | none => do
    log (.info ("Security group " ++ name ++ " does not exist, creating it"))
    addRules stem name true { name, location := some region } ports

end ClusterPorts.Provision
