import ClusterPorts.CommandLine.Program

/-!
# Trying the library on a real cluster

A tool that prepares a cluster twice and cleans it up if it is told to, and says
what it does on the way. Everything it has to know comes from the environment.
Unless it is told to go live it only rehearses.
-/

namespace ClusterPorts.Demo

open Azure CommandLine

/-- How the tool ends: its exit code, and what it complains about. -/
structure Verdict where
  code : Nat
  complaint : Option String := none
deriving DecidableEq, Repr

namespace Verdict

/-- The end of a tool that has done what it was to do. -/
def passed : Verdict := ⟨0, none⟩

/-- The end of a tool that lacks something; it has said so in its log. -/
def incomplete : Verdict := ⟨1, none⟩

/-- The end of a tool that a failure has ended. -/
def failed (failure : Failure) : Verdict := ⟨1, some ("Error: " ++ failure.inspect)⟩

end Verdict

/-- What the tool has to know. -/
structure Assignment where
  settings : Settings
  infraId : String
  resourceGroup : String
  region : String
  mode : String
  withCleanup : Bool

/-- The variables that have to be there. -/
def requiredVariables : List String :=
  ["AZURE_SUBSCRIPTION_ID", "CLOUD_PREPARE_INFRA_ID", "AZURE_REGION",
    "CLOUD_PREPARE_RESOURCE_GROUP"]

/-- The ports that are opened unless there are others. -/
def standardPorts : String := "4500/udp,4490/udp"

/-- Whether the tool only rehearses. -/
def isRehearsal (mode : String) : Bool := Text.lower mode = "dry-run"

/-- What the environment tells, given the ports. -/
def assignment (environment : Environment) (ports : List Port) : Assignment :=
  let value? (name : String) : Option String := List.lookup name environment
  let value (name : String) : String := (value? name).getD ""
  let mode := (value? "CLOUD_PREPARE_MODE").getD "dry-run"
  { settings :=
      { cloud := .azure
          { subscriptionId := value "AZURE_SUBSCRIPTION_ID"
            infraId := value "CLOUD_PREPARE_INFRA_ID"
            region := value "AZURE_REGION"
            resourceGroup := value "CLOUD_PREPARE_RESOURCE_GROUP"
            tenantId := value? "AZURE_TENANT_ID"
            clientId := value? "AZURE_CLIENT_ID"
            clientSecret := value? "AZURE_CLIENT_SECRET"
            accessToken := value? "AZURE_ACCESS_TOKEN" }
        ports
        operation := { dryRun := isRehearsal mode } }
    infraId := value "CLOUD_PREPARE_INFRA_ID"
    resourceGroup := value "CLOUD_PREPARE_RESOURCE_GROUP"
    region := value "AZURE_REGION"
    mode
    withCleanup := value? "CLOUD_PREPARE_CLEANUP" = some "true" }

variable {σ : Type}

/-- Log a line. -/
def say (message : String) : Run σ Unit := log (.info message)

/-- Say what is going to be done. -/
def announce (assignment : Assignment) : Run σ Unit := do
  log (.warn (if assignment.settings.operation.dryRun then
      "Running in DRY-RUN mode - no changes will be made"
    else "Running in LIVE mode - will make actual network changes!"))
  say "Configuration:"
  say ("  Infra ID: " ++ assignment.infraId)
  say ("  Resource group: " ++ assignment.resourceGroup)
  say ("  Region: " ++ assignment.region)
  say ("  Ports: " ++ Port.listText assignment.settings.ports)
  say ("  Mode: " ++ assignment.mode)

/-- Say what has been done. -/
def summarize (assignment : Assignment) : Run σ Unit := do
  let rehearsal := assignment.settings.operation.dryRun
  say "=== Validation Summary ==="
  say "✓ Cloud creation: OK"
  say "✓ Prepare: OK"
  say (if rehearsal then "- Idempotent prepare: not checked in dry-run mode"
    else "✓ Idempotent prepare: OK")
  if assignment.withCleanup then say "✓ Cleanup: OK"
  if rehearsal then
    say "=== DRY-RUN COMPLETE ==="
    say "No changes were made. To make actual changes, set CLOUD_PREPARE_MODE=live"

/-- Something that a failure ends. -/
abbrev Step (σ α : Type) := ExceptT Failure (Run σ) α

/-- Log a line between steps. -/
def heading (message : String) : Step σ Unit := ExceptT.lift (say message)

/-- The steps with the cloud. -/
def steps (assignment : Assignment) (cloud : Cloud (Run σ)) : Step σ Unit := do
  let prepare : Step σ Unit := ExceptT.mk (cloud.prepare assignment.settings.ports)
  heading "--- Step 2: Preparing ---"
  prepare
  heading (if assignment.settings.operation.dryRun then
      "--- Step 3: Preparing again (dry-run repeats the planned writes) ---"
    else "--- Step 3: Preparing again (should make no changes) ---")
  prepare
  if assignment.withCleanup then
    heading "--- Step 4: Cleaning up ---"
    ExceptT.mk cloud.cleanup
  else heading "--- Step 4: Skipped cleanup (set CLOUD_PREPARE_CLEANUP=true) ---"
  ExceptT.lift (summarize assignment)

/-- Carry out what the environment tells. -/
def carryOut (world : World σ) (assignment : Assignment) : Run σ Verdict := do
  announce assignment
  match assignment.settings.validate with
  | .error fault => return .failed (.settings fault)
  | .ok () => do
    say "--- Step 1: Creating Azure cloud ---"
    let (entries, made) := Azure.factory world assignment.settings
    entries.forM log
    match made with
    | .error failure => return .failed failure
    | .ok cloud => do
      say "Cloud created (credentials not shown for security)"
      match ← (steps assignment cloud).run with
      | .ok () => return .passed
      | .error failure => return .failed failure

/-- The whole tool. -/
def validation (world : World σ) (environment : Environment) : Run σ Verdict := do
  say "=== Azure Real Environment Validation ==="
  match requiredVariables.find? fun name => (List.lookup name environment).isNone with
  | some name => do
    log (.error (name ++ " environment variable is required"))
    return .incomplete
  | none =>
    match Port.parseList ((List.lookup "CLOUD_PREPARE_PORTS" environment).getD standardPorts) with
    | .error fault => return .failed (.input (.notAPort fault))
    | .ok ports => carryOut world (assignment environment ports)

end ClusterPorts.Demo
