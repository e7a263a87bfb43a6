import ClusterPorts.CommandLine.Program
import ClusterPorts.Proofs.Azure.Inquiries
import ClusterPorts.Proofs.CommandLine.Merging
import Mathlib.Control.Monad.Basic

/-!
# How a command ends

Whether settings have a credential is looked at twice: when they are checked, and when a
client is made from them. The two agree (`credential_of_validate`), so a cluster on Azure
whose settings pass their check always becomes a cloud, and the credential is never an
empty one. What a command comes to is then told from what its operation comes to, and the
configuration is to blame only where the cloud is not Azure (`CommandLine.ending_exact`).
An operation may also break the program down; that is an ending of its own, with a code
of its own (`CommandLine.code_of_endless`).
-/

namespace ClusterPorts

namespace Azure

variable {σ α : Type}

/-! ## Credentials -/

/-- The credential that the settings of a cluster call for. It has no empty part. -/
inductive Chosen (azure : AzureSettings) : Credential → Prop
  | accessToken {token : String} (own : azure.accessToken = some token) (nonempty : token ≠ "") :
      Chosen azure (.accessToken token)
  | clientSecret {tenant client secret : String} (lacking : ¬ azure.hasToken)
      (ownTenant : azure.tenantId = some tenant) (ownClient : azure.clientId = some client)
      (ownSecret : azure.clientSecret = some secret) (nonempty_tenant : tenant ≠ "")
      (nonempty_client : client ≠ "") (nonempty_secret : secret ≠ "") :
      Chosen azure (.clientSecret tenant client secret
        (azure.authorityHost.getD Credential.standardAuthority))

/-- Settings that pass their check give the credential that they call for. -/
theorem credential_of_validate {azure : AzureSettings} (valid : azure.validate = .ok ()) :
    ∃ chosen, credential azure = .ok chosen ∧ Chosen azure chosen := by
  by_cases token : azure.hasToken
  · obtain ⟨secret, own, nonempty⟩ := AzureSettings.hasToken_iff.mp token
    have given : azure.accessToken.filter (· ≠ "") = some secret := by simp [own, nonempty]
    exact ⟨_, by rw [credential, given], .accessToken own nonempty⟩
  · have none : azure.accessToken.filter (· ≠ "") = none := filter_eq_none_iff.mpr token
    have principal := (AzureSettings.validate_eq_ok.mp valid).2.resolve_left token
    obtain ⟨tenant, client, secret, ownTenant, ownClient, ownSecret, nonempty_tenant,
      nonempty_client, nonempty_secret⟩ := AzureSettings.hasPrincipal_iff.mp principal
    refine ⟨_, ?_, .clientSecret token ownTenant ownClient ownSecret nonempty_tenant
      nonempty_client nonempty_secret⟩
    rw [credential, none, ownTenant, ownClient, ownSecret]

theorem client_of_credential {azure : AzureSettings} (operation : OperationSettings)
    {chosen : Credential} (gives : credential azure = .ok chosen) :
    ∃ made entries, client azure operation = .ok (made, entries) ∧
      made.tokens.credential = chosen := by
  rw [client, gives]
  exact ⟨_, _, rfl, rfl⟩

/-! ## Log entries -/

theorem Run.exec_log (entry : LogEntry) (session : Session σ) :
    (CommandLine.log entry).exec session = (.ok (), session.noted [entry]) := rfl

theorem Run.exec_logs (entries : List LogEntry) (session : Session σ) :
    (entries.forM CommandLine.log).exec session = (.ok (), session.noted entries) := by
  induction entries generalizing session with
  | nil => rw [Session.noted_nil]; rfl
  | cons entry rest ih =>
      show (CommandLine.log entry >>= fun _ => rest.forM CommandLine.log).exec session = _
      rw [Run.exec_bind, Run.exec_log]
      simp only [ih, Session.noted_noted, List.singleton_append]

end Azure

namespace CommandLine

open Azure

variable {σ : Type}

/-! ## Making the cloud -/

/-- Azure is the one cloud that there is. -/
theorem create_eq (world : World σ) (settings : Settings) :
    (registry world).create settings =
      if settings.cloud.typeName = Azure.name then Azure.factory world settings
      else ([], .error (.settings (.unknownCloud settings.cloud.typeName))) := by
  rw [registry, Registry.register, Registry.create, Table.find?_insert]
  by_cases named : settings.cloud.typeName = Azure.name
  · simp only [if_pos named]
  · simp only [if_neg named, Table.find?_empty]

/-- The settings of a cluster on Azure that pass their check make a cloud. -/
theorem create_azure (world : World σ) {settings : Settings} {azure : AzureSettings}
    (isAzure : settings.cloud = .azure azure) (valid : settings.validate = .ok ()) :
    ∃ made entries,
      (registry world).create settings = (entries, .ok (cloud world (cluster azure) made)) ∧
        Chosen azure made.tokens.credential := by
  have valid : azure.validate = .ok () := by
    have cloud := (Settings.validate_eq_ok.mp valid).1
    rwa [isAzure] at cloud
  obtain ⟨chosen, gives, called⟩ := credential_of_validate valid
  obtain ⟨made, entries, makes, rfl⟩ := client_of_credential settings.operation gives
  refine ⟨made, entries, ?_, called⟩
  have named : settings.cloud.typeName = Azure.name := by rw [isAzure]; rfl
  rw [create_eq, if_pos named, Azure.factory, isAzure]
  simp only [makes]

/-- No other cloud can be made, not even under the name of Azure. -/
theorem create_custom (world : World σ) {settings : Settings} {factory : String} {config : Json}
    (isCustom : settings.cloud = .custom factory config) :
    ∃ failure, (registry world).create settings = ([], .error failure) := by
  rw [create_eq, isCustom]
  split
  · rw [Azure.factory, isCustom]
    exact ⟨_, rfl⟩
  · exact ⟨_, rfl⟩

/-! ## Carrying out a command -/

/-- What is said before an operation begins. -/
def opening (settings : Settings) (entries : List LogEntry) : List LogEntry :=
  [.info "Registering Azure cloud", Registry.registered Azure.name] ++ entries ++
    if settings.operation.dryRun then [.info "Dry-run mode: no changes will be made"] else []

/-- The ending of a command with a cloud, told from what its operation comes to. -/
def endingOf : Except Crash (Except Failure Unit) → Except Crash Ending
  | .ok (.ok ()) => .ok .success
  | .ok (.error _) => .ok .operationFailed
  | .error breakdown => .error breakdown

section

variable {world : World σ} {settings : Settings} {entries : List LogEntry} (verb : Verb)

/-- Where there is a cloud, a command is its operation. -/
theorem exec_run_of_cloud {made : Cloud (Run σ)}
    (creates : (registry world).create settings = (entries, .ok made)) (session : Session σ) :
    ((run world verb settings).exec session).1 =
      endingOf ((perform verb settings made).exec (session.noted (opening settings entries))).1 := by
  rw [run, creates, opening]
  -- What is said first differs in a rehearsal, what comes of the operation does not.
  cases settings.operation.dryRun
  all_goals
    simp only [Run.exec_bind, Run.exec_log, Run.exec_logs, Session.noted_noted, List.cons_append,
      List.nil_append, List.append_nil, Bool.false_eq_true, if_false, if_true]
    rcases (perform verb settings made).exec _ with ⟨_ | ⟨_ | ⟨⟩⟩, after⟩ <;> rfl

/-- Without a cloud nothing happens but that it is said why. -/
theorem exec_run_of_failure {failure : Failure}
    (creates : (registry world).create settings = (entries, .error failure))
    (session : Session σ) :
    ∃ said, (run world verb settings).exec session =
      (.ok .badConfiguration, session.noted said) := by
  refine ⟨[.info "Registering Azure cloud", Registry.registered Azure.name] ++ entries ++
    [.error ("Failed to create cloud: " ++ failure.message)], ?_⟩
  rw [run, creates]
  simp only [Run.exec_bind, Run.exec_log, Run.exec_logs, Session.noted_noted]
  rfl

end

theorem endingOf_eq_success {operation : Except Crash (Except Failure Unit)} :
    endingOf operation = .ok .success ↔ operation = .ok (.ok ()) := by
  rcases operation with _ | (_ | ⟨⟩) <;> simp [endingOf]

theorem endingOf_eq_operationFailed {operation : Except Crash (Except Failure Unit)} :
    endingOf operation = .ok .operationFailed ↔ ∃ failure, operation = .ok (.error failure) := by
  rcases operation with _ | (_ | ⟨⟩) <;> simp [endingOf]

theorem endingOf_eq_crash {operation : Except Crash (Except Failure Unit)} :
    endingOf operation = .error .crash ↔ operation = .error .crash := by
  rcases operation with _ | (_ | ⟨⟩) <;> simp [endingOf]

theorem endingOf_ne_badConfiguration (operation : Except Crash (Except Failure Unit)) :
    endingOf operation ≠ .ok .badConfiguration := by
  rcases operation with _ | (_ | ⟨⟩) <;> simp [endingOf]

/-- The exit code of the program, told from how its command ends. -/
def codeOf : Except Crash Ending → Nat
  | .ok ending => ending.code
  | .error _ => Ending.crashCode

theorem code_execute {world : World σ} {environment : Environment} {args : List String}
    {invocation : Invocation} {files : String → FileContents} {settings : Settings}
    (parses : parse environment args = .ok invocation)
    (accepted : invocation.settings files = .ok settings) (outside : σ) :
    (execute world outside environment files args).1.code =
      codeOf ((run world invocation.verb settings).exec { outside }).1 := by
  have executed : execute world outside environment files args =
      match (run world invocation.verb settings).exec { outside } with
      | (.ok ending, session) =>
        (.finished ending (printed invocation.level session.notes), session.outside)
      | (.error .crash, session) =>
        (.crashed (printed invocation.level session.notes), session.outside) := by
    rw [execute, parses]
    simp only [accepted]
    rfl
  rw [executed]
  rcases (run world invocation.verb settings).exec { outside } with ⟨_ | _, _⟩ <;> rfl

/-- What a program comes to with a cluster on Azure or with another cloud. If the settings
of a cluster on Azure pass their check, its cloud is made, and it has the credential that
the settings call for. For a command line that gives settings, and from any session, the
configuration is to blame exactly if the cloud is not Azure, whatever its factory is
called; nothing is done then but that it is said. A command with a cloud ends well exactly
if its operation does, and fails exactly if its operation fails; the rest is an operation
that breaks the program down. The exit code tells which it was. -/
theorem ending_exact (world : World σ) (settings : Settings) :
    (settings.validate = .ok () → ∀ azure, settings.cloud = .azure azure → ∃ made entries,
      (registry world).create settings = (entries, .ok (cloud world (cluster azure) made)) ∧
        Chosen azure made.tokens.credential) ∧
    ∀ invocation files, Invocation.settings invocation files = .ok settings →
      (∀ session : Session σ,
        let (ending, after) := (run world invocation.verb settings).exec session
        (ending = .ok .badConfiguration ↔
          ∃ factory config, settings.cloud = .custom factory config) ∧
        (∀ factory config, settings.cloud = .custom factory config →
          ∃ said, after = session.noted said) ∧
        ∀ azure, settings.cloud = .azure azure → ∃ made entries,
          (registry world).create settings = (entries, .ok made) ∧
          let (operation, _) := (perform invocation.verb settings made).exec
            (session.noted (opening settings entries))
          (ending = .ok .success ↔ operation = .ok (.ok ())) ∧
          (ending = .ok .operationFailed ↔ ∃ failure, operation = .ok (.error failure)) ∧
          (ending = .error .crash ↔ operation = .error .crash)) ∧
      ∀ environment args outside, parse environment args = .ok invocation →
        (execute world outside environment files args).1.code =
          codeOf ((run world invocation.verb settings).exec { outside }).1 := by
  refine ⟨fun valid azure isAzure => create_azure world isAzure valid, ?_⟩
  intro invocation files accepted
  have valid := Invocation.validate_of_settings accepted
  refine ⟨fun session => ?_, fun environment args outside parses =>
    code_execute parses accepted outside⟩
  cases isCloud : settings.cloud with
  | custom factory config =>
    obtain ⟨failure, creates⟩ := create_custom world isCloud
    obtain ⟨said, runs⟩ := exec_run_of_failure invocation.verb creates session
    rw [runs]
    exact ⟨iff_of_true rfl ⟨_, _, rfl⟩, fun _ _ _ => ⟨said, rfl⟩, nofun⟩
  | azure azure =>
    obtain ⟨made, entries, creates, _⟩ := create_azure world isCloud valid
    have ends := exec_run_of_cloud invocation.verb creates session
    simp only [ends]
    refine ⟨iff_of_false (endingOf_ne_badConfiguration _) nofun, nofun, fun _ _ => ?_⟩
    exact ⟨_, entries, creates, endingOf_eq_success, endingOf_eq_operationFailed,
      endingOf_eq_crash⟩

/-! ### A cluster that is cleaned up -/

namespace Sample

/-- A cluster on Azure, and a client that asks for its access tokens. -/
def cleaning : List String :=
  ["--subscription-id=0000-sub", "--infra-id=infra", "--region=eastus",
   "--resource-group=infra-rg", "--tenant-id=tenant", "--client-id=client",
   "--client-secret=secret", "cleanup"]

def settings : Settings where
  cloud := .azure
    { subscriptionId := "0000-sub", infraId := "infra", region := "eastus"
      resourceGroup := "infra-rg", tenantId := some "tenant", clientId := some "client"
      clientSecret := some "secret" }

def nowhere (_ : String) : FileContents := .missing

/-- A server that does not answer. -/
def unanswered : List (Option Http.Response) × List Moment := ([none], [])

/-- A server that grants a token for longer than anything can last. -/
def endless : List (Option Http.Response) × List Moment :=
  ([some (Azure.Sample.grant "first" 9223372036854775807)], [⟨0⟩])

end Sample

theorem ending_exact_sample :
    ∃ invocation, parse [] Sample.cleaning = .ok invocation ∧
      invocation.settings Sample.nowhere = .ok Sample.settings ∧
      (∃ made entries, (registry World.timeline).create Sample.settings = (entries, .ok made)) ∧
      ((run World.timeline .cleanup Sample.settings).exec { outside := Sample.unanswered }).1 ≠
        .ok .badConfiguration ∧
      (execute World.timeline Sample.unanswered [] Sample.nowhere Sample.cleaning).1.code = 2 := by
  obtain ⟨invocation, parses, verb, accepted⟩ : ∃ invocation,
      parse [] Sample.cleaning = .ok invocation ∧ invocation.verb = .cleanup ∧
        invocation.settings Sample.nowhere = .ok Sample.settings := ⟨_, rfl, rfl, rfl⟩
  obtain ⟨creates, runs⟩ := ending_exact World.timeline Sample.settings
  obtain ⟨made, entries, made_eq, _⟩ :=
    creates (Invocation.validate_of_settings accepted) _ rfl
  obtain ⟨ends, codes⟩ := runs invocation Sample.nowhere accepted
  have fails : codeOf ((run World.timeline .cleanup Sample.settings).exec
      { outside := Sample.unanswered }).1 = 2 := by decide +kernel
  rw [verb] at ends codes
  refine ⟨invocation, parses, accepted, ⟨_, entries, made_eq⟩, fun blamed => ?_,
    (codes [] _ Sample.unanswered parses).trans fails⟩
  obtain ⟨factory, config, other⟩ := (ends { outside := Sample.unanswered }).1.mp blamed
  cases other

/-- A cluster on Azure whose operation does not end well, and the exit code does not say
that it has failed. -/
theorem code_of_endless :
    (∃ invocation, parse [] Sample.cleaning = .ok invocation ∧
      invocation.settings Sample.nowhere = .ok Sample.settings) ∧
    (∃ azure, Sample.settings.cloud = .azure azure) ∧
    ((run World.timeline .cleanup Sample.settings).exec { outside := Sample.endless }).1 =
      .error .crash ∧
    (execute World.timeline Sample.endless [] Sample.nowhere Sample.cleaning).1.code = 101 := by
  refine ⟨⟨_, rfl, rfl⟩, ⟨_, rfl⟩, ?_, ?_⟩ <;> decide +kernel

end CommandLine

end ClusterPorts
