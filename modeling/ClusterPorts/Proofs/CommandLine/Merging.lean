import ClusterPorts.CommandLine.Merge
import ClusterPorts.Proofs.Settings.Validation

/-!
# What a command line gives

A command line gives settings if its file can be read, its flags go with the cloud of the
file, and what the two amount to together is accepted (`Invocation.settings_eq_ok`). A
field that has a flag is what the flag says, or else what the file says; the poll interval
of the file is also cut to a timeout that is given. Giving the same flags again, or no
flags, on top of what they have already given changes nothing. That is said of commands
that agree in their flags (`Invocation.Echoes`), since the file is another one then.
-/

namespace ClusterPorts

/-- The field of a cluster's settings that a flag is for. -/
def AzureSettings.under (azure : AzureSettings) : CommandLine.Flag → Option String
  | .subscriptionId => some azure.subscriptionId
  | .infraId => some azure.infraId
  | .region => some azure.region
  | .resourceGroup => some azure.resourceGroup
  | .tenantId => azure.tenantId
  | .clientId => azure.clientId
  | .clientSecret => azure.clientSecret
  | .accessToken => azure.accessToken
  | _ => none

/-- The flags and the two fields without one are all that there is. -/
theorem AzureSettings.ext_under {azure other : AzureSettings}
    (fields : ∀ flag ∈ CommandLine.Flag.azure, azure.under flag = other.under flag)
    (endpoint : azure.endpoint = other.endpoint)
    (authorityHost : azure.authorityHost = other.authorityHost) : azure = other := by
  simp only [CommandLine.Flag.azure, List.forall_mem_cons, under, Option.some.injEq,
    List.not_mem_nil, false_implies, implies_true, and_true] at fields
  obtain ⟨subscription, infra, region, group, tenant, client, secret, token⟩ := fields
  cases azure
  cases other
  simp_all

namespace CommandLine.Invocation

variable {invocation other : Invocation} {files : String → FileContents} {settings : Settings}

/-- What it takes for merged settings to be accepted. -/
theorem accept_eq_ok {verb : Verb} (merged : Settings) :
    (match merged.validate with
      | .error fault => .error (.invalid fault)
      | .ok () =>
        if verb = .prepare ∧ merged.ports = [] then .error .noPorts else .ok merged :
        Except SetupFault Settings) = .ok settings ↔
      settings = merged ∧ settings.validate = .ok () ∧ (verb = .prepare → settings.ports ≠ []) := by
  cases checks : merged.validate with
  | error fault =>
    refine iff_of_false nofun ?_
    rintro ⟨rfl, valid, _⟩
    cases checks.symm.trans valid
  | ok =>
    simp only
    split
    · next missing =>
      refine iff_of_false nofun ?_
      rintro ⟨rfl, _, given⟩
      exact given missing.1 missing.2
    · next given =>
      refine ⟨?_, ?_⟩
      · rintro ⟨rfl⟩
        exact ⟨rfl, checks, fun prepares none => given ⟨prepares, none⟩⟩
      · rintro ⟨rfl, _⟩
        rfl

/-- What it takes for a command line to give settings. -/
theorem settings_eq_ok :
    invocation.settings files = .ok settings ↔
      ∃ base cloud, invocation.fileSettings files = .ok base ∧
        invocation.mergeCloud base.cloud = .ok cloud ∧
        settings =
          ⟨cloud, invocation.mergePorts base.ports, invocation.mergeOperation base.operation⟩ ∧
        settings.validate = .ok () ∧ (invocation.verb = .prepare → settings.ports ≠ []) := by
  rw [Invocation.settings]
  cases reads : invocation.fileSettings files with
  | error fault => simp [bind, Except.bind]
  | ok base =>
    cases merges : invocation.mergeCloud base.cloud with
    | error fault => simp [bind, Except.bind, merges]
    | ok cloud =>
      simp only [bind, Except.bind, merges, Except.ok.injEq, exists_and_left, exists_eq_left']
      exact accept_eq_ok _

/-- Settings that a command line gives pass their check. -/
theorem validate_of_settings (accepted : invocation.settings files = .ok settings) :
    settings.validate = .ok () := by
  obtain ⟨_, _, _, _, _, valid, _⟩ := settings_eq_ok.mp accepted
  exact valid

/-! ## The fields -/

theorem azureFlags_eq_nil :
    invocation.azureFlags = [] ↔ ∀ flag ∈ Flag.azure, invocation.text? flag = none := by
  simp [azureFlags, List.filter_eq_nil_iff]

/-- A field of a cluster is what its flag says, or else what it was. -/
theorem under_mergeAzure (azure : AzureSettings) {flag : Flag} (member : flag ∈ Flag.azure) :
    (invocation.mergeAzure azure).under flag = (invocation.text? flag).or (azure.under flag) := by
  have required (given : Option String) (value : String) :
      some (given.getD value) = given.or (some value) := by cases given <;> rfl
  simp only [Flag.azure, List.mem_cons, List.not_mem_nil, or_false] at member
  rcases member with rfl | rfl | rfl | rfl | rfl | rfl | rfl | rfl <;>
    simp only [mergeAzure, AzureSettings.under, required]

/-- Another cloud than Azure is left as it is, and there is no flag for it. -/
theorem mergeCloud_eq_ok {base cloud : CloudSettings} :
    invocation.mergeCloud base = .ok cloud ↔
      (∃ azure, base = .azure azure ∧ cloud = .azure (invocation.mergeAzure azure)) ∨
        ∃ factory config, base = .custom factory config ∧ cloud = base ∧
          ∀ flag ∈ Flag.azure, invocation.text? flag = none := by
  cases base with
  | azure azure => simp [mergeCloud, eq_comm]
  | custom factory config =>
    simp only [mergeCloud, List.isEmpty_iff, azureFlags_eq_nil]
    split
    · next unflagged =>
      constructor
      · rintro ⟨rfl⟩
        exact .inr ⟨factory, config, rfl, rfl, unflagged⟩
      · rintro (⟨_, ⟨⟩, _⟩ | ⟨_, _, _, rfl, _⟩)
        rfl
    · next flagged => simp [flagged]

theorem min_secs (secs other : UInt64) :
    min secs other = if secs ≤ other then secs else other := rfl

/-- A poll interval that is not given is cut to a timeout that is. -/
theorem pollSecs_mergeOperation (operation : OperationSettings) :
    (invocation.mergeOperation operation).pollSecs =
      (invocation.number? .pollSecs).getD
        (match invocation.number? .timeoutSecs with
          | some timeout => min timeout operation.pollSecs
          | none => operation.pollSecs) := by
  simp only [mergeOperation]
  cases invocation.number? .pollSecs with
  | some poll => rfl
  | none =>
    cases invocation.number? .timeoutSecs with
    | none => rfl
    | some timeout =>
      simp only [Option.getD_none, min_secs]
      by_cases shorter : timeout < operation.pollSecs
      · rw [if_pos shorter, if_pos (UInt64.le_of_lt shorter)]
      · rw [if_neg shorter]
        split
        · next short => exact UInt64.le_antisymm (UInt64.not_lt.mp shorter) short
        · rfl

/-- A timeout that is given is long enough for the poll interval of the file, if none is
given, whatever the file says about its own timeout. -/
theorem validate_mergeOperation {operation : OperationSettings} {timeout : UInt64}
    (given : invocation.number? .timeoutSecs = some timeout)
    (unset : invocation.number? .pollSecs = none) (some_time : 1 ≤ timeout)
    (some_interval : 1 ≤ operation.pollSecs) :
    (invocation.mergeOperation operation).pollSecs = min timeout operation.pollSecs ∧
      (invocation.mergeOperation operation).validate = .ok () := by
  have poll : (invocation.mergeOperation operation).pollSecs = min timeout operation.pollSecs := by
    rw [pollSecs_mergeOperation, unset, given]
    rfl
  have time : (invocation.mergeOperation operation).timeoutSecs = timeout := by
    simp only [mergeOperation, given, Option.getD_some]
  refine ⟨poll, OperationSettings.validate_eq_ok.mpr ?_⟩
  rw [poll, time, min_secs]
  simp only [UInt64.lt_iff_toNat_lt, UInt64.le_iff_toNat_le, UInt64.toNat_zero,
    UInt64.toNat_one] at some_time some_interval ⊢
  split <;> omega

/-! ## Saying it again -/

/-- Another command with the same verb gives some of the flags of a command again, or
none of them. Its file and its log are its own. -/
structure Echoes (invocation other : Invocation) : Prop where
  verb : other.verb = invocation.verb
  flags : ∀ flag, flag ≠ .config → flag ≠ .logLevel →
    other.find? flag = none ∨ other.find? flag = invocation.find? flag

section

variable (echoes : invocation.Echoes other)

include echoes

theorem Echoes.text? {flag : Flag} (member : flag ∈ Flag.azure) :
    other.text? flag = none ∨ other.text? flag = invocation.text? flag := by
  have own : flag ≠ .config ∧ flag ≠ .logLevel := by
    refine ⟨?_, ?_⟩ <;> rintro rfl <;> simp [Flag.azure] at member
  rcases echoes.flags flag own.1 own.2 with none | same
  · exact .inl (by rw [Invocation.text?, none])
  · exact .inr (by rw [Invocation.text?, same, Invocation.text?])

theorem Echoes.mergeAzure (azure : AzureSettings) :
    other.mergeAzure (invocation.mergeAzure azure) = invocation.mergeAzure azure := by
  refine AzureSettings.ext_under (fun flag member => ?_) rfl rfl
  rw [under_mergeAzure _ member, under_mergeAzure _ member]
  rcases echoes.text? member with none | same
  · rw [none, Option.none_or]
  · rw [same, ← Option.or_assoc, Option.or_self]

/-- A cloud that was merged is left as it is. -/
theorem Echoes.mergeCloud {base cloud : CloudSettings}
    (merges : invocation.mergeCloud base = .ok cloud) : other.mergeCloud cloud = .ok cloud := by
  rcases mergeCloud_eq_ok.mp merges with
    ⟨azure, rfl, rfl⟩ | ⟨factory, config, rfl, rfl, unflagged⟩
  · exact mergeCloud_eq_ok.mpr (.inl ⟨_, rfl, by rw [echoes.mergeAzure]⟩)
  · refine mergeCloud_eq_ok.mpr (.inr ⟨factory, config, rfl, rfl, fun flag member => ?_⟩)
    rcases echoes.text? member with none | same
    · exact none
    · exact same.trans (unflagged flag member)

theorem Echoes.mergePorts (ports : List Port) :
    other.mergePorts (invocation.mergePorts ports) = invocation.mergePorts ports := by
  rcases echoes.flags .port nofun nofun with none | same
  · have portless : other.ports = [] := by rw [Invocation.ports, none]; rfl
    rw [Invocation.mergePorts, portless, if_neg (by simp)]
  · have ports_eq : other.ports = invocation.ports := by
      rw [Invocation.ports, same, Invocation.ports]
    simp only [Invocation.mergePorts, echoes.verb, ports_eq]
    split <;> rfl

theorem Echoes.number? (flag : Flag) (own : flag ≠ .config) (own' : flag ≠ .logLevel) :
    other.number? flag = none ∨ other.number? flag = invocation.number? flag := by
  rcases echoes.flags flag own own' with none | same
  · exact .inl (by rw [Invocation.number?, none])
  · exact .inr (by rw [Invocation.number?, same, Invocation.number?])

theorem Echoes.isSet :
    (invocation.isSet .dryRun || other.isSet .dryRun) = invocation.isSet .dryRun := by
  rcases echoes.flags .dryRun nofun nofun with none | same
  · have unset : other.isSet .dryRun = false := by rw [Invocation.isSet, none]
    rw [unset, Bool.or_false]
  · have same : other.isSet .dryRun = invocation.isSet .dryRun := by
      rw [Invocation.isSet, same, Invocation.isSet]
    rw [same, Bool.or_self]

/-- An interval that is not longer than the timeout is not cut again. -/
theorem Echoes.mergeOperation {operation : OperationSettings}
    (valid : (invocation.mergeOperation operation).validate = .ok ()) :
    other.mergeOperation (invocation.mergeOperation operation) =
      invocation.mergeOperation operation := by
  obtain ⟨_, short⟩ := OperationSettings.validate_eq_ok.mp valid
  generalize merged_eq : invocation.mergeOperation operation = merged at short ⊢
  have timeout : (other.number? .timeoutSecs).getD merged.timeoutSecs = merged.timeoutSecs := by
    rcases echoes.number? .timeoutSecs nofun nofun with none | same
    · rw [none, Option.getD_none]
    · rw [same, ← merged_eq]
      simp only [Invocation.mergeOperation]
      cases invocation.number? .timeoutSecs <;> rfl
  have dryRun : (merged.dryRun || other.isSet .dryRun) = merged.dryRun := by
    rw [← merged_eq]
    simp only [Invocation.mergeOperation, Bool.or_assoc, echoes.isSet]
  have uncut : (match other.number? .timeoutSecs with
      | some timeout => min timeout merged.pollSecs
      | none => merged.pollSecs) = merged.pollSecs := by
    cases given : other.number? .timeoutSecs with
    | none => rfl
    | some secs =>
      rw [given, Option.getD_some] at timeout
      subst timeout
      simp only [min_secs]
      split
      · next long => exact UInt64.le_antisymm long short
      · rfl
  have poll : (other.mergeOperation merged).pollSecs = merged.pollSecs := by
    rw [pollSecs_mergeOperation, uncut]
    rcases echoes.number? .pollSecs nofun nofun with none | same
    · rw [none, Option.getD_none]
    · rw [same, ← merged_eq, pollSecs_mergeOperation]
      cases invocation.number? .pollSecs <;> rfl
  have parts : other.mergeOperation merged =
      ⟨(other.number? .timeoutSecs).getD merged.timeoutSecs, (other.mergeOperation merged).pollSecs,
        merged.dryRun || other.isSet .dryRun⟩ := rfl
  rw [parts, timeout, poll, dryRun]

/-- Settings that were given are given once more by a command that says some of it again
on top of them. -/
theorem Echoes.settings_eq {files' : String → FileContents}
    (accepted : invocation.settings files = .ok settings)
    (reads : other.fileSettings files' = .ok settings) : other.settings files' = .ok settings := by
  obtain ⟨base, cloud, _, merges, rfl, valid, ported⟩ := settings_eq_ok.mp accepted
  have steady := (Settings.validate_eq_ok.mp valid).2.1
  refine settings_eq_ok.mpr ⟨_, cloud, reads, echoes.mergeCloud merges, ?_, valid, ?_⟩
  · rw [echoes.mergePorts, echoes.mergeOperation steady]
  · rw [echoes.verb]
    exact ported

end

end CommandLine.Invocation

end ClusterPorts
