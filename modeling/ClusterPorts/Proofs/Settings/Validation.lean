import ClusterPorts.Settings

/-!
# Settings that pass their check

What it takes for settings to be accepted, part by part. A cluster on Azure needs its
names and either an access token or all that one is asked for with; an operation needs a
poll interval that is not longer than its time. That the two may be equal is said here
because it decides whether a poll is ever made.
-/

namespace ClusterPorts

theorem isGiven_iff {text : Option String} : isGiven text ↔ ∃ s, text = some s ∧ s ≠ "" := by
  cases text <;> simp [isGiven]

/-- A text that is given is what is left when the empty text is taken for none. -/
theorem filter_eq_none_iff {text : Option String} :
    text.filter (· ≠ "") = none ↔ ¬ isGiven text := by
  cases text <;> simp [isGiven]

namespace AzureSettings

variable {azure : AzureSettings}

theorem hasToken_iff : azure.hasToken ↔ ∃ token, azure.accessToken = some token ∧ token ≠ "" :=
  isGiven_iff

theorem hasPrincipal_iff :
    azure.hasPrincipal ↔ ∃ tenant client secret,
      azure.tenantId = some tenant ∧ azure.clientId = some client ∧
        azure.clientSecret = some secret ∧ tenant ≠ "" ∧ client ≠ "" ∧ secret ≠ "" := by
  simp only [hasPrincipal, Bool.and_eq_true, isGiven_iff]
  constructor
  · rintro ⟨⟨⟨tenant, tenant_eq, tenant_ne⟩, client, client_eq, client_ne⟩, secret, secret_eq,
      secret_ne⟩
    exact ⟨tenant, client, secret, tenant_eq, client_eq, secret_eq, tenant_ne, client_ne,
      secret_ne⟩
  · rintro ⟨tenant, client, secret, tenant_eq, client_eq, secret_eq, tenant_ne, client_ne,
      secret_ne⟩
    exact ⟨⟨⟨tenant, tenant_eq, tenant_ne⟩, client, client_eq, client_ne⟩, secret, secret_eq,
      secret_ne⟩

theorem validate_eq_ok :
    azure.validate = .ok () ↔
      (∀ field ∈ azure.named, ¬ Text.isBlankText field.2) ∧
        (azure.hasToken ∨ azure.hasPrincipal) := by
  rw [validate]
  split
  · next name value found =>
    have blank := List.find?_some found
    refine iff_of_false nofun fun ⟨named, _⟩ => ?_
    exact named _ (List.mem_of_find?_eq_some found) blank
  · next found =>
    have named : ∀ field ∈ azure.named, ¬ Text.isBlankText field.2 := by
      simpa using List.find?_eq_none.mp found
    split
    · next credentials => exact iff_of_true rfl ⟨named, by simpa using credentials⟩
    · next none =>
      refine iff_of_false nofun fun ⟨_, credentials⟩ => none ?_
      simpa using credentials

end AzureSettings

/-- The interval may be as long as the time. -/
theorem OperationSettings.validate_eq_ok {operation : OperationSettings} :
    operation.validate = .ok () ↔
      0 < operation.pollSecs ∧ operation.pollSecs ≤ operation.timeoutSecs := by
  have positive (secs : UInt64) : secs ≠ 0 ↔ 0 < secs := UInt64.pos_iff_ne_zero.symm
  rw [validate]
  by_cases timeless : operation.timeoutSecs = 0
  · rw [if_pos timeless, timeless]
    refine iff_of_false nofun fun ⟨poll, short⟩ => ?_
    exact absurd (UInt64.lt_of_lt_of_le poll short) (UInt64.lt_irrefl 0)
  rw [if_neg timeless]
  by_cases restless : operation.pollSecs = 0
  · rw [if_pos restless, restless]
    exact iff_of_false nofun fun ⟨poll, _⟩ => UInt64.lt_irrefl 0 poll
  rw [if_neg restless]
  have poll : 0 < operation.pollSecs := (positive _).mp restless
  by_cases long : operation.timeoutSecs < operation.pollSecs
  · rw [if_pos long]
    exact iff_of_false nofun fun ⟨_, short⟩ => UInt64.not_lt.mpr short long
  · rw [if_neg long]
    exact iff_of_true rfl ⟨poll, UInt64.not_lt.mp long⟩

/-- Settings are accepted if each part of them is. -/
theorem Settings.validate_eq_ok {settings : Settings} :
    settings.validate = .ok () ↔
      settings.cloud.validate = .ok () ∧ settings.operation.validate = .ok () ∧
        Port.flaw? settings.ports = none := by
  rw [validate]
  cases settings.cloud.validate with
  | error fault => exact iff_of_false nofun nofun
  | ok =>
    cases settings.operation.validate with
    | error fault => exact iff_of_false nofun nofun
    | ok =>
      cases flaw : Port.flaw? settings.ports with
      | some flaw => exact iff_of_false nofun nofun
      | none => exact iff_of_true rfl ⟨rfl, rfl, rfl⟩

/-- Where nothing else is wrong, settings are refused for the first flaw of their ports. -/
theorem Settings.validate_eq_flawedPorts {settings : Settings} {flaw : Port.Flaw}
    (cloud : settings.cloud.validate = .ok ()) (operation : settings.operation.validate = .ok ()) :
    settings.validate = .error (.flawedPorts flaw) ↔ Port.flaw? settings.ports = some flaw := by
  rw [validate, cloud, operation]
  cases Port.flaw? settings.ports <;> simp [bind, Except.bind, pure, Except.pure]

end ClusterPorts
