import ClusterPorts.Proofs.CommandLine.Merging
import ClusterPorts.Proofs.Settings.Codec

/-!
# A command line as a file

What a command line gives can be written into a file, and a command with that file gives the
same settings without any flags, or with the same flags once more
(`Invocation.flattens_of_settings`). What the settings are is told field by field
(`Invocation.Overlays`). That a timeout alone can always be given, if the interval of the
file is not zero, is part of the result: the interval is cut to it then.
-/

namespace ClusterPorts

open Json

namespace CommandLine.Invocation

variable {invocation other : Invocation} {files : String → FileContents} {base settings : Settings}

/-! ## The fields -/

/-- Settings are others with what the flags give in their place. -/
structure Overlays (invocation : Invocation) (base settings : Settings) : Prop where
  azure : ∀ {azure}, base.cloud = .azure azure → ∃ merged, settings.cloud = .azure merged ∧
    (∀ flag ∈ Flag.azure, merged.under flag = (invocation.text? flag).or (azure.under flag)) ∧
      merged.endpoint = azure.endpoint ∧ merged.authorityHost = azure.authorityHost
  custom : ∀ {factory config}, base.cloud = .custom factory config →
    settings.cloud = .custom factory config ∧ ∀ flag ∈ Flag.azure, invocation.text? flag = none
  timeout : settings.operation.timeoutSecs =
    (invocation.number? .timeoutSecs).getD base.operation.timeoutSecs
  /-- A timeout cuts an interval that no flag gives. -/
  interval : settings.operation.pollSecs = (invocation.number? .pollSecs).getD
    ((invocation.number? .timeoutSecs).elim base.operation.pollSecs (min · base.operation.pollSecs))
  dryRun : settings.operation.dryRun = (base.operation.dryRun || invocation.isSet .dryRun)
  ports : settings.ports =
    if invocation.verb = .prepare ∧ invocation.ports ≠ [] then invocation.ports else base.ports

theorem overlays_merged {cloud : CloudSettings}
    (merges : invocation.mergeCloud base.cloud = .ok cloud) :
    invocation.Overlays base
      ⟨cloud, invocation.mergePorts base.ports, invocation.mergeOperation base.operation⟩ where
  azure {azure} is := by
    rw [is] at merges
    obtain ⟨_, same, merged⟩ | ⟨_, _, same, _⟩ := mergeCloud_eq_ok.mp merges
    · cases same
      exact ⟨_, merged, fun flag member => under_mergeAzure _ member, rfl, rfl⟩
    · cases same
  custom {factory config} is := by
    rw [is] at merges
    obtain ⟨_, same, _⟩ | ⟨_, _, _, merged, unflagged⟩ := mergeCloud_eq_ok.mp merges
    · cases same
    · exact ⟨merged, unflagged⟩
  timeout := rfl
  interval := by
    rw [pollSecs_mergeOperation]
    cases invocation.number? .timeoutSecs <;> rfl
  dryRun := rfl
  ports := rfl

/-! ## The file -/

/-- The settings to begin with are Azure's, or those in the text of the file. -/
theorem fileSettings_eq_ok :
    invocation.fileSettings files = .ok base ↔
      invocation.text? .config = none ∧ base = { cloud := .azure blank } ∨
        ∃ path text, invocation.text? .config = some path ∧ files path = .text text ∧
          Settings.ofText path text = .ok base := by
  rw [fileSettings]
  cases invocation.text? .config with
  | none => simp [eq_comm]
  | some path =>
    cases contents : files path with
    | text text =>
      cases read : Settings.ofText path text <;>
        simp [Settings.load, contents, read, Except.mapError]
    | _ => simp [Settings.load, contents, Except.mapError]

/-- A custom cloud comes from the file. -/
theorem holds_of_settings (accepted : invocation.settings files = .ok settings) :
    settings.cloud.Holds fun config => config.IsNormal ∧ config.Fits (Reader.deepest - 2) := by
  obtain ⟨base, cloud, reads, merges, rfl, _⟩ := settings_eq_ok.mp accepted
  obtain ⟨azure, _, rfl⟩ | ⟨factory, config, is, rfl, _⟩ := mergeCloud_eq_ok.mp merges
  · trivial
  · obtain ⟨_, rfl⟩ | ⟨path, text, _, _, read⟩ := fileSettings_eq_ok.mp reads
    · trivial
    · have kept := Settings.holds_of_ofText read
      exact kept

/-- Settings do not need the command line that gave them any more: they are as good as a
file. -/
structure Flattens (invocation : Invocation) (settings : Settings) : Prop where
  validate : settings.validate = .ok ()
  ports : invocation.verb = .prepare → settings.ports ≠ []
  /-- There is a text of them, if the numbers in the settings of a custom cloud are integers. -/
  writes : settings.cloud.Holds IsFractionless →
    IsPadded (Settings.codec.encode settings) (Settings.codec.encode settings).compress.toList
  /-- From any such text they are given again, by the same flags or by none. -/
  reads : ∀ {other : Invocation} {files : String → FileContents} {path text : String},
    invocation.Echoes other → other.text? .config = some path → files path = .text text →
      IsPadded (Settings.codec.encode settings) text.toList → other.settings files = .ok settings

theorem flattens_of_settings (accepted : invocation.settings files = .ok settings) :
    invocation.Flattens settings := by
  obtain ⟨_, _, _, _, _, valid, ported⟩ := settings_eq_ok.mp accepted
  refine ⟨valid, ported, Settings.isPadded_compress, ?_⟩
  intro other files' path text echoes configured contents isPadded
  have read : Settings.ofText path text = .ok settings :=
    Settings.ofText_of_isPadded (holds_of_settings accepted) isPadded
  have loaded : other.fileSettings files' = .ok settings :=
    fileSettings_eq_ok.mpr (.inr ⟨path, text, configured, contents, read⟩)
  exact echoes.settings_eq accepted loaded

/-! ## The result -/

/-- The settings that a command line gives are those of its file under its flags, and they
are as good as a file themselves. A timeout that is given without an interval cuts the
interval of the file to itself, and nothing is wrong with the operation then, whatever was
wrong with it in the file. -/
theorem settings_flatten (invocation : Invocation) (files : String → FileContents) :
    (∀ settings, invocation.settings files = .ok settings → invocation.Flattens settings ∧
      ∃ base, invocation.fileSettings files = .ok base ∧ invocation.Overlays base settings) ∧
    ∀ base timeout, invocation.fileSettings files = .ok base →
      invocation.number? .timeoutSecs = some timeout → invocation.number? .pollSecs = none →
      1 ≤ timeout → 1 ≤ base.operation.pollSecs →
        (invocation.mergeOperation base.operation).pollSecs = min timeout base.operation.pollSecs ∧
          (invocation.mergeOperation base.operation).validate = .ok () ∧
            ∀ cloud, invocation.mergeCloud base.cloud = .ok cloud → cloud.validate = .ok () →
              Port.flaw? (invocation.mergePorts base.ports) = none →
              (invocation.verb = .prepare → invocation.mergePorts base.ports ≠ []) →
                ∃ settings, invocation.settings files = .ok settings := by
  refine ⟨fun settings accepted => ⟨flattens_of_settings accepted, ?_⟩, ?_⟩
  · obtain ⟨base, cloud, reads, merges, rfl, _⟩ := settings_eq_ok.mp accepted
    exact ⟨base, reads, overlays_merged merges⟩
  · intro base timeout reads given unset some_time some_interval
    obtain ⟨cut, steady⟩ := validate_mergeOperation given unset some_time some_interval
    refine ⟨cut, steady, fun cloud merges valid unflawed ported => ?_⟩
    exact ⟨_, settings_eq_ok.mpr ⟨base, cloud, reads, merges, rfl,
      Settings.validate_eq_ok.mpr ⟨valid, steady, unflawed⟩, ported⟩⟩

namespace Sample

/-- The settings of a file whose interval is longer than its timeout. -/
def unsteady : Settings where
  cloud := .custom "ticket" (.object [("limits", .array [ofInt 3, ofInt (-4)]),
    ("queue", .string "NETOPS")])
  operation := { timeoutSecs := 30, pollSecs := 60 }

/-- What they come to with a shorter timeout and a port. -/
def flattened : Settings :=
  { unsteady with ports := [⟨4500, .udp⟩], operation := { timeoutSecs := 10, pollSecs := 10 } }

/-- Either of them, under its path. -/
def disk (path : String) : FileContents :=
  if path = "unsteady.json" then .text (Settings.codec.encode unsteady).compress
  else if path = "flattened.json" then .text (Settings.codec.encode flattened).compress
  else .missing

/-- A preparation with a file. -/
def preparing (path : String) (before after : Given) : Invocation where
  verb := .prepare
  before := { given := (.config, [.text path]) :: before }
  after := { given := after }

/-- The preparation that shortens the timeout. -/
def hurried (path : String) : Invocation :=
  preparing path [(.timeoutSecs, [.number 10])] [(.port, [.port ⟨4500, .udp⟩])]

end Sample

theorem settings_flatten_sample :
    (Sample.hurried "unsteady.json").settings Sample.disk = .ok Sample.flattened ∧
      (Sample.hurried "flattened.json").settings Sample.disk = .ok Sample.flattened ∧
      (Sample.preparing "flattened.json" [] []).settings Sample.disk = .ok Sample.flattened := by
  have whole : Sample.unsteady.cloud.Holds IsFractionless := by
    simp [Sample.unsteady, CloudSettings.Holds, IsFractionless, HaveFractionless,
      HasFractionless, AreFractionless, ofInt]
  have read : Settings.ofText "unsteady.json" (Settings.codec.encode Sample.unsteady).compress =
      .ok Sample.unsteady := by
    refine Settings.ofText_of_isPadded ⟨⟨?_, ?_⟩, ?_⟩ (Settings.isPadded_compress whole)
    · exact List.pairwise_pair.mpr (by decide)
    · simp [HaveNormal, HasNormal, IsNormal, AreNormal, ofInt]
    · simp [Fits, HaveFit, HasFit, AllFit, ofInt, Number.Fits]
      decide
  have reads : (Sample.hurried "unsteady.json").fileSettings Sample.disk = .ok Sample.unsteady :=
    fileSettings_eq_ok.mpr (.inr ⟨_, _, rfl, rfl, read⟩)
  obtain ⟨given, reduced⟩ := settings_flatten (Sample.hurried "unsteady.json") Sample.disk
  obtain ⟨-, -, some_settings⟩ := reduced Sample.unsteady 10 reads rfl rfl (by decide) (by decide)
  obtain ⟨settings, accepted⟩ := some_settings _ rfl rfl rfl (fun _ => by decide)
  obtain rfl : settings = Sample.flattened := by
    obtain ⟨base, cloud, reads', merges, rfl, -⟩ := settings_eq_ok.mp accepted
    obtain rfl := Except.ok.inj (reads.symm.trans reads')
    obtain rfl : Sample.unsteady.cloud = cloud := Except.ok.inj merges
    rfl
  obtain ⟨flattens, -⟩ := given _ accepted
  have isPadded := flattens.writes whole
  refine ⟨accepted, ?_, ?_⟩
  · exact flattens.reads ⟨rfl, fun flag other _ => .inr (by
      cases flag <;> first | rfl | exact absurd rfl other)⟩ rfl rfl isPadded
  · exact flattens.reads ⟨rfl, fun flag other _ => .inl (by
      cases flag <;> first | rfl | exact absurd rfl other)⟩ rfl rfl isPadded

end CommandLine.Invocation

end ClusterPorts
