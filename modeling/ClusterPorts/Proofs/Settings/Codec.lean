import ClusterPorts.Proofs.Json.Descent
import ClusterPorts.Proofs.Json.Texts
import ClusterPorts.Settings.Codec

/-!
# Settings are read as they were written

Settings that are written into a file are read back from it, whatever the white space and
the order of the fields, if all of them can be kept. What the settings of a custom cloud
hold is known to nobody; it can be kept if it was read from a file before
(`Settings.holds_of_ofText`).
-/

namespace ClusterPorts

open Json Codec Record

/-! ## Heights -/

namespace Json

/-- A kind of values at each height: values without parts are of it, and so are arrays and
objects one level up from their parts. -/
structure Layered (Kind : Nat → Json → Prop) : Prop where
  null : ∀ room, Kind room .null
  bool : ∀ room b, Kind room (.bool b)
  string : ∀ room s, Kind room (.string s)
  integer : ∀ room n, (Number.integer n).Fits → Kind room (.number (.integer n))
  array : ∀ {room items}, (∀ item ∈ items, Kind room item) → Kind (room + 1) (.array items)
  object : ∀ {room members}, (∀ member ∈ members, Kind room member.2) →
    Kind (room + 1) (.object members)

theorem layered_fits : Layered fun room value => value.Fits room where
  null _ := trivial
  bool _ _ := trivial
  string _ _ := trivial
  integer _ _ fits := fits
  array fits := ⟨Nat.succ_pos _, allFit_iff.mpr fits⟩
  object fits := ⟨Nat.succ_pos _, haveFit_iff.mpr fits⟩

theorem layered_isFractionless : Layered fun _ value => value.IsFractionless where
  null _ := trivial
  bool _ _ := trivial
  string _ _ := trivial
  integer _ _ _ := trivial
  array whole := areFractionless_iff.mpr whole
  object whole := haveFractionless_iff.mpr whole

end Json

/-! ## What is written is read -/

theorem Protocol.recalls_codec : codec.Recalls fun _ => True :=
  recalls_variant fun protocol => by cases protocol <;> rfl

theorem Port.recalls_codec : codec.Recalls fun _ => True ∧ True :=
  Recalls.closed (.both (.required recalls_uint16) (.required Protocol.recalls_codec) (by decide))
    fun _ => rfl

theorem OperationSettings.recalls_codec : codec.Recalls fun _ => True ∧ True ∧ True :=
  Recalls.closed
    (.both (.defaulted recalls_uint64)
      (.both (.defaulted recalls_uint64) (.defaulted recalls_bool) (by decide)) (by decide))
    fun _ => rfl

/-- Every text may stand in the fields of a cluster on Azure. -/
theorem AzureSettings.recalls_fields : ∃ Valid, fields.Recalls Valid ∧ ∀ a, Valid a := by
  have text {key : String} : (Record.required key .string).Recalls fun _ => True :=
    .required recalls_string
  have text? {key : String} :
      (Record.nullable key .string).Recalls fun value => ∀ s ∈ value, True :=
    .nullable recalls_string nofun
  refine ⟨_, .both text (.both text (.both text (.both text (.both text? (.both text?
    (.both text? (.both text? (.both text? text? ?_) ?_) ?_) ?_) ?_) ?_) ?_) ?_) ?_, ?_⟩
  all_goals first | decide | simp

namespace AzureSettings

variable {Kind : Json → Prop}

/-- What is written of a cluster on Azure is text or nothing. -/
theorem writes_fields (azure : AzureSettings) (null : Kind .null) (string : ∀ s, Kind (.string s)) :
    fields.Writes Kind
      (azure.subscriptionId, azure.infraId, azure.region, azure.resourceGroup, azure.tenantId,
        azure.clientId, azure.clientSecret, azure.accessToken, azure.endpoint,
        azure.authorityHost) := by
  have text? (key : String) (s : Option String) :
      (Record.nullable key Codec.string).Writes Kind s := by
    cases s with
    | none => exact null
    | some s => exact string s
  exact ⟨string _, string _, string _, string _, text? _ _, text? _ _, text? _ _, text? _ _,
    text? _ _, text? _ _⟩

end AzureSettings

namespace CloudSettings

variable {Kind : Json → Prop}

/-- The settings of a custom cloud are of some kind. -/
def Holds (Kind : Json → Prop) : CloudSettings → Prop
  | .azure _ => True
  | .custom _ config => Kind config

theorem Holds.imp {Other : Json → Prop} (imp : ∀ value, Kind value → Other value) :
    {cloud : CloudSettings} → cloud.Holds Kind → cloud.Holds Other
  | .azure _, _ => trivial
  | .custom _ config, holds => imp config holds

theorem writes_customFields {factory : String} {config : Json} (string : ∀ s, Kind (.string s))
    (holds : Kind config) : customFields.Writes Kind (factory, config) :=
  ⟨string factory, holds⟩

/-- The members of a cloud's settings are texts, beside the settings of a custom cloud. -/
theorem exists_encode_eq {cloud : CloudSettings} (holds : cloud.Holds Kind) (null : Kind .null)
    (string : ∀ s, Kind (.string s)) :
    ∃ members, codec.encode cloud = .object members ∧ ∀ member ∈ members, Kind member.2 := by
  have tagged (name : String) : ∀ member ∈ [("type", Json.string name)], Kind member.2 := by
    simpa using string name
  cases cloud with
  | azure settings =>
      exact ⟨_, rfl, (settings.writes_fields null string).forall_mem (tagged _)⟩
  | custom factory config =>
      exact ⟨_, rfl, (writes_customFields string holds).forall_mem (tagged _)⟩

theorem recalls_customFields : customFields.Recalls fun pair => True ∧ IsNormal pair.2 :=
  .both (.required recalls_string) (.required recalls_json) (by decide)

/-- The settings of a cloud are read back, if those of a custom cloud are kept as they are. -/
theorem recalls_codec : codec.Recalls (Holds IsNormal) := by
  intro cloud node normal spells
  let variants : List (String × (Node → Except Problem CloudSettings)) :=
    [("azure", fun node => .azure <$> AzureSettings.decode node), ("custom", decodeCustom)]
  cases cloud with
  | azure settings =>
      have named : variants.find? (·.1 = "azure") = some ("azure", _) := rfl
      obtain ⟨Valid, recalls, valid⟩ := AzureSettings.recalls_fields
      obtain ⟨rest, decoded, reads⟩ := Tagged.exists_decode_eq named recalls (valid _)
        (settings.writes_fields trivial fun _ => trivial) (by decide) spells
        "internally tagged enum CloudConfig"
      refine reads.trans ?_
      rw [AzureSettings.decode, decoded]
      rfl
  | custom factory config =>
      have named : variants.find? (·.1 = "custom") = some ("custom", _) := rfl
      obtain ⟨rest, decoded, reads⟩ := Tagged.exists_decode_eq named recalls_customFields
        (a := (factory, config)) ⟨trivial, normal⟩ (writes_customFields (fun _ => trivial) normal)
        (by decide) spells "internally tagged enum CloudConfig"
      refine reads.trans ?_
      rw [decodeCustom, decoded]
      rfl

/-- The settings of a custom cloud that were read are kept as they are, and go one level
less deep than what they were read from. -/
theorem holds_of_decode {cloud : CloudSettings} {node : Node} {room : Nat}
    (fits : node.Fits (room + 1)) (read : codec.decode node = .ok cloud) :
    cloud.Holds fun config => config.IsNormal ∧ config.Fits room := by
  obtain ⟨name, variant, rest, member, parts, own⟩ :=
    Tagged.exists_of_decode (Tagged.kept_fits room) (node.parts_fits fits) read
  simp only [List.mem_cons, List.not_mem_nil, or_false, Prod.mk.injEq] at member
  rcases member with ⟨rfl, rfl⟩ | ⟨rfl, rfl⟩
  · obtain ⟨azure, _, rfl⟩ := exists_of_map_eq_ok own
    trivial
  · obtain ⟨⟨factory, config⟩, decoded, rfl⟩ := exists_of_map_eq_ok (β := CloudSettings) own
    obtain ⟨_, node, own_fits, kept⟩ := Tagged.readFrom_of_variant parts decoded
    exact ⟨isNormal_of_keep node kept, fits_of_keep node own_fits kept⟩

end CloudSettings

namespace Settings

variable {settings : Settings} {path text : String}

/-- Settings are read back, if those of a custom cloud are kept as they are. -/
theorem recalls_codec : codec.Recalls fun settings => settings.cloud.Holds IsNormal := by
  have recalls : ∃ Valid, codec.Recalls Valid ∧
      ∀ settings, settings.cloud.Holds IsNormal → Valid settings := by
    refine ⟨_, Recalls.closed (.both (.required CloudSettings.recalls_codec)
      (.both (.defaulted (recalls_list Port.recalls_codec))
        (.defaulted OperationSettings.recalls_codec) ?_) ?_) fun _ => rfl, ?_⟩
    · decide
    · decide
    · exact fun settings normal => ⟨normal, by simp, by simp⟩
  obtain ⟨Valid, recalls, valid⟩ := recalls
  exact fun {_ _} normal spells => recalls (valid _ normal) spells

theorem ofText_eq_ok :
    ofText path text = .ok settings ↔
      codec.decode (Document.ofText text).root = .ok settings ∧ (Document.ofText text).isAll := by
  rw [ofText, Document.read]
  cases codec.decode (Document.ofText text).root with
  | error problem => exact iff_of_false nofun nofun
  | ok found =>
      cases all : (Document.ofText text).isAll with
      | false => exact iff_of_false nofun nofun
      | true => simp [bind, Except.bind, pure, Except.pure]

/-! ## What was read can be written and read again -/

/-- The settings of a custom cloud that were read from a file are kept as they are, and go
two levels less deep than a file can. -/
theorem holds_of_ofText (read : ofText path text = .ok settings) :
    settings.cloud.Holds fun config => config.IsNormal ∧ config.Fits (Reader.deepest - 2) := by
  obtain ⟨root, -⟩ := ofText_eq_ok.mp read
  obtain ⟨⟨cloud, ports, operation⟩, decoded, rfl⟩ := exists_of_map_eq_ok root
  have parts := Node.parts_fits _ (Document.fits_root text)
  obtain ⟨⟨node, fits, own⟩, -⟩ := readFrom_of_decodeClosed parts decoded
  exact CloudSettings.holds_of_decode fits own

/-- What is written of settings goes two levels deeper than the settings of a custom cloud. -/
theorem encode_of_layered {Kind : Nat → Json → Prop} (layered : Layered Kind) {room : Nat}
    (holds : settings.cloud.Holds (Kind (room + 1))) : Kind (room + 3) (codec.encode settings) := by
  have written {α : Type} {record : Record α} {a : α} {room : Nat}
      (writes : record.Writes (Kind room) a) : Kind (room + 1) (.object (record.write a [])) :=
    layered.object (writes.forall_mem (List.forall_mem_nil _))
  have number {n : Nat} (small : n ≤ Text.largestWord) (room : Nat) : Kind room (ofNat n) :=
    layered.integer room n ⟨by omega, by omega⟩
  have secs (n : UInt64) (room : Nat) : Kind room (uint64.encode n) :=
    number (Nat.le_of_lt_succ n.toNat_lt) room
  have cloud : Kind (room + 2) (CloudSettings.codec.encode settings.cloud) := by
    obtain ⟨members, encode_eq, all⟩ := CloudSettings.exists_encode_eq holds (layered.null _)
      (layered.string _)
    rw [encode_eq]
    exact layered.object all
  have port (port : Port) : Kind (room + 1) (Port.codec.encode port) := by
    have small : port.number.toNat ≤ Text.largestWord :=
      Nat.le_of_lt (Nat.lt_of_lt_of_le port.number.toNat_lt (by decide))
    exact written ⟨number small room, layered.string room _⟩
  have ports : Kind (room + 2) ((Codec.list Port.codec).encode settings.ports) :=
    layered.array (List.forall_mem_map.mpr fun p _ => port p)
  have operation : Kind (room + 2) (OperationSettings.codec.encode settings.operation) :=
    written ⟨secs _ _, secs _ _, layered.bool _ _⟩
  exact written ⟨cloud, ports, operation⟩

/-- The text on one line of settings is one of the texts of what is written of them, if the
numbers in the settings of a custom cloud are integers. -/
theorem isPadded_compress (whole : settings.cloud.Holds IsFractionless) :
    IsPadded (codec.encode settings) (codec.encode settings).compress.toList :=
  have whole := @encode_of_layered settings _ layered_isFractionless 0 whole
  (isText_compress _ whole).padded

/-- Settings are read from any text of what is written of them. -/
theorem ofText_of_isPadded
    (holds : settings.cloud.Holds fun config => config.IsNormal ∧ config.Fits (Reader.deepest - 2))
    (isPadded : IsPadded (codec.encode settings) text.toList) :
    ofText path text = .ok settings := by
  have fits : (codec.encode settings).Fits Reader.deepest :=
    encode_of_layered layered_fits (holds.imp fun _ kept => kept.2)
  obtain ⟨node, document, spells⟩ := Document.ofText_of_isPadded isPadded fits
  refine ofText_eq_ok.mpr ?_
  rw [document]
  exact ⟨recalls_codec (holds.imp fun _ kept => kept.1) spells, rfl⟩

end Settings

end ClusterPorts
