import ClusterPorts.Proofs.Json.Rewriting
import ClusterPorts.Proofs.Network.Codec

/-!
# Network resources lose nothing

What becomes of the document of a network resource that is read and written
again. Each function below lists the fields of one object with their values
afterwards: an optional field that is `null` is left out, except for the security
group of a subnet, the properties and the lists that are absent are filled in, and
a variant is written as a string. All other members of every object stay as they
are (`documents_kept`).
-/

namespace ClusterPorts

open Json Codec Record

/-- A document that is read is written so that it is read as the same value, and so
that it is the document rewritten; and what is read is valid. -/
def Json.Codec.Keeps {α : Type} (codec : Codec α) (Valid : α → Prop) (rewrite : Json → Json) :
    Prop :=
  ∀ {document : Json} {a : α}, document.IsNormal → codec.decode document.node = .ok a →
    codec.decode (codec.encode a).node = .ok a ∧ codec.encode a = rewrite document ∧ Valid a

theorem Json.Codec.Lawful.keeps {α : Type} {codec : Codec α} {Valid : α → Prop}
    {rewrite : Json → Json} (lawful : codec.Lawful Valid) (rewrites : codec.Rewrites rewrite) :
    codec.Keeps Valid rewrite := fun normal read =>
  ⟨lawful.lossless (lawful.sound read), rewrites normal read, lawful.sound read⟩

/-! ## References, parts and variants -/

def Reference.rewritten : Json → Json := rewriteObject [.required "id"]

theorem Reference.rewrites_codec : codec.Rewrites rewritten :=
  (Rewrites.required rewrites_string).opened (by decide) fun _ => rfl

def Component.rewritten : Json → Json := rewriteObject [.omittable "id", .required "name"]

theorem Component.rewrites_codec : codec.Rewrites rewritten :=
  (Rewrites.both (.omittable rewrites_string) (.required rewrites_string)).opened (by decide)
    fun _ => rfl

theorem Access.rewrites_codec : codec.Rewrites rewriteVariant :=
  rewrites_variant (by decide)

theorem Direction.rewrites_codec : codec.Rewrites rewriteVariant :=
  rewrites_variant (by decide)

theorem Transport.rewrites_codec : codec.Rewrites rewriteVariant :=
  rewrites_variant (by decide)

/-! ## Security groups -/

namespace SecurityRule

def Properties.rewritten : Json → Json :=
  rewriteObject [.required "protocol", .omittable "sourcePortRange",
    .omittable "destinationPortRange", .omittable "sourceAddressPrefix",
    .omittable "destinationAddressPrefix", .required "access" rewriteVariant,
    .required "priority", .required "direction" rewriteVariant]

theorem Properties.rewrites_codec : codec.Rewrites rewritten :=
  (Rewrites.both (.required rewrites_string) <|
    .both (.omittable rewrites_string) <|
    .both (.omittable rewrites_string) <|
    .both (.omittable rewrites_string) <|
    .both (.omittable rewrites_string) <|
    .both (.required Access.rewrites_codec) <|
    .both (.required rewrites_int32) (.required Direction.rewrites_codec)).opened (by decide)
    fun _ => rfl

def rewritten : Json → Json :=
  rewriteObject [.omittable "id", .required "name",
    .required "properties" Properties.rewritten]

theorem rewrites_codec : codec.Rewrites rewritten :=
  (Rewrites.both (.omittable rewrites_string) <|
    .both (.required rewrites_string) (.required Properties.rewrites_codec)).opened (by decide)
    fun _ => rfl

end SecurityRule

namespace SecurityGroup

def Properties.rewritten : Json → Json :=
  rewriteObject [.defaulted "securityRules" (.array []) (rewriteItems SecurityRule.rewritten),
    .omittable "subnets" (rewriteItems Reference.rewritten)]

theorem Properties.rewrites_codec : codec.Rewrites rewritten :=
  (Rewrites.both (.defaulted (rewrites_list SecurityRule.rewrites_codec) rfl)
    (.omittable (rewrites_list Reference.rewrites_codec))).opened (by decide) fun _ => rfl

def rewritten : Json → Json :=
  rewriteObject [.omittable "id", .required "name", .omittable "location",
    .defaulted "properties" (.object [("securityRules", .array [])]) Properties.rewritten]

theorem rewrites_codec : codec.Rewrites rewritten :=
  (Rewrites.both (.omittable rewrites_string) <|
    .both (.required rewrites_string) <|
    .both (.omittable rewrites_string) (.defaulted Properties.rewrites_codec rfl)).opened
    (by decide) fun _ => rfl

end SecurityGroup

/-! ## Subnets -/

namespace Subnet

def Properties.rewritten : Json → Json :=
  rewriteObject [.omittable "addressPrefix",
    .nullable "networkSecurityGroup" Reference.rewritten]

theorem Properties.rewrites_codec : codec.Rewrites rewritten :=
  (Rewrites.both (.omittable rewrites_string) (.nullable Reference.rewrites_codec)).opened
    (by decide) fun _ => rfl

def rewritten : Json → Json :=
  rewriteObject [.omittable "id", .required "name",
    .defaulted "properties" (.object [("networkSecurityGroup", .null)]) Properties.rewritten]

theorem rewrites_codec : codec.Rewrites rewritten :=
  (Rewrites.both (.omittable rewrites_string) <|
    .both (.required rewrites_string) (.defaulted Properties.rewrites_codec rfl)).opened
    (by decide) fun _ => rfl

end Subnet

/-! ## Load balancers -/

namespace ForwardingRule

def Properties.rewritten : Json → Json :=
  rewriteObject [.omittable "frontendIPConfiguration" Reference.rewritten,
    .omittable "backendAddressPool" Reference.rewritten, .required "protocol" rewriteVariant,
    .required "frontendPort", .omittable "backendPort", .omittable "enableFloatingIP",
    .omittable "idleTimeoutInMinutes", .omittable "disableOutboundSnat"]

theorem Properties.rewrites_codec : codec.Rewrites rewritten :=
  (Rewrites.both (.omittable Reference.rewrites_codec) <|
    .both (.omittable Reference.rewrites_codec) <|
    .both (.required Transport.rewrites_codec) <|
    .both (.required rewrites_uint16) <|
    .both (.omittable rewrites_uint16) <|
    .both (.omittable rewrites_bool) <|
    .both (.omittable rewrites_uint32) (.omittable rewrites_bool)).opened (by decide)
    fun _ => rfl

def rewritten : Json → Json :=
  rewriteObject [.omittable "id", .required "name",
    .required "properties" Properties.rewritten]

theorem rewrites_codec : codec.Rewrites rewritten :=
  (Rewrites.both (.omittable rewrites_string) <|
    .both (.required rewrites_string) (.required Properties.rewrites_codec)).opened (by decide)
    fun _ => rfl

end ForwardingRule

namespace LoadBalancer

def Properties.rewritten : Json → Json :=
  rewriteObject [
    .defaulted "frontendIPConfigurations" (.array []) (rewriteItems Component.rewritten),
    .defaulted "backendAddressPools" (.array []) (rewriteItems Component.rewritten),
    .defaulted "loadBalancingRules" (.array []) (rewriteItems ForwardingRule.rewritten)]

theorem Properties.rewrites_codec : codec.Rewrites rewritten :=
  (Rewrites.both (.defaulted (rewrites_list Component.rewrites_codec) rfl) <|
    .both (.defaulted (rewrites_list Component.rewrites_codec) rfl)
      (.defaulted (rewrites_list ForwardingRule.rewrites_codec) rfl)).opened (by decide)
    fun _ => rfl

def rewritten : Json → Json :=
  rewriteObject [.omittable "id", .required "name", .omittable "location",
    .defaulted "properties" (.object [("backendAddressPools", .array []),
      ("frontendIPConfigurations", .array []), ("loadBalancingRules", .array [])])
      Properties.rewritten]

theorem rewrites_codec : codec.Rewrites rewritten :=
  (Rewrites.both (.omittable rewrites_string) <|
    .both (.required rewrites_string) <|
    .both (.omittable rewrites_string) (.defaulted Properties.rewrites_codec rfl)).opened
    (by decide) fun _ => rfl

end LoadBalancer

/-! ## All resources -/

/-- The document of a network resource that is read and written again is read as the
same resource, and is the document with nothing changed but what its function says;
whatever is not a field of an object, at any depth, is left alone, and no field is
kept among what is not one. -/
theorem documents_kept :
    SecurityGroup.codec.Keeps SecurityGroup.Valid SecurityGroup.rewritten ∧
    SecurityRule.codec.Keeps SecurityRule.Valid SecurityRule.rewritten ∧
    Subnet.codec.Keeps Subnet.Valid Subnet.rewritten ∧
    LoadBalancer.codec.Keeps LoadBalancer.Valid LoadBalancer.rewritten ∧
    ForwardingRule.codec.Keeps ForwardingRule.Valid ForwardingRule.rewritten ∧
    Reference.codec.Keeps Reference.Valid Reference.rewritten ∧
    Component.codec.Keeps Component.Valid Component.rewritten ∧
    ∀ (fields : List Field) (key : String), key ∉ fields.map Field.key →
      ∀ document : Json, (rewriteObject fields document).member? key = document.member? key := by
  refine ⟨?_, ?_, ?_, ?_, ?_, ?_, ?_, fun fields key other => member?_rewriteObject other⟩
  · exact SecurityGroup.lawful_codec.keeps SecurityGroup.rewrites_codec
  · exact SecurityRule.lawful_codec.keeps SecurityRule.rewrites_codec
  · exact Subnet.lawful_codec.keeps Subnet.rewrites_codec
  · exact LoadBalancer.lawful_codec.keeps LoadBalancer.rewrites_codec
  · exact ForwardingRule.lawful_codec.keeps ForwardingRule.rewrites_codec
  · exact Reference.lawful_codec.keeps Reference.rewrites_codec
  · exact Component.lawful_codec.keeps Component.rewrites_codec

/-- A group with an id that is `null`, access as an object and members of its own. -/
def Sample.document : Json :=
  .object [("etag", .string "e"), ("id", .null), ("name", .string "nodes-nsg"),
    ("properties", .object [("flow", .bool true), ("securityRules", .array [
      .object [("name", .string "ssh"), ("properties", .object [
        ("access", .object [("Allow", .null)]), ("direction", .string "Inbound"),
        ("hits", .ofNat 3), ("priority", .ofNat 100), ("protocol", .string "*"),
        ("sourcePortRange", .null)])]])])]

theorem documents_kept_sample : Sample.document.IsNormal ∧
    ∃ group : SecurityGroup, SecurityGroup.codec.decode Sample.document.node = .ok group ∧
      SecurityGroup.codec.decode (SecurityGroup.codec.encode group).node = .ok group ∧
      SecurityGroup.codec.encode group =
        .object [("etag", .string "e"), ("name", .string "nodes-nsg"),
          ("properties", .object [("flow", .bool true), ("securityRules", .array [
            .object [("name", .string "ssh"), ("properties", .object [
              ("access", .string "Allow"), ("direction", .string "Inbound"), ("hits", .ofNat 3),
              ("priority", .ofNat 100), ("protocol", .string "*")])]])])] ∧
      group.Valid := by
  have normal : Sample.document.IsNormal := isNormal_of_keep Sample.document.node rfl
  obtain ⟨group, read⟩ : ∃ group : SecurityGroup,
      SecurityGroup.codec.decode Sample.document.node = .ok group := ⟨_, rfl⟩
  obtain ⟨lossless, rewritten, valid⟩ := documents_kept.1 normal read
  exact ⟨normal, group, read, lossless, rewritten.trans rfl, valid⟩

end ClusterPorts
