import ClusterPorts.Proofs.Network.Conduct
import ClusterPorts.Proofs.Provision.History

/-!
# What the operations say and write

An operation writes back what it has read, changed in a few ways. `Upkeep` lists
them: a property of resources that they preserve holds of everything that is
written, if it holds of everything that is read. All names that an operation asks
for are among `Site.names`. What an operation says begins with a word, so it cannot
be taken for a line that begins with a bracket.
-/

namespace ClusterPorts

open Provision

/-- The text begins with something other than a bracket. -/
def Text.IsWorded (s : String) : Prop := ∃ c, s.toList.head? = some c ∧ c ≠ '['

theorem Text.IsWorded.append {s : String} (worded : IsWorded s) (rest : String) :
    IsWorded (s ++ rest) := by
  obtain ⟨c, head, apart⟩ := worded
  exact ⟨c, by simp [head], apart⟩

/-- What begins a line of a client that only says what it would do. -/
def rehearsalMark : String := "[DRY-RUN]"

/-- The note is a line that says what a client would do. -/
def Note.isRehearsal : Note → Bool
  | .log entry => Text.startsWith entry.message rehearsalMark
  | .progress _ => false

/-- The note is not a line that says what a client would do. -/
def Quiet (note : Note) : Prop := note.isRehearsal = false

theorem quiet_of_isWorded {entry : LogEntry} (worded : Text.IsWorded entry.message) :
    Quiet (.log entry) := by
  obtain ⟨c, head, apart⟩ := worded
  show Text.startsWith entry.message rehearsalMark = false
  rw [Text.startsWith]
  cases own : entry.message.toList with
  | nil => rfl
  | cons first rest =>
      obtain rfl : first = c := by simpa [own] using head
      simp [rehearsalMark, List.isPrefixOf, apart.symm]

/-! ## What operations make of resources -/

/-- A property of names, and one of each kind of resource. -/
structure Traits where
  name : String → Prop
  group : SecurityGroup → Prop
  subnet : Subnet → Prop
  balancer : LoadBalancer → Prop

/-- The names of a cluster's resources, and of the network that its subnets are in. -/
def Site.names (site : Site) : List String :=
  [site.external, site.balancer, site.group, site.network] ++ site.subnets

/-- The names have the property, and the operations preserve those of resources. -/
structure Site.Upkeep (site : Site) (traits : Traits) : Prop where
  named : ∀ name ∈ site.names, traits.name name
  fresh : ∀ name ∈ [site.external, site.group],
    traits.group { name, location := some site.cluster.region }
  extended : ∀ {stem group ports added}, traits.group group →
    Rules.additions stem group ports = .ok added → traits.group (extended group added)
  stripped : ∀ {group}, traits.group group →
    traits.group { group with
      rules := Rules.others Rules.internalStem group.rules, subnets := none }
  joined : ∀ {subnet}, traits.subnet subnet →
    traits.subnet { subnet with group := some (.ofId site.internalId) }
  left : ∀ {subnet}, traits.subnet subnet → traits.subnet { subnet with group := none }
  forwarding : ∀ {balancer name frontendId poolId ports rules}, traits.balancer balancer →
    addForwarding name frontendId poolId balancer.rules ports = .ok rules →
    traits.balancer { balancer with rules }
  unforwarded : ∀ {balancer}, traits.balancer balancer → traits.balancer (unforwarded balancer)

namespace Traits

variable (traits : Traits)

/-- What is asked for and what is written has the properties. -/
def Asked : Request → Prop
  | .readGroup name => traits.name name
  | .writeGroup group => traits.group group
  | .deleteGroup name => traits.name name
  | .readSubnet network name => traits.name network ∧ traits.name name
  | .writeSubnet network subnet => traits.name network ∧ traits.subnet subnet
  | .readBalancer name => traits.name name
  | .writeBalancer balancer => traits.balancer balancer

/-- What is answered has the properties. -/
def Answered : (request : Request) → request.Answer → Prop
  | .readGroup _, found => ∀ group, found = some group → traits.group group
  | .readSubnet _ _, subnet => traits.subnet subnet
  | .readBalancer _, found => ∀ balancer, found = some balancer → traits.balancer balancer
  | .writeGroup _, _ => True
  | .deleteGroup _, _ => True
  | .writeSubnet _ _, _ => True
  | .writeBalancer _, _ => True

/-- What is written has the properties that what is read has, and nothing is said
that only a client in rehearsal says. -/
def bounds : Bounds := ⟨Quiet, traits.Asked, traits.Answered⟩

/-- What holds of all resources. -/
def any : Traits := ⟨fun _ => True, fun _ => True, fun _ => True, fun _ => True⟩

theorem answered_any {request : Request} (answer : request.Answer) :
    any.Answered request answer := by
  cases request with
  | readGroup _ => exact fun _ _ => trivial
  | readBalancer _ => exact fun _ _ => trivial
  | readSubnet _ _ => trivial
  | writeGroup _ => trivial
  | deleteGroup _ => trivial
  | writeSubnet _ _ => trivial
  | writeBalancer _ => trivial

theorem upkeep_any (site : Site) : site.Upkeep any where
  named _ _ := trivial
  fresh _ _ := trivial
  extended _ _ := trivial
  stripped _ := trivial
  joined _ := trivial
  left _ := trivial
  forwarding _ _ := trivial
  unforwarded _ := trivial

end Traits

namespace Site.Upkeep

variable {site : Site} {traits : Traits} (upkeep : site.Upkeep traits)

include upkeep

theorem named_external : traits.name site.external := upkeep.named _ (by simp [names])

theorem named_balancer : traits.name site.balancer := upkeep.named _ (by simp [names])

theorem named_group : traits.name site.group := upkeep.named _ (by simp [names])

theorem named_network : traits.name site.network := upkeep.named _ (by simp [names])

theorem named_subnet : ∀ name ∈ site.subnets, traits.name name := fun name member =>
  upkeep.named name (List.mem_append_right _ member)

end Site.Upkeep

namespace Provision

variable {site : Site} {traits : Traits} {ports : List Port}

/-! ## Preparations -/

theorem confined_addRules {stem name : String} {isNew : Bool} {group : SecurityGroup}
    (upkeep : site.Upkeep traits) (own : traits.group group) :
    Confined traits.bounds (addRules stem name isNew group ports) fun _ => True := by
  unfold addRules
  cases lacking : Rules.additions stem group ports with
  | error fault => trivial
  | ok added =>
      dsimp only
      split
      · exact ⟨quiet_of_isWorded (.append (.append ⟨'S', rfl, by decide⟩ _) _), trivial⟩
      · rw [confined_bind, confined_log, confined_request]
        exact ⟨quiet_of_isWorded (.append (.append (.append ⟨'W', rfl, by decide⟩ _) _) _),
          upkeep.extended own lacking, fun _ _ => trivial⟩

theorem confined_ensureGroup {stem name : String} (upkeep : site.Upkeep traits)
    (member : name ∈ [site.external, site.group]) :
    Confined traits.bounds (ensureGroup name site.cluster.region stem ports)
      fun _ => True := by
  have named : traits.name name := by
    rcases List.mem_pair.mp member with rfl | rfl
    · exact upkeep.named_external
    · exact upkeep.named_group
  rw [ensureGroup, confined_bind, confined_request]
  refine ⟨named, fun answer told => ?_⟩
  cases answer with
  | some found => exact confined_addRules upkeep (told found rfl)
  | none =>
      simp only [confined_bind, confined_log]
      exact ⟨quiet_of_isWorded (.append (.append ⟨'S', rfl, by decide⟩ _) _),
        confined_addRules upkeep (upkeep.fresh name member)⟩

theorem confined_openForwarding (upkeep : site.Upkeep traits) {frontend : String} :
    Confined traits.bounds (openForwarding site.cluster frontend ports) fun _ => True := by
  rw [openForwarding, confined_bind, confined_request]
  refine ⟨upkeep.named_balancer, fun answer told => ?_⟩
  cases answer with
  | none => trivial
  | some found =>
      dsimp only
      split
      · trivial
      · split
        · trivial
        · next rules ok =>
          unfold writeForwarding
          dsimp only
          split
          · exact ⟨quiet_of_isWorded (.append (.append ⟨'L', rfl, by decide⟩ _) _), trivial⟩
          · rw [confined_bind, confined_log, confined_request]
            exact ⟨quiet_of_isWorded (.append (.append (.append ⟨'A', rfl, by decide⟩ _) _) _),
              upkeep.forwarding (told found rfl) ok, fun _ _ => trivial⟩

theorem confined_unassociated {names : List String} (upkeep : site.Upkeep traits)
    (named : ∀ name ∈ names, traits.name name) :
    Confined traits.bounds (unassociated site names)
      fun pending => ∀ subnet ∈ pending, traits.subnet subnet := by
  induction names with
  | nil => exact nofun
  | cons name rest ih =>
      obtain ⟨head, named⟩ := List.forall_mem_cons.mp named
      rw [unassociated, confined_bind, confined_request]
      refine ⟨⟨upkeep.named_network, head⟩, fun read told => ?_⟩
      split
      · rw [confined_bind, confined_log]
        exact ⟨quiet_of_isWorded (.append (.append (.append ⟨'S', rfl, by decide⟩ _) _) _),
          ih named⟩
      · split
        · trivial
        · exact (ih named).bind fun pending own => List.forall_mem_cons.mpr ⟨told, own⟩

theorem confined_associate (upkeep : site.Upkeep traits) {pending : List Subnet}
    (own : ∀ subnet ∈ pending, traits.subnet subnet) :
    Confined traits.bounds (associate site pending) fun _ => True := by
  induction pending with
  | nil => trivial
  | cons read rest ih =>
      obtain ⟨head, own⟩ := List.forall_mem_cons.mp own
      simp only [associate, confined_bind, confined_log]
      exact ⟨quiet_of_isWorded (.append (.append (.append ⟨'A', rfl, by decide⟩ _) _) _),
        confined_request.mpr ⟨⟨upkeep.named_network, upkeep.joined head⟩, fun _ _ => ih own⟩⟩

theorem confined_check :
    Confined traits.bounds (check ports) fun _ => True := by
  unfold check
  split <;> trivial

theorem confined_openInternal (upkeep : site.Upkeep traits) :
    Confined traits.bounds (openInternal site ports) fun _ => True := by
  have member : site.group ∈ [site.external, site.group] :=
    List.mem_cons_of_mem _ List.mem_cons_self
  refine (confined_ensureGroup upkeep member).bind fun _ _ => ?_
  exact (confined_unassociated upkeep upkeep.named_subnet).bind fun _ own =>
    confined_associate upkeep own

theorem confined_prepare (upkeep : site.Upkeep traits) :
    Confined traits.bounds (prepare site ports) fun _ => True := by
  have failures (message : String) : Quiet (.progress (.failed message)) := rfl
  rw [prepare, confined_bind, confined_report]
  refine ⟨rfl, (confined_check.reported failures).bind fun _ _ => ?_⟩
  refine ((confined_ensureGroup upkeep List.mem_cons_self).reported failures).bind fun _ _ => ?_
  refine ((confined_openForwarding upkeep).reported failures).bind fun _ _ => ?_
  exact ((confined_openInternal upkeep).reported failures).bind fun _ _ => ⟨rfl, trivial⟩

/-! ## Cleanups -/

theorem confined_closeGateway (upkeep : site.Upkeep traits) :
    Confined traits.bounds (closeGateway site.cluster) fun _ => True := by
  rw [closeGateway, confined_bind, confined_request]
  refine ⟨upkeep.named_external, fun answer _ => ?_⟩
  cases answer with
  | none => exact ⟨quiet_of_isWorded (.append (.append ⟨'S', rfl, by decide⟩ _) _), trivial⟩
  | some found => exact confined_request.mpr ⟨upkeep.named_external, fun _ _ => trivial⟩

theorem confined_closeForwarding (upkeep : site.Upkeep traits) :
    Confined traits.bounds (closeForwarding site.cluster) fun _ => True := by
  rw [closeForwarding, confined_bind, confined_request]
  refine ⟨upkeep.named_balancer, fun answer told => ?_⟩
  cases answer with
  | none => exact ⟨quiet_of_isWorded (.append (.append ⟨'L', rfl, by decide⟩ _) _), trivial⟩
  | some found =>
      dsimp only
      split
      · exact ⟨quiet_of_isWorded (.append (.append ⟨'L', rfl, by decide⟩ _) _), trivial⟩
      · rw [confined_bind, confined_log, confined_request]
        exact ⟨quiet_of_isWorded (.append (.append (.append ⟨'R', rfl, by decide⟩ _) _) _),
          upkeep.unforwarded (told found rfl), fun _ _ => trivial⟩

theorem confined_dissociate (upkeep : site.Upkeep traits) {names : List String}
    (named : ∀ name ∈ names, traits.name name) :
    Confined traits.bounds (dissociate site names) fun _ => True := by
  induction names with
  | nil => trivial
  | cons name rest ih =>
      obtain ⟨head, named⟩ := List.forall_mem_cons.mp named
      rw [dissociate, confined_bind]
      refine confined_find ⟨upkeep.named_network, head⟩ (fun read told => ?_) (ih named)
      dsimp only
      split
      · simp only [confined_bind, confined_log]
        exact ⟨quiet_of_isWorded (.append (.append (.append ⟨'D', rfl, by decide⟩ _) _) _),
          confined_request.mpr ⟨⟨upkeep.named_network, upkeep.left told⟩, fun _ _ => ih named⟩⟩
      · exact ih named

theorem confined_closeInternal (upkeep : site.Upkeep traits) :
    Confined traits.bounds (closeInternal site) fun _ => True := by
  rw [closeInternal, confined_bind, confined_request]
  refine ⟨upkeep.named_group, fun answer told => ?_⟩
  cases answer with
  | none => exact ⟨quiet_of_isWorded (.append (.append ⟨'S', rfl, by decide⟩ _) _), trivial⟩
  | some found =>
      dsimp only
      split
      · split
        · rw [confined_bind, confined_log, confined_request]
          exact ⟨quiet_of_isWorded (.append (.append (.append ⟨'R', rfl, by decide⟩ _) _) _),
            upkeep.stripped (told found rfl), fun _ _ => trivial⟩
        · exact ⟨quiet_of_isWorded (.append (.append ⟨'S', rfl, by decide⟩ _) _), trivial⟩
      · exact (confined_dissociate upkeep upkeep.named_subnet).bind fun _ _ =>
          confined_request.mpr ⟨upkeep.named_group, fun _ _ => trivial⟩

theorem confined_cleanup (upkeep : site.Upkeep traits) :
    Confined traits.bounds (cleanup site) fun _ => True := by
  have failures (message : String) : Quiet (.progress (.failed message)) := rfl
  rw [cleanup, confined_bind, confined_report]
  refine ⟨rfl, ((confined_closeGateway upkeep).reported failures).bind fun _ _ => ?_⟩
  refine ((confined_closeForwarding upkeep).reported failures).bind fun _ _ => ?_
  exact ((confined_closeInternal upkeep).reported failures).bind fun _ _ => ⟨rfl, trivial⟩

end Provision

/-- Every operation upholds what its changes preserve. -/
theorem Operation.confined {site : Site} {traits : Traits} (upkeep : site.Upkeep traits)
    (operation : Operation) :
    Confined traits.bounds (operation.plan site) fun _ => True := by
  cases operation with
  | prepare ports => exact Provision.confined_prepare upkeep
  | cleanup => exact Provision.confined_cleanup upkeep

end ClusterPorts
