import ClusterPorts.Proofs.Azure.Server
import ClusterPorts.Proofs.Network.Execution
import ClusterPorts.Proofs.Provision.Validity

/-!
# Documents that stand for resources

`Holds` says that the documents at the paths of a client are those of the resources
of a store. What the client reads is then what the store answers, and a write to
both keeps them together: `reply_eq` and `Holds.applied`. Each of the two is about
one place, since different resources have different paths.
-/

namespace ClusterPorts

namespace Json.Codec

variable {α : Type} {codec : Codec α} {Valid : α → Prop} {document : Option Json}

/-- A document, where there is one, is read as a value, where there is one. -/
def Reads (codec : Codec α) (document : Option Json) (value : Option α) : Prop :=
  document.map (fun document => codec.decode document.node) = value.map .ok

theorem reads_none : codec.Reads document none ↔ document = none := by
  cases document <;> simp [Reads]

theorem reads_some {value : α} : codec.Reads document (some value) ↔
    ∃ own, document = some own ∧ codec.decode own.node = .ok value := by
  cases document <;> simp [Reads]

theorem Reads.valid {value : α} (lawful : codec.Lawful Valid)
    (reads : codec.Reads document (some value)) : Valid value := by
  obtain ⟨own, -, read⟩ := reads_some.mp reads
  exact lawful.sound read

theorem Lawful.reads (lawful : codec.Lawful Valid) {value : α} (valid : Valid value) :
    codec.Reads (some (codec.encode value)) (some value) :=
  reads_some.mpr ⟨_, rfl, lawful.lossless valid⟩

end Json.Codec

/-- A subnet's virtual network and name can be told from its key. -/
theorem Request.subnetPath_inj {network name network' name' : String}
    (plain : Http.Url.IsPlain network) (plain' : Http.Url.IsPlain network') :
    subnetPath network name = subnetPath network' name' ↔ network = network' ∧ name = name' := by
  constructor
  · intro same
    have slash {s : String} (plain : Http.Url.IsPlain s) : '/' ∉ s.toList := fun member =>
      (plain.chars _ member).2.1 rfl
    have toList_eq (network name : String) :
        (subnetPath network name).toList = network.toList ++ '/' :: name.toList := by
      simp [subnetPath]
    have chars := congrArg String.toList same
    rw [toList_eq, toList_eq] at chars
    have pieces := congrArg (Text.pieces '/') chars
    rw [Text.pieces_append_cons (slash plain), Text.pieces_append_cons (slash plain')] at pieces
    obtain rfl := String.toList_inj.mp (List.cons.inj pieces).1
    exact ⟨rfl, String.toList_inj.mp (List.cons.inj (List.append_cancel_left chars)).2⟩
  · rintro ⟨rfl, rfl⟩
    rfl

/-- A document, where there is one, is that of the resource at a place in a store,
where there is one. -/
def Store.Shows (store : Store) (document : Option Json) : Place → Prop
  | .group name => SecurityGroup.codec.Reads document (store.groups.find? name)
  | .subnet network name =>
      Subnet.codec.Reads document (store.subnets.find? (Request.subnetPath network name))
  | .balancer name => LoadBalancer.codec.Reads document (store.balancers.find? name)

namespace Azure

/-- The documents at the paths of a client are those of the resources of a store. -/
def Holds (client : Client) (documents : Table Json) (store : Store) : Prop :=
  ∀ place : Place, place.IsPlain → store.Shows (documents.find? (client.pathTo place)) place

theorem holds_empty (client : Client) : Holds client ∅ {} := fun place _ => by
  cases place <;> rfl

section

variable {α : Type} {client : Client} {secret : String} {documents : Table Json} {store : Store}
  {request : Request}

/-! ## Reads -/

/-- A place is asked for by its names. -/
theorem isPlain_place (asked : Traits.plain.Asked request) : request.place.IsPlain := by
  cases request with
  | readGroup name => exact asked
  | writeGroup group => exact asked.2
  | deleteGroup name => exact asked
  | readSubnet network name => exact asked
  | writeSubnet network subnet => exact ⟨asked.1, asked.2.2⟩
  | readBalancer name => exact asked
  | writeBalancer balancer => exact asked.2

/-- What a client makes of a document that stands for a value. -/
theorem found_eq {path : String} {url : Http.Url} (reaches : client.Reaches secret path url)
    (what : String) {codec : Json.Codec α} {value : Option α}
    (reads : codec.Reads (documents.find? url.path) value) :
    client.found secret documents path what codec = .ok value := by
  have path_eq : (Client.bearing secret .get url .empty).url.path = url.path := rfl
  unfold Client.found
  simp only [reaches .get .empty, path_eq]
  cases value with
  | none => rw [Json.Codec.reads_none.mp reads]
  | some value =>
      obtain ⟨own, found, read⟩ := Json.Codec.reads_some.mp reads
      simp only [found, read]

/-- The client makes of the documents what the store answers. -/
theorem reply_eq (plain : client.IsPlain secret) (holds : Holds client documents store)
    (own : request.place.IsPlain) (reads : request.isWrite = false) :
    client.reply secret documents request = (store.answer client.groupPath request).1 := by
  obtain ⟨url, reaches, same⟩ := plain.reaches own
  have shows := holds _ own
  rw [← same] at shows
  cases request with
  | readGroup name => exact found_eq reaches _ shows
  | readBalancer name => exact found_eq reaches _ shows
  | readSubnet network name =>
      have found := found_eq reaches (Client.subnetTitle network name) shows
      simp only [Client.reply, Store.answer]
      rw [show client.found secret documents (client.subnetPath network name) _ _ = _ from found]
      cases store.subnets.find? (Request.subnetPath network name) <;> rfl
  | writeGroup _ => cases reads
  | deleteGroup _ => cases reads
  | writeSubnet _ _ => cases reads
  | writeBalancer _ => cases reads

/-! ## Writes -/

/-- A request leaves what is at other places. -/
theorem shows_answer_of_ne (groupId : String → String) {place : Place} {document : Option Json}
    (own : request.place.IsPlain) (own' : place.IsPlain) (apart : place ≠ request.place)
    (shows : store.Shows document place) :
    (store.answer groupId request).2.Shows document place := by
  cases request with
  | readGroup _ => exact shows
  | readBalancer _ => exact shows
  | readSubnet network name => rwa [Store.answer_readSubnet_snd]
  | writeGroup group =>
      cases place with
      | subnet _ _ => exact shows
      | balancer _ => exact shows
      | group name =>
          have other : name ≠ group.name := fun same => apart (congrArg Place.group same)
          simpa only [Store.Shows, Store.answer, Table.find?_insert, if_neg other] using shows
  | deleteGroup deleted =>
      cases place with
      | subnet _ _ => exact shows
      | balancer _ => exact shows
      | group name =>
          have other : name ≠ deleted := fun same => apart (congrArg Place.group same)
          simpa only [Store.Shows, Store.answer, Table.find?_erase, if_neg other] using shows
  | writeSubnet network' subnet =>
      cases place with
      | group _ => exact shows
      | balancer _ => exact shows
      | subnet network name =>
          have other : Request.subnetPath network name ≠
              Request.subnetPath network' subnet.name := fun same => by
            obtain ⟨rfl, rfl⟩ := (Request.subnetPath_inj own'.1 own.1).mp same
            exact apart rfl
          simpa only [Store.Shows, Store.answer, Table.find?_insert, if_neg other] using shows
  | writeBalancer balancer =>
      cases place with
      | group _ => exact shows
      | subnet _ _ => exact shows
      | balancer name =>
          have other : name ≠ balancer.name := fun same => apart (congrArg Place.balancer same)
          simpa only [Store.Shows, Store.answer, Table.find?_insert, if_neg other] using shows

/-- What a write puts into a store is what it puts into a document. -/
theorem shows_answer_self (asked : Traits.plain.Asked request) {change : Change}
    (changes : changeOf request = some change) :
    (store.answer client.groupPath request).2.Shows
      ((change.applied request.place (client.pathTo request.place) documents).find?
        (client.pathTo request.place)) request.place := by
  cases request with
  | readGroup _ => cases changes
  | readSubnet _ _ => cases changes
  | readBalancer _ => cases changes
  | writeGroup group =>
      cases changes
      have valid : (Store.withId client.groupPath group).Valid := { asked.1 with }
      have reads := SecurityGroup.lawful_codec.reads valid
      rw [SecurityGroup.encode_withId asked.1] at reads
      simpa [Store.Shows, Store.answer, Change.applied, Request.place, Client.pathTo, held]
        using reads
  | deleteGroup name =>
      cases changes
      simp [Store.Shows, Store.answer, Change.applied, Request.place, Json.Codec.reads_none]
  | writeSubnet network subnet =>
      cases changes
      simpa [Store.Shows, Store.answer, Change.applied, Request.place, held] using
        Subnet.lawful_codec.reads asked.2.1
  | writeBalancer balancer =>
      cases changes
      simpa [Store.Shows, Store.answer, Change.applied, Request.place, held] using
        LoadBalancer.lawful_codec.reads asked.1

/-- A write keeps documents and resources together. -/
theorem Holds.applied (holds : Holds client documents store) (plain : client.IsPlain secret)
    (asked : Traits.plain.Asked request) {change : Change}
    (changes : changeOf request = some change) :
    Holds client (change.applied request.place (client.pathTo request.place) documents)
      (store.answer client.groupPath request).2 := by
  intro place own'
  have own := isPlain_place asked
  by_cases same : place = request.place
  · subst same
    exact shows_answer_self asked changes
  · have other : client.pathTo place ≠ client.pathTo request.place := fun same' =>
      same (plain.pathTo_injective own' own same')
    have kept : (change.applied request.place (client.pathTo request.place) documents).find?
        (client.pathTo place) = documents.find? (client.pathTo place) := by
      cases change with
      | put document => exact (Table.find?_insert _ _ _ _).trans (if_neg other)
      | delete => exact (Table.find?_erase _ _ _).trans (if_neg other)
    rw [kept]
    exact shows_answer_of_ne _ own own' same (holds place own')

end

end Azure

end ClusterPorts
