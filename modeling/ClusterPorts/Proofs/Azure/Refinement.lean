import ClusterPorts.Proofs.Azure.Rehearsal

/-!
# A client refines a network in memory

On a server that serves it, a client does with documents what a network in memory
does with resources. `Client.gives_fulfil_of_holds` says that one request is answered
alike and keeps the documents those of the resources. So does a whole operation,
whatever it asks for, and one operation after the other: `runs_as_in_memory`.
-/

namespace ClusterPorts

/-- All resources of a store have plain names. -/
structure Store.IsPlain (store : Store) : Prop where
  groups : ∀ {key group}, store.groups.find? key = some group → Http.Url.IsPlain group.name
  subnets : ∀ {key subnet}, store.subnets.find? key = some subnet → Http.Url.IsPlain subnet.name
  balancers : ∀ {key balancer}, store.balancers.find? key = some balancer →
    Http.Url.IsPlain balancer.name

theorem Store.isPlain_empty : Store.IsPlain {} where
  groups found := by cases found
  subnets found := by cases found
  balancers found := by cases found

/-- The step of progress that a note reports. -/
def Note.step? : Note → Option Progress
  | .log _ => none
  | .progress step => some step

namespace Azure

/-! ## One request -/

section

variable {client : Client} {documents : Table Json} {store : Store} {request : Request}

/-- What a store answers is valid if it stands in documents. -/
theorem answered_of_holds (holds : Holds client documents store) (named : store.IsPlain)
    (own : request.place.IsPlain) {answer : request.Answer}
    (answers : (store.answer client.groupPath request).1 = .ok answer) :
    Traits.plain.Answered request answer := by
  cases request with
  | readGroup name =>
      intro group found
      obtain rfl := Except.ok.inj answers
      have reads : SecurityGroup.codec.Reads _ _ := holds _ own
      rw [found] at reads
      exact ⟨reads.valid SecurityGroup.lawful_codec, named.groups found⟩
  | readBalancer name =>
      intro balancer found
      obtain rfl := Except.ok.inj answers
      have reads : LoadBalancer.codec.Reads _ _ := holds _ own
      rw [found] at reads
      exact ⟨reads.valid LoadBalancer.lawful_codec, named.balancers found⟩
  | readSubnet network name =>
      have reads : Subnet.codec.Reads _ _ := holds _ own
      simp only [Store.answer] at answers
      split at answers
      · next subnet found =>
        obtain rfl := Except.ok.inj answers
        rw [found] at reads
        exact ⟨reads.valid Subnet.lawful_codec, named.subnets found⟩
      · cases answers
  | writeGroup _ => trivial
  | deleteGroup _ => trivial
  | writeSubnet _ _ => trivial
  | writeBalancer _ => trivial

/-- Names stay plain when what is written has a plain one. -/
theorem isPlain_answer (groupId : String → String) (named : store.IsPlain)
    (asked : Traits.plain.Asked request) : (store.answer groupId request).2.IsPlain := by
  cases request with
  | readGroup _ => exact named
  | readBalancer _ => exact named
  | readSubnet network name => rwa [Store.answer_readSubnet_snd]
  | writeGroup written =>
      refine { named with groups := fun {key group} found => ?_ }
      rw [Store.answer, Table.find?_insert] at found
      split at found
      · obtain rfl := Option.some.inj found
        exact asked.2
      · exact named.groups found
  | deleteGroup name =>
      refine { named with groups := fun {key group} found => ?_ }
      rw [Store.answer, Table.find?_erase] at found
      split at found
      · cases found
      · exact named.groups found
  | writeSubnet network written =>
      refine { named with subnets := fun {key subnet} found => ?_ }
      rw [Store.answer, Table.find?_insert] at found
      split at found
      · obtain rfl := Option.some.inj found
        exact asked.2.2
      · exact named.subnets found
  | writeBalancer written =>
      refine { named with balancers := fun {key balancer} found => ?_ }
      rw [Store.answer, Table.find?_insert] at found
      split at found
      · obtain rfl := Option.some.inj found
        exact asked.2
      · exact named.balancers found

end

section

variable {σ α : Type} {client : Client} {world : World σ} {secret : String}
  {documents : σ → Table Json} {session : Session σ} {store : Store} {request : Request}

/-- The client answers a request as the store does, and documents and resources stay
together. -/
theorem Client.gives_fulfil_of_holds (serves : world.Serves client secret documents)
    (live : client.dryRun = false) (own : client.tokens.credential = .accessToken secret)
    (plain : client.IsPlain secret) (asked : Traits.plain.Asked request)
    (holds : Holds client (documents session.outside) store) :
    ∃ after, (client.fulfil world request).Gives session
        (store.answer client.groupPath request).1 after ∧ session.Logs after ∧
      Holds client (documents after.outside) (store.answer client.groupPath request).2 := by
  have place := isPlain_place asked
  cases writes : request.isWrite with
  | false =>
      obtain ⟨after, gives, looked⟩ :=
        gives_fulfil_of_reads (serves.shows place writes) own writes
      obtain ⟨entries, said, -⟩ := looked.notes
      rw [reply_eq plain holds place writes] at gives
      refine ⟨after, gives, ⟨entries, said⟩, ?_⟩
      rw [looked.documents, Store.answer_snd_of_reads _ writes]
      exact holds
  | true =>
      obtain ⟨change, changes⟩ := exists_changeOf writes
      obtain ⟨url, reaches, same⟩ := plain.reaches place
      rw [← pathOf_eq] at reaches
      obtain ⟨last, accepts, applied⟩ := serves.accepts place changes reaches session.outside
      obtain ⟨after, gives, outside, logs⟩ :=
        gives_change_of_accepts live own reaches accepts (titleOf request)
      have acknowledged : (store.answer client.groupPath request).1 =
          client.reply secret (documents session.outside) request := by
        cases request <;> first | rfl | cases writes
      rw [acknowledged]
      refine ⟨after, gives_fulfil_of_change changes gives secret _, logs, ?_⟩
      rw [outside, applied, same]
      exact holds.applied plain asked changes

/-! ## Operations -/

/-- What was reported on the way from some notes to others. -/
def Reported (steps : List Progress) (notes notes' : List Note) : Prop :=
  ∃ more, notes' = notes ++ more ∧ more.filterMap Note.step? = steps

theorem Reported.trans {steps more : List Progress} {notes notes' notes'' : List Note}
    (first : Reported steps notes notes') (second : Reported more notes' notes'') :
    Reported (steps ++ more) notes notes'' := by
  obtain ⟨added, rfl, rfl⟩ := first
  obtain ⟨added', rfl, rfl⟩ := second
  exact ⟨added ++ added', List.append_assoc _ _ _, List.filterMap_append⟩

theorem Reported.refl (notes : List Note) : Reported [] notes notes := ⟨[], by simp⟩

theorem Reported.note (notes : List Note) (note : Note) :
    Reported note.step?.toList notes (notes ++ [note]) := by
  refine ⟨[note], rfl, ?_⟩
  cases note <;> rfl

/-- What is logged is not reported. -/
theorem Session.Logs.reported {session after : Session σ} (logs : session.Logs after) :
    Reported [] session.notes after.notes := by
  obtain ⟨entries, said⟩ := logs
  exact ⟨_, said, by simp [List.filterMap_map, Function.comp_def, Note.step?]⟩

/-- A session of a client and a network in memory that hold the same. -/
structure Agree (client : Client) (documents : σ → Table Json) (session : Session σ)
    (memory : Memory) : Prop where
  holds : Holds client (documents session.outside) memory.store
  named : memory.store.IsPlain
  ids : memory.groupId = client.groupPath
  faultless : memory.faults = []

variable {memory : Memory}

/-- One request comes to the same, and what is answered may be written back. -/
theorem Agree.fulfil (serves : world.Serves client secret documents)
    (live : client.dryRun = false) (own : client.tokens.credential = .accessToken secret)
    (plain : client.IsPlain secret) (asked : Traits.plain.Asked request)
    (agree : Agree client documents session memory) :
    ∃ after, (client.fulfil world request).Gives session (Memory.answer request memory).1 after ∧
      Reported [] session.notes after.notes ∧
      (Memory.answer request memory).2.notes = memory.notes ∧
      Agree client documents after (Memory.answer request memory).2 ∧
      ∀ answer, (Memory.answer request memory).1 = .ok answer →
        Traits.plain.Answered request answer := by
  obtain ⟨after, gives, logs, holds⟩ :=
    Client.gives_fulfil_of_holds serves live own plain asked agree.holds
  rw [Memory.answer_of_no_faults request memory agree.faultless, agree.ids]
  exact ⟨after, gives, logs.reported, rfl,
    ⟨holds, isPlain_answer _ agree.named asked, rfl, agree.faultless⟩,
    fun _ => answered_of_holds agree.holds agree.named (isPlain_place asked)⟩

/-- A plan within bounds comes to the same and reports the same. -/
theorem Agree.run {plan : Plan α} {good : α → Prop}
    (serves : world.Serves client secret documents) (live : client.dryRun = false)
    (own : client.tokens.credential = .accessToken secret) (plain : client.IsPlain secret)
    (confined : Confined Traits.plain.bounds plan good)
    (agree : Agree client documents session memory) :
    ∃ outcome steps after memory',
      (client.run world plan).exec session = (.ok outcome, after) ∧
      Memory.run plan memory = (outcome, memory') ∧
      Reported steps session.notes after.notes ∧ Reported steps memory.notes memory'.notes ∧
      Agree client documents after memory' := by
  induction plan generalizing session memory with
  | done outcome =>
      exact ⟨outcome, [], session, memory, rfl, rfl, .refl _, .refl _, agree⟩
  | note note plan ih =>
      obtain ⟨outcome, steps, after, memory', runs, runs', reported, reported', agree'⟩ :=
        @ih { session with notes := session.notes ++ [note] }
          { memory with notes := memory.notes ++ [note] } confined.2
          ⟨agree.holds, agree.named, agree.ids, agree.faultless⟩
      exact ⟨outcome, _, after, memory', runs, runs', (Reported.note _ note).trans reported,
        (Reported.note _ note).trans reported', agree'⟩
  | ask request plan ih =>
      obtain ⟨asked, answered, refused⟩ := confined
      obtain ⟨middle, gives, silent, notes_eq, agree, told⟩ :=
        agree.fulfil serves live own plain asked
      have confined :
          Confined Traits.plain.bounds (plan (Memory.answer request memory).1) good := by
        cases reply : (Memory.answer request memory).1 with
        | ok answer => exact answered answer (told answer reply)
        | error failure => exact refused failure
      obtain ⟨outcome, steps, after, memory', runs, runs', reported, reported', agree⟩ :=
        ih _ confined agree
      refine ⟨outcome, steps, after, memory', ?_, runs', silent.trans reported,
        notes_eq ▸ reported', agree⟩
      rw [Client.exec_run_ask gives, runs]

end

/-- A cluster on a network in memory as a cloud. -/
def inMemory (site : Site) : Cloud (StateM Memory) where
  name := name
  prepare ports := Memory.run (Provision.prepare site ports)
  cleanup := Memory.run (Provision.cleanup site)

theorem carryOut_inMemory (site : Site) (operation : Operation) :
    carryOut (inMemory site) operation = Memory.run (operation.plan site) := by
  cases operation <;> rfl

/-- Running operations with a client is running them on a network in memory. On any
server that serves the client, all operations come to the same, failures among them,
and report the same, and the documents are those of the network in memory again. -/
theorem runs_as_in_memory {σ : Type} {world : World σ} {client : Client} {cluster : Cluster}
    {secret : String} {documents : σ → Table Json} {session : Session σ} {memory : Memory}
    (operations : List Operation) (live : client.dryRun = false)
    (own : client.tokens.credential = .accessToken secret) (plain : client.IsPlain secret)
    (infra : Http.Url.IsPlain cluster.infraId) (serves : world.Serves client secret documents)
    (agree : Agree client documents session memory) :
    ∃ outcomes steps after memory',
      (operations.mapM (carryOut (cloud world cluster client))).exec session =
        (.ok outcomes, after) ∧
      operations.mapM (carryOut (inMemory (site cluster client))) memory = (outcomes, memory') ∧
      Reported steps session.notes after.notes ∧ Reported steps memory.notes memory'.notes ∧
      Agree client documents after memory' := by
  have upkeep : (site cluster client).Upkeep Traits.plain :=
    Site.upkeep_plain (Site.isPlain_names infra)
  induction operations generalizing session memory with
  | nil => exact ⟨[], [], session, memory, rfl, rfl, .refl _, .refl _, agree⟩
  | cons operation operations ih =>
      obtain ⟨outcome, steps, middle, memory', runs, runs', reported, reported', agree⟩ :=
        agree.run serves live own plain (operation.confined upkeep)
      obtain ⟨outcomes, more, after, memory'', rest, rest', reported₂, reported₂', agree⟩ :=
        ih agree
      refine ⟨outcome :: outcomes, steps ++ more, after, memory'', ?_, ?_,
        reported.trans reported₂, reported'.trans reported₂', agree⟩
      · rw [List.mapM_cons, Run.exec_bind, carryOut_eq, runs]
        simp only [Run.exec_bind, rest]
        rfl
      · rw [List.mapM_cons, carryOut_inMemory]
        simp only [bind, StateT.bind, runs', rest']
        rfl

/-! ### A server that takes its time -/

/-- Where the state of all operations can be read. -/
def Sample.statePath : String := "/operations/1"

/-- What is read there. -/
def Sample.told (status : String) : Http.Response where
  status := ⟨200⟩
  body := .document (.object [("status", .string status)])

/-- An operation has begun. -/
def Sample.accepted : Http.Response where
  status := ⟨202⟩
  headers := [("Azure-AsyncOperation", "https://management.azure.com/operations/1")]

/-- The server does at once what another server does, but who waits for the end of an
operation has to ask some more times. -/
def World.lagging {σ : Type} (world : World σ) (lag : Nat) : World (σ × Nat) where
  exchange request state :=
    if request.url.path = Sample.statePath then
      match state.2 with
      | 0 => ((some (Sample.told "Succeeded"), ⟨0⟩), state)
      | left + 1 => ((some (Sample.told "InProgress"), ⟨0⟩), (state.1, left))
    else
      let ((answer, span), next) := world.exchange request state.1
      if request.method = .get then ((answer, span), (next, state.2))
      else ((some Sample.accepted, ⟨0⟩), (next, lag))
  clock state :=
    let (moment, next) := world.clock state.1
    (moment, (next, state.2))

namespace Sample

/-- A request for the state of an operation. -/
def reading : Http.Request where
  method := .get
  url :=
    { scheme := "https", host := some "management.azure.com", port := none
      path := statePath, query := none, fragment := none }
  authorization := some "Bearer token"
  contentType := "application/json"
  content := .empty

theorem pending_told : Pending (told "InProgress") .document := by
  have readable : (told "InProgress").body.read? Json.Node.keep =
    some (.object [("status", .string "InProgress")]) := rfl
  refine .document rfl readable fun status tells => ?_
  obtain rfl : "InProgress" = status := Option.some.inj tells
  decide +kernel

theorem verdict_told (what : String) : Verdict what (told "Succeeded") .document (.ok ()) := by
  have readable : (told "Succeeded").body.read? Json.Node.keep =
    some (.object [("status", .string "Succeeded")]) := rfl
  have tells : Tells (.object [("status", .string "Succeeded")]) "Succeeded" := rfl
  exact .succeeded rfl readable tells (by decide +kernel)

theorem directs_accepted :
    Directs accepted "https://management.azure.com/operations/1" .document :=
  .operation (by decide +kernel) (by decide)

theorem leads_statePath :
    Client.requestTo "token" "https://management.azure.com/operations/1" .get .empty =
      .ok reading := by
  have parsed : Http.Url.parse? "https://management.azure.com/operations/1" =
    some reading.url := by decide +kernel
  rw [Client.requestTo, Http.Request.to, parsed]
  rfl

theorem settles_lagging {σ : Type} (world : World σ) (lag left : Nat) (state : σ) :
    (world.lagging lag).Settles client reading .document client.pollInterval
      ((left + 1) * (client.pollInterval.nanos + 1)) (state, left) (state, 0) := by
  induction left with
  | zero =>
      have exchanged : (world.lagging lag).exchange reading (state, 0) =
        ((some (told "Succeeded"), ⟨0⟩), (state, 0)) := rfl
      rw [Nat.zero_add, Nat.one_mul]
      exact .succeeds exchanged verdict_told
  | succ left ih =>
      have exchanged : (world.lagging lag).exchange reading (state, left + 1) =
        ((some (told "InProgress"), ⟨0⟩), (state, left)) := rfl
      rw [Nat.succ_mul, Nat.add_comm]
      exact .waits exchanged pending_told ih

/-- A server gives the groups of the sample their paths as ids. -/
def keptWithId (path : String) (document : Json) : Json :=
  if Text.startsWith path (client.root ++ "/networkSecurityGroups/") then document.withId path
  else document

/-- A common beginning can be left out. -/
theorem startsWith_append_append (base rest beginning : String) :
    Text.startsWith (base ++ rest) (base ++ beginning) = Text.startsWith rest beginning := by
  rw [Bool.eq_iff_iff]
  simp [Text.startsWith, List.isPrefixOf_iff_prefix, List.prefix_append_right_inj]

theorem keptWithId_eq (place : Place) (document : Json) :
    keptWithId (client.pathTo place) document = held (client.pathTo place) place document := by
  unfold keptWithId
  cases place with
  | group name =>
      refine if_pos ?_
      unfold Client.pathTo Client.groupPath
      simp only [String.append_assoc, startsWith_append_append]
      simp [Text.startsWith, List.isPrefixOf]
  | subnet network name =>
      refine if_neg ?_
      unfold Client.pathTo Client.subnetPath
      simp only [String.append_assoc, startsWith_append_append]
      simp [Text.startsWith, List.isPrefixOf]
  | balancer name =>
      refine if_neg ?_
      unfold Client.pathTo Client.balancerPath
      simp only [String.append_assoc, startsWith_append_append]
      simp [Text.startsWith, List.isPrefixOf]

theorem pathTo_ne_statePath (place : Place) : client.pathTo place ≠ statePath := by
  intro same
  have chars := congrArg String.toList same
  rw [Client.toList_pathTo] at chars
  have second : (Http.Url.joined (client.rootSegments ++ place.segments))[1]? = some 's' := rfl
  rw [chars] at second
  exact absurd second (by decide +kernel)

theorem serves_lagging {lag : Nat} (inTime : lag < 50) :
    ((World.keeping keptWithId).lagging lag).Serves client "token" (·.1) where
  shows {request} plain reads := by
    refine ⟨fun _ => rfl, fun {url} reaches state => ?_⟩
    obtain ⟨own, reaches', same⟩ := isPlain_client.reaches plain
    rw [← Client.pathOf_eq] at reaches'
    obtain rfl := reaches.unique reaches'
    have other : url.path ≠ statePath := same ▸ pathTo_ne_statePath request.place
    obtain ⟨response, span, next, exchanged, kept, told⟩ :=
      (shows_keeping keptWithId client "token" _).reads reaches state.1
    refine ⟨response, span, (next, state.2), ?_, kept, told⟩
    have other : (Client.bearing "token" .get url .empty).url.path ≠ statePath := other
    simp only [World.lagging, if_neg other, exchanged]
    rfl
  accepts {request change url} plain changes reaches state := by
    obtain ⟨own, reaches', same⟩ := isPlain_client.reaches plain
    rw [← Client.pathOf_eq] at reaches'
    obtain rfl := reaches.unique reaches'
    have other : (Client.bearing "token" change.method url change.content).url.path ≠ statePath :=
      same ▸ pathTo_ne_statePath request.place
    refine ⟨(change.applied request.place url.path state.1, 0), ?_, rfl⟩
    have exchanged : ((World.keeping keptWithId).lagging lag).exchange
        (Client.bearing "token" change.method url change.content) state =
          ((some accepted, ⟨0⟩), (change.applied request.place url.path state.1, lag)) := by
      rw [World.lagging]
      simp only [if_neg other]
      cases change with
      | put document =>
          simp [World.keeping, Client.bearing, Change.method, Change.content, Change.applied, same,
            keptWithId_eq]
      | delete =>
          simp [World.keeping, Client.bearing, Change.method, Change.content, Change.applied]
    refine .later exchanged ?_ rfl directs_accepted leads_statePath (settles_lagging _ lag lag _) ?_
    · simp [Change.IsGone, accepted]
    · show 0 + 1 + (lag + 1) * 1000000001 < 60000000000
      omega

/-- The network in memory that holds what the server holds. -/
def memory : Memory := { groupId := client.groupPath, store }

theorem agree_memory (left : Nat) :
    Agree client (·.1) ({ outside := (documents "c1", left) } : Session (Table Json × Nat))
      memory where
  holds := holds_documents
  named := by
    have balanced := isPlain_answer client.groupPath Store.isPlain_empty asked_balancer
    have joined := isPlain_answer client.groupPath balanced (asked_subnet isPlain_worker)
    exact isPlain_answer client.groupPath joined (asked_subnet isPlain_master)
  ids := rfl
  faultless := rfl

end Sample

theorem runs_as_in_memory_sample :
    ∃ outcomes steps after memory',
      ([.prepare [⟨500, .udp⟩], .cleanup].mapM (carryOut (cloud
        ((World.keeping Sample.keptWithId).lagging 3) (Sample.cluster "c1") Sample.client))).exec
        { outside := (Sample.documents "c1", 0) } = (.ok outcomes, after) ∧
      [.prepare [⟨500, .udp⟩], .cleanup].mapM
        (carryOut (inMemory (site (Sample.cluster "c1") Sample.client))) Sample.memory =
          (outcomes, memory') ∧
      outcomes = [.ok (), .ok ()] ∧
      Reported steps [] after.notes ∧ Reported steps [] memory'.notes ∧
      Agree Sample.client (·.1) after memory' := by
  have infra : Http.Url.IsPlain (Sample.cluster "c1").infraId := by decide
  have serves : ((World.keeping Sample.keptWithId).lagging 3).Serves Sample.client "token" (·.1) :=
    Sample.serves_lagging (by decide)
  obtain ⟨outcomes, steps, after, memory', runs, runs', reported, reported', agree⟩ :=
    runs_as_in_memory [.prepare [⟨500, .udp⟩], .cleanup] rfl rfl Sample.isPlain_client infra serves
      (Sample.agree_memory 0)
  have computed : ([.prepare [⟨500, .udp⟩], .cleanup].mapM
      (carryOut (inMemory (site (Sample.cluster "c1") Sample.client))) Sample.memory).1 =
        [.ok (), .ok ()] := by decide +kernel
  exact ⟨outcomes, steps, after, memory', runs, runs',
    (congrArg Prod.fst runs').symm.trans computed, reported, reported', agree⟩

end Azure

end ClusterPorts
