import GscFq.UdpSessionTable

namespace GscFq.UdpSessions

open ByteStream Stealth

variable {h : StealthConnectionHandler}

def RelayStage.inFlight : RelayStage → List Bytes
  | .replying d => [d]
  | _ => []

/-- Every datagram of the backend socket was sent to the relay's client, in order, but for one in hand. -/
def Relay.Answers (rel : Relay) : Prop :=
  rel.received.map (Prod.mk rel.client) = rel.sent ++ rel.stage.inFlight.map (Prod.mk rel.client)

theorem Relay.Answers.move {rel rel' : Relay} (ha : rel.Answers) (hm : RelayMove rel rel') : rel'.Answers := by
  unfold Relay.Answers at ha ⊢
  cases hm with
  | received d before =>
    rw [before] at ha
    simpa [RelayStage.inFlight] using ha
  | replied before goes =>
    rw [before] at ha
    rcases goes with rfl | rfl <;> simpa [RelayStage.inFlight] using ha
  | left before =>
    rw [before] at ha
    exact ha

def Section.socket : Section → Option BackendId
  | .binding => none
  | .connecting k => some k
  | .spawning k => some k
  | .inserting k => some k
  | .sending k => some k

/-- Every socket is used for the client it was bound for, in both directions. -/
structure Wired (s : State) : Prop where
  relays : ∀ rel ∈ s.relays, s.owners[rel.socket]? = some rel.client ∧ rel.Answers
  packet : ∀ pkt place k, s.holder = some (.packet pkt place) → place.socket = some k →
    s.owners[k]? = some pkt.client
  out : ∀ x ∈ s.out, s.owners[x.1]? = some x.2.client

theorem owners_snoc {owners : List SocketAddr} {k : BackendId} {c : SocketAddr} (new : SocketAddr)
    (hk : owners[k]? = some c) : (owners ++ [new])[k]? = some c := by
  obtain ⟨hlt, -⟩ := List.getElem?_eq_some_iff.mp hk
  rw [List.getElem?_append_left hlt]
  exact hk

theorem Wired.finish {s : State} (hs : Wired s) (result : Except AppError Unit) : Wired (s.finish result) :=
  ⟨hs.relays, by rintro pkt place k ⟨⟩, hs.out⟩

theorem Wired.handleUdpPacket {s t : State} {pkt : Packet} {place : Section} {e : SectionEvent} (hs : Wired s)
    (hh : s.holder = some (.packet pkt place)) (ht : handleUdpPacket h s pkt place e = some t) : Wired t := by
  have hsame : ∀ k place', place.socket = some k → place'.socket = some k → ∀ pkt' place'' k',
      some (Holder.packet pkt place') = some (.packet pkt' place'') → place''.socket = some k' →
        s.owners[k']? = some pkt'.client := by
    rintro k place' hk hk' pkt' place'' k' ⟨⟩ hsocket
    obtain rfl : k = k' := Option.some.inj (hk'.symm.trans hsocket)
    exact hs.packet pkt place k hh hk
  unfold UdpSessions.handleUdpPacket at ht
  split at ht <;> cases ht
  · exact hs.finish _
  · refine ⟨?_, ?_, ?_⟩
    · intro rel hm
      exact ⟨owners_snoc _ (hs.relays rel hm).1, (hs.relays rel hm).2⟩
    · rintro pkt' place' k ⟨⟩ ⟨⟩
      exact List.getElem?_concat_length
    · intro x hx
      exact owners_snoc _ (hs.out x hx)
  · exact hs.finish _
  · exact ⟨hs.relays, hsame _ _ rfl rfl, hs.out⟩
  · refine ⟨?_, hsame _ _ rfl rfl, hs.out⟩
    intro rel hm
    rcases List.mem_append.mp hm with hm | hm
    · exact hs.relays rel hm
    · obtain rfl := List.mem_singleton.mp hm
      exact ⟨hs.packet pkt _ _ hh rfl, rfl⟩
  · exact ⟨hs.relays, hsame _ _ rfl rfl, hs.out⟩
  · exact hs.finish _
  · refine ⟨hs.relays, by rintro pkt' place' k ⟨⟩, ?_⟩
    intro x hx
    rcases List.mem_append.mp hx with hx | hx
    · exact hs.out x hx
    · obtain rfl := List.mem_singleton.mp hx
      exact hs.packet pkt _ _ hh rfl

theorem Wired.set {s : State} {r : RelayId} {rel rel' : Relay} (hs : Wired s) (hr : s.relays[r]? = some rel)
    (hclient : rel'.client = rel.client) (hsocket : rel'.socket = rel.socket) (hanswers : rel'.Answers) :
    ∀ new ∈ s.relays.set r rel', s.owners[new.socket]? = some new.client ∧ new.Answers := by
  intro new hm
  rcases List.mem_or_eq_of_mem_set hm with hm | rfl
  · exact hs.relays new hm
  · refine ⟨?_, hanswers⟩
    rw [hclient, hsocket]
    exact (hs.relays rel (List.mem_of_getElem? hr)).1

theorem Wired.step {s t : State} {e : Event} (hs : Wired s) (htable : Table s) (ht : step h s e = some t) : Wired t := by
  unfold UdpSessions.step at ht
  split at ht
  · cases ht
    exact ⟨hs.relays, hs.packet, hs.out⟩
  · cases ht
    exact ⟨hs.relays, hs.packet, hs.out⟩
  · split at ht
    · rename_i pkt hwaiting hfree
      cases ht
      refine ⟨hs.relays, ?_, hs.out⟩
      rintro pkt' place k ⟨⟩ hsocket
      cases hl : s.sessions.lookup pkt.client with
      | none =>
        rw [hl] at hsocket
        cases hsocket
      | some k' =>
        -- the socket of a session found in the table is the one its relay serves
        rw [hl] at hsocket
        obtain rfl : k' = k := Option.some.inj hsocket
        obtain ⟨rel, hm, hclient, hsame, -⟩ := (htable.served _ _).mpr (Or.inl hl)
        rw [← hclient, ← hsame]
        exact (hs.relays rel hm).1
    · cases ht
  · split at ht
    · rename_i hh
      exact hs.handleUdpPacket hh ht
    · cases ht
  · obtain ⟨rel, hr, hlock⟩ := Option.bind_eq_some_iff.mp ht
    unfold lockRelay at hlock
    split at hlock <;> cases hlock
    exact ⟨hs.relays, by rintro pkt place k ⟨⟩, hs.out⟩
  · obtain ⟨rel, hr, hremove⟩ := Option.bind_eq_some_iff.mp ht
    unfold removeSession at hremove
    split at hremove <;> cases hremove
    rename_i hh
    refine ⟨?_, by rintro pkt place k ⟨⟩, hs.out⟩
    have hanswers := (hs.relays rel (List.mem_of_getElem? hr)).2
    have hdone : Relay.Answers { rel with stage := .done } := by
      unfold Relay.Answers at hanswers ⊢
      rw [htable.held hh hr] at hanswers
      exact hanswers
    exact hs.set hr rfl rfl hdone
  · obtain ⟨rel, hr, hmap⟩ := Option.bind_eq_some_iff.mp ht
    obtain ⟨rel', hbody, rfl⟩ := Option.map_eq_some_iff.mp hmap
    have hm := relayBody_move hbody
    have hanswers := (hs.relays rel (List.mem_of_getElem? hr)).2
    exact ⟨hs.set hr hm.same.1 hm.same.2 (hanswers.move hm), hs.packet, hs.out⟩

theorem run_wired {es : List Event} {s : State} (hrun : run h es = some s) : Wired s := by
  have hboth : Table s ∧ Wired s := by
    apply Transitions.run_invariant (I := fun s => Table s ∧ Wired s) hrun
    · refine ⟨init_table, ?_, by rintro pkt place k ⟨⟩, ?_⟩
      · simp [init]
      · simp [init]
    · intro u e t hu ht
      exact ⟨hu.1.step ht, hu.2.step hu.1 ht⟩
  exact hboth.2

/-- What holds of the sessions in every state the tasks can reach. -/
structure SessionsRight (h : StealthConnectionHandler) (s : State) : Prop where
  table : s.holder = none → ∀ c k, s.sessions.lookup c = some k ↔ Served s.relays c k
  single : OnePerClient s.relays
  removal : ∀ r t, step h s (.relay r .remove) = some t → ∃ rel, s.relays[r]? = some rel ∧
    s.sessions.lookup rel.client = some rel.socket ∧ t.sessions = s.sessions.erase rel.client
  replies : ∀ rel ∈ s.relays, s.owners[rel.socket]? = some rel.client ∧ rel.Answers
  out : ∀ x ∈ s.out, s.owners[x.1]? = some x.2.client

theorem udp_sessions_right {es : List Event} {s : State} (hrun : run h es = some s) : SessionsRight h s := by
  have htable := run_table hrun
  have hwired := run_wired hrun
  refine ⟨?_, htable.single, ?_, hwired.relays, hwired.out⟩
  · intro hfree c k
    have hsettled : s.Settled := by simp [State.Settled, hfree]
    exact (htable.settled hsettled c k).symm
  · intro r t ht
    obtain ⟨rel, hr, hremove⟩ := Option.bind_eq_some_iff.mp ht
    exact ⟨rel, hr, (htable.removal hr hremove).2⟩

def sampleHandler : StealthConnectionHandler := ⟨.new (.v4 10 0 0 5) 53, none, none, none⟩

def samplePacket : Packet := ⟨.new (.v4 192 0 2 7) 50000, [1]⟩

/-- A session whose relay answers before the session is in the table, is left when the relay times out,
and is followed by a new session of the same client. -/
def sampleSessions : List Event :=
  [.arrive samplePacket (.ok ()), .arrive samplePacket (.ok ()), .lock 0, .packet (.bind none), .packet (.connect none),
    .packet .spawn, .relay 0 (.recv [9]), .relay 0 (.sendTo none), .relay 0 .timeout, .packet .insert,
    .packet (.send none), .relay 0 .lock, .relay 0 .remove, .lock 0, .packet (.bind none), .packet (.connect none),
    .packet .spawn, .packet .insert, .packet (.send none)]

theorem sample_sessions_right :
    ∃ s, run sampleHandler sampleSessions = some s ∧ s.sessions.lookup samplePacket.client = some 1 ∧
      SessionsRight sampleHandler s := by
  have hrun : (run sampleHandler sampleSessions).map (fun s => s.sessions.lookup samplePacket.client) = some (some 1) := by
    decide +kernel
  obtain ⟨s, hs, hl⟩ := Option.map_eq_some_iff.mp hrun
  exact ⟨s, hs, hl, udp_sessions_right hs⟩

end GscFq.UdpSessions
