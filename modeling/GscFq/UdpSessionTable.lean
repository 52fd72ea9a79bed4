import GscFq.UdpRelays

namespace GscFq.UdpSessions

open ByteStream Stealth

variable {h : StealthConnectionHandler}

def Section.opening : Section → Bool
  | .sending _ => false
  | _ => true

/-- What holds whoever has the lock: the sessions are those of the relays at work, but for the one that a
packet's task has spawned the relay of and is about to insert. -/
structure Table (s : State) : Prop where
  served : ∀ c k, Served s.relays c k ↔
    s.sessions.lookup c = some k ∨ ∃ data, s.holder = some (.packet ⟨c, data⟩ (.inserting k))
  single : OnePerClient s.relays
  absent : ∀ pkt place, s.holder = some (.packet pkt place) → place.opening = true →
    s.sessions.lookup pkt.client = none
  leaving : ∀ r, s.holder = some (.relay r) → ∃ rel, s.relays[r]? = some rel ∧ rel.stage = .leaving

/-- Nobody is between the spawn of a relay and the insertion of its session. -/
def State.Settled (s : State) : Prop := ∀ pkt k, s.holder ≠ some (.packet pkt (.inserting k))

theorem Table.settled {s : State} (ht : Table s) (hs : s.Settled) (c : SocketAddr) (k : BackendId) :
    Served s.relays c k ↔ s.sessions.lookup c = some k := by
  rw [ht.served]
  constructor
  · rintro (hl | ⟨data, hd⟩)
    · exact hl
    · exact absurd hd (hs _ _)
  · exact Or.inl

theorem Table.pass {s t : State} (hs : Table s) (hsettled : s.Settled) (hsettled' : t.Settled)
    (hsessions : t.sessions = s.sessions) (hrelays : t.relays = s.relays)
    (habsent : ∀ pkt place, t.holder = some (.packet pkt place) → place.opening = true →
      s.sessions.lookup pkt.client = none)
    (hleaving : ∀ r, t.holder = some (.relay r) → ∃ rel, s.relays[r]? = some rel ∧ rel.stage = .leaving) : Table t := by
  refine ⟨?_, ?_, ?_, ?_⟩
  · intro c k
    rw [hrelays, hsessions, hs.settled hsettled]
    constructor
    · exact Or.inl
    · rintro (hl | ⟨data, hd⟩)
      · exact hl
      · exact absurd hd (hsettled' _ _)
  · rw [hrelays]
    exact hs.single
  · rw [hsessions]
    exact habsent
  · rw [hrelays]
    exact hleaving

theorem Table.finish {s : State} (hs : Table s) (hsettled : s.Settled) {t : State} (hsessions : t.sessions = s.sessions)
    (hrelays : t.relays = s.relays) (hfree : t.holder = none) : Table t := by
  apply hs.pass hsettled _ hsessions hrelays
  · simp [hfree]
  · simp [hfree]
  · simp [State.Settled, hfree]

theorem settled_of_holder {s : State} {pkt : Packet} {place : Section} (hh : s.holder = some (.packet pkt place))
    (hp : ∀ k, place ≠ .inserting k) : s.Settled := by
  intro pkt' k he
  rw [hh] at he
  cases he
  exact hp k rfl

theorem Table.proceed {s t : State} {pkt : Packet} {place place' : Section} (hs : Table s)
    (hh : s.holder = some (.packet pkt place)) (hopen : place.opening = true) (hp : ∀ k, place ≠ .inserting k)
    (hh' : t.holder = some (.packet pkt place')) (hp' : ∀ k, place' ≠ .inserting k)
    (hsessions : t.sessions = s.sessions) (hrelays : t.relays = s.relays) : Table t := by
  apply hs.pass (settled_of_holder hh hp) (settled_of_holder hh' hp') hsessions hrelays
  · intro pkt'' place'' he _
    rw [hh'] at he
    cases he
    exact hs.absent pkt place hh hopen
  · intro r he
    rw [hh'] at he
    cases he

theorem Table.spawn {s : State} {pkt : Packet} {socket : BackendId} {new : Relay} (hs : Table s)
    (hh : s.holder = some (.packet pkt (.spawning socket))) (hclient : new.client = pkt.client)
    (hsocket : new.socket = socket) (hlive : new.stage ≠ .done) :
    Table { s with holder := some (.packet pkt (.inserting socket)), relays := s.relays ++ [new] } := by
  have hsettled : s.Settled := settled_of_holder hh (by simp)
  have hnone := hs.absent pkt _ hh rfl
  refine ⟨?_, ?_, ?_, by rintro r ⟨⟩⟩
  · intro c k
    rw [served_snoc, hs.settled hsettled]
    constructor
    · rintro (hl | ⟨rfl, rfl, -⟩)
      · exact Or.inl hl
      · exact Or.inr ⟨pkt.data, by rw [hclient, hsocket]⟩
    · rintro (hl | ⟨data, hd⟩)
      · exact Or.inl hl
      · cases hd
        exact Or.inr ⟨hclient, hsocket, hlive⟩
  · apply hs.single.snoc
    intro k hserved
    have hl := (hs.settled hsettled _ _).mp hserved
    rw [hclient, hnone] at hl
    cases hl
  · rintro pkt' place' ⟨⟩ -
    exact hnone

theorem Table.insert {s : State} {pkt : Packet} {socket : BackendId} (hs : Table s)
    (hh : s.holder = some (.packet pkt (.inserting socket))) :
    Table { s with holder := some (.packet pkt (.sending socket)), sessions := s.sessions.insert pkt.client socket } := by
  obtain ⟨client, data⟩ := pkt
  have hnone : s.sessions.lookup client = none := hs.absent _ _ hh rfl
  refine ⟨?_, hs.single, by rintro pkt' place' ⟨⟩ ⟨⟩, by rintro r ⟨⟩⟩
  intro c k
  rw [hs.served, hh]
  by_cases hc : c = client
  · subst hc
    rw [AList.lookup_insert, hnone]
    constructor
    · rintro (⟨⟨⟩⟩ | ⟨data', hd⟩)
      cases hd
      exact Or.inl rfl
    · rintro (hl | ⟨data', hd⟩)
      · cases hl
        exact Or.inr ⟨data, rfl⟩
      · cases hd
  · rw [AList.lookup_insert_ne hc]
    constructor
    · rintro (hl | ⟨data, hd⟩)
      · exact Or.inl hl
      · cases hd
        exact absurd rfl hc
    · rintro (hl | ⟨data, hd⟩)
      · exact Or.inl hl
      · cases hd

theorem Table.handleUdpPacket {s t : State} {pkt : Packet} {place : Section} {e : SectionEvent} (hs : Table s)
    (hh : s.holder = some (.packet pkt place)) (ht : handleUdpPacket h s pkt place e = some t) : Table t := by
  unfold UdpSessions.handleUdpPacket at ht
  split at ht <;> cases ht
  · exact hs.finish (settled_of_holder hh (by simp)) rfl rfl rfl
  · exact hs.proceed hh rfl (by simp) rfl (by simp) rfl rfl
  · exact hs.finish (settled_of_holder hh (by simp)) rfl rfl rfl
  · exact hs.proceed hh rfl (by simp) rfl (by simp) rfl rfl
  · exact hs.spawn hh rfl rfl (by simp)
  · exact hs.insert hh
  · exact hs.finish (settled_of_holder hh (by simp)) rfl rfl rfl
  · exact hs.finish (settled_of_holder hh (by simp)) rfl rfl rfl

/-- What a relay does without the lock; after `send_to` it goes on or, if that failed, leaves. -/
inductive RelayMove (rel : Relay) : Relay → Prop where
  | received (d : Bytes) (before : rel.stage = .receiving) :
      RelayMove rel { rel with stage := .replying d, received := rel.received ++ [d] }
  | replied {d : Bytes} {after : RelayStage} (before : rel.stage = .replying d)
      (goes : after = .receiving ∨ after = .leaving) :
      RelayMove rel { rel with stage := after, sent := rel.sent ++ [(rel.client, d)] }
  | left (before : rel.stage = .receiving) : RelayMove rel { rel with stage := .leaving }

theorem relayBody_move {rel rel' : Relay} {e : RelayEvent} (he : relayBody rel e = some rel') : RelayMove rel rel' := by
  cases e with
  | recv d =>
    simp only [relayBody] at he
    split at he <;> cases he
    rename_i hst
    exact .received d hst
  | sendTo failed =>
    simp only [relayBody] at he
    split at he <;> cases he
    · rename_i hst
      exact .replied hst (.inl rfl)
    · rename_i hst
      exact .replied hst (.inr rfl)
  | recvError e =>
    simp only [relayBody] at he
    split at he <;> cases he
    rename_i hst
    exact .left hst
  | timeout =>
    simp only [relayBody] at he
    split at he <;> cases he
    rename_i hst
    exact .left hst
  | lock => cases he
  | remove => cases he

theorem RelayMove.same {rel rel' : Relay} (hm : RelayMove rel rel') :
    rel'.client = rel.client ∧ rel'.socket = rel.socket := by
  cases hm <;> exact ⟨rfl, rfl⟩

theorem RelayMove.working {rel rel' : Relay} (hm : RelayMove rel rel') :
    rel.stage ≠ .done ∧ rel.stage ≠ .leaving ∧ rel'.stage ≠ .done := by
  cases hm with
  | received d before => simp [before]
  | replied before goes => rcases goes with rfl | rfl <;> simp [before]
  | left before => simp [before]

theorem Table.relay {s : State} {r : RelayId} {rel rel' : Relay} (hs : Table s) (hr : s.relays[r]? = some rel)
    (hm : RelayMove rel rel') : Table { s with relays := s.relays.set r rel' } := by
  have hserves : ∀ c k, rel'.Serves c k ↔ rel.Serves c k := by
    intro c k
    unfold Relay.Serves
    rw [hm.same.1, hm.same.2]
    exact and_congr_right' (and_congr_right' (iff_of_true hm.working.2.2 hm.working.1))
  refine ⟨?_, hs.single.set hr hm.same.1 (fun _ => hm.working.1), hs.absent, ?_⟩
  · intro c k
    rw [served_set hr hserves]
    exact hs.served c k
  · intro r' hr'
    obtain ⟨rel'', hrel'', hst⟩ := hs.leaving r' hr'
    have hne : r ≠ r' := by
      rintro rfl
      rw [hr] at hrel''
      cases hrel''
      exact hm.working.2.1 hst
    exact ⟨rel'', (List.getElem?_set_ne hne).trans hrel'', hst⟩

theorem Table.lockRelay {s t : State} {r : RelayId} {rel : Relay} (hs : Table s) (hr : s.relays[r]? = some rel)
    (ht : lockRelay s r rel = some t) : Table t := by
  unfold UdpSessions.lockRelay at ht
  split at ht <;> cases ht
  rename_i hfree
  have hsettled : s.Settled := by simp [State.Settled, hfree.1]
  apply hs.pass (t := { s with holder := some (.relay r) }) hsettled _ rfl rfl
  · rintro pkt place ⟨⟩
  · rintro r' ⟨⟩
    exact ⟨rel, hr, hfree.2⟩
  · rintro pkt k ⟨⟩

theorem Table.held {s : State} {r : RelayId} {rel : Relay} (hs : Table s) (hh : s.holder = some (.relay r))
    (hr : s.relays[r]? = some rel) : rel.stage = .leaving := by
  obtain ⟨rel', hr', hst⟩ := hs.leaving r hh
  obtain rfl : rel = rel' := Option.some.inj (hr.symm.trans hr')
  exact hst

theorem Table.removal {s t : State} {r : RelayId} {rel : Relay} (hs : Table s) (hr : s.relays[r]? = some rel)
    (ht : removeSession s r rel = some t) :
    Table t ∧ s.sessions.lookup rel.client = some rel.socket ∧ t.sessions = s.sessions.erase rel.client := by
  unfold removeSession at ht
  split at ht <;> cases ht
  rename_i hh
  have hsettled : s.Settled := by simp [State.Settled, hh]
  have hlive : rel.stage ≠ .done := by simp [hs.held hh hr]
  have hown : s.sessions.lookup rel.client = some rel.socket :=
    (hs.settled hsettled _ _).mp ⟨rel, List.mem_of_getElem? hr, rfl, rfl, hlive⟩
  refine ⟨⟨?_, hs.single.set hr rfl (by simp), by rintro pkt place ⟨⟩, by rintro r' ⟨⟩⟩, hown, rfl⟩
  intro c k
  rw [served_done hs.single hr hlive, hs.settled hsettled]
  by_cases hc : c = rel.client
  · subst hc
    simp
  · simp [AList.lookup_erase_ne hc, hc]

theorem Table.lockPacket {s : State} {pkt : Packet} (hs : Table s) (hfree : s.holder = none) (waiting : List Packet) :
    Table { s with
      holder := some (.packet pkt ((s.sessions.lookup pkt.client).elim .binding Section.sending))
      waiting := waiting } := by
  have hsettled : s.Settled := by simp [State.Settled, hfree]
  cases hl : s.sessions.lookup pkt.client with
  | none =>
    apply hs.pass (t := { s with holder := some (.packet pkt .binding), waiting := waiting }) hsettled _ rfl rfl
    · rintro pkt' place ⟨⟩ -
      exact hl
    · rintro r ⟨⟩
    · rintro pkt' k ⟨⟩
  | some socket =>
    apply hs.pass (t := { s with holder := some (.packet pkt (.sending socket)), waiting := waiting }) hsettled _ rfl rfl
    · rintro pkt' place ⟨⟩ ⟨⟩
    · rintro r ⟨⟩
    · rintro pkt' k ⟨⟩

theorem Table.step {s t : State} {e : Event} (hs : Table s) (ht : step h s e = some t) : Table t := by
  unfold UdpSessions.step at ht
  split at ht
  · cases ht
    exact ⟨hs.served, hs.single, hs.absent, hs.leaving⟩
  · cases ht
    exact ⟨hs.served, hs.single, hs.absent, hs.leaving⟩
  · split at ht
    · rename_i pkt _ hfree
      cases ht
      exact hs.lockPacket hfree _
    · cases ht
  · split at ht
    · rename_i hh
      exact hs.handleUdpPacket hh ht
    · cases ht
  · obtain ⟨rel, hr, hlock⟩ := Option.bind_eq_some_iff.mp ht
    exact hs.lockRelay hr hlock
  · obtain ⟨rel, hr, hremove⟩ := Option.bind_eq_some_iff.mp ht
    exact (hs.removal hr hremove).1
  · obtain ⟨rel, hr, hmap⟩ := Option.bind_eq_some_iff.mp ht
    obtain ⟨rel', hbody, rfl⟩ := Option.map_eq_some_iff.mp hmap
    exact hs.relay hr (relayBody_move hbody)

theorem init_table : Table init := by
  refine ⟨?_, ?_, by rintro pkt place ⟨⟩, by rintro r ⟨⟩⟩
  · simp [init, Served]
  · rintro r r' rel rel' hr
    cases hr

theorem run_table {es : List Event} {s : State} (hrun : run h es = some s) : Table s := by
  apply Transitions.run_invariant hrun init_table
  intro u e t hu ht
  exact hu.step ht

end GscFq.UdpSessions
