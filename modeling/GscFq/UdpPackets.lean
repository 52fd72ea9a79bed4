import GscFq.UdpSessionWiring

/-!
What becomes of the packets: one that `check_security` lets through waits for the table, is in the hands of the task
that holds its lock, has gone out to the remote or has failed.
-/

namespace GscFq.UdpSessions

open ByteStream GscFq.Lists Stealth

variable {h : StealthConnectionHandler}

inductive Turn (s : State) : Event → State → Prop
  | refused (pkt : Packet) (refusal : Refusal) :
      Turn s (.arrive pkt (.error refusal)) { s with results := s.results ++ [.error (refusal.error pkt.client.ip)] }
  | accepted (pkt : Packet) : Turn s (.arrive pkt (.ok ())) { s with waiting := s.waiting ++ [pkt] }
  | taken {i : ℕ} {pkt : Packet} (waits : s.waiting[i]? = some pkt) (free : s.holder = none) :
      Turn s (.lock i) { s with
        holder := some (.packet pkt ((s.sessions.lookup pkt.client).elim .binding Section.sending))
        waiting := s.waiting.eraseIdx i }
  | failed {pkt : Packet} {place : Section} {e : SectionEvent} (held : s.holder = some (.packet pkt place)) (err : AppError) :
      Turn s (.packet e) (s.finish (.error err))
  | bound {pkt : Packet} {e : SectionEvent} (held : s.holder = some (.packet pkt .binding)) :
      Turn s (.packet e)
        { s with holder := some (.packet pkt (.connecting s.owners.length)), owners := s.owners ++ [pkt.client] }
  | connected {pkt : Packet} {socket : BackendId} {e : SectionEvent}
      (held : s.holder = some (.packet pkt (.connecting socket))) :
      Turn s (.packet e) { s with holder := some (.packet pkt (.spawning socket)) }
  | spawned {pkt : Packet} {socket : BackendId} {e : SectionEvent}
      (held : s.holder = some (.packet pkt (.spawning socket))) :
      Turn s (.packet e) { s with
        holder := some (.packet pkt (.inserting socket))
        relays := s.relays ++ [⟨pkt.client, socket, .receiving, [], []⟩] }
  | inserted {pkt : Packet} {socket : BackendId} {e : SectionEvent}
      (held : s.holder = some (.packet pkt (.inserting socket))) :
      Turn s (.packet e) { s with
        holder := some (.packet pkt (.sending socket))
        sessions := s.sessions.insert pkt.client socket }
  | sent {pkt : Packet} {socket : BackendId} {e : SectionEvent} (held : s.holder = some (.packet pkt (.sending socket))) :
      Turn s (.packet e) (State.finish { s with out := s.out ++ [(socket, pkt)] } (.ok ()))
  | locked {r : RelayId} {rel : Relay} (found : s.relays[r]? = some rel) (free : s.holder = none)
      (leaving : rel.stage = .leaving) : Turn s (.relay r .lock) { s with holder := some (.relay r) }
  | removed {r : RelayId} {rel : Relay} (found : s.relays[r]? = some rel) (held : s.holder = some (.relay r)) :
      Turn s (.relay r .remove) { s with
        holder := none
        sessions := s.sessions.erase rel.client
        relays := s.relays.set r { rel with stage := .done } }
  | relayed {r : RelayId} {rel rel' : Relay} {e : RelayEvent} (found : s.relays[r]? = some rel)
      (body : relayBody rel e = some rel') : Turn s (.relay r e) { s with relays := s.relays.set r rel' }

theorem handleUdpPacket_turn {s t : State} {pkt : Packet} {place : Section} {e : SectionEvent}
    (held : s.holder = some (.packet pkt place)) (ht : handleUdpPacket h s pkt place e = some t) :
    Turn s (.packet e) t := by
  unfold handleUdpPacket at ht
  split at ht <;> cases ht
  · exact .failed held _
  · exact .bound held
  · exact .failed held _
  · exact .connected held
  · exact .spawned held
  · exact .inserted held
  · exact .failed held _
  · exact .sent held

theorem step_turn {s t : State} {e : Event} (ht : step h s e = some t) : Turn s e t := by
  unfold step at ht
  split at ht
  · cases ht
    exact .accepted _
  · cases ht
    exact .refused _ _
  · split at ht
    · rename_i waits free
      cases ht
      exact .taken waits free
    · cases ht
  · split at ht
    · rename_i held
      exact handleUdpPacket_turn held ht
    · cases ht
  · obtain ⟨rel, found, hlock⟩ := Option.bind_eq_some_iff.mp ht
    unfold lockRelay at hlock
    split at hlock <;> cases hlock
    rename_i hfree
    exact .locked found hfree.1 hfree.2
  · obtain ⟨rel, found, hremove⟩ := Option.bind_eq_some_iff.mp ht
    unfold removeSession at hremove
    split at hremove <;> cases hremove
    rename_i held
    exact .removed found held
  · obtain ⟨rel, found, hmap⟩ := Option.bind_eq_some_iff.mp ht
    obtain ⟨rel', body, rfl⟩ := Option.map_eq_some_iff.mp hmap
    exact .relayed found body

/-- The packets that passed `check_security`, in the order of their arrival. -/
def accepted (es : List Event) : List Packet :=
  es.filterMap (fun | .arrive pkt (.ok ()) => some pkt | _ => none)

def refusals (es : List Event) : ℕ := es.countP (fun | .arrive _ (.error _) => true | _ => false)

def Holder.packets : Holder → List Packet
  | .packet pkt _ => [pkt]
  | .relay _ => []

def State.handled (s : State) : List Packet := (s.holder.map Holder.packets).getD []

def succeeds (result : Except AppError Unit) : Bool := result.toOption.isSome

structure Accounts (es : List Event) (s : State) (failed : List Packet) : Prop where
  packets : (accepted es).Perm (s.waiting ++ s.handled ++ s.out.map Prod.snd ++ failed)
  forwarded : s.results.countP succeeds = s.out.length
  results : s.results.length = s.out.length + failed.length + refusals es

theorem accepted_append (es fs : List Event) : accepted (es ++ fs) = accepted es ++ accepted fs := List.filterMap_append

theorem refusals_append (es fs : List Event) : refusals (es ++ fs) = refusals es + refusals fs := List.countP_append

/-- One more event that brings no packet, and where its task leaves what it had in its hands. -/
theorem Accounts.pass {es : List Event} {s t : State} {failed failed' : List Packet} {e : Event}
    (hs : Accounts es s failed) (ha : accepted [e] = []) (hr : refusals [e] = 0)
    (hp : (s.waiting ++ s.handled ++ s.out.map Prod.snd ++ failed).Perm
      (t.waiting ++ t.handled ++ t.out.map Prod.snd ++ failed'))
    (hf : t.results.countP succeeds + s.out.length = s.results.countP succeeds + t.out.length)
    (hl : t.results.length + s.out.length + failed.length = s.results.length + t.out.length + failed'.length) :
    Accounts (es ++ [e]) t failed' := by
  have hforwarded := hs.forwarded
  have hresults := hs.results
  refine ⟨?_, by omega, ?_⟩
  · rw [accepted_append, ha, List.append_nil]
    exact hs.packets.trans hp
  · rw [refusals_append, hr]
    omega

theorem handled_packet {s : State} {pkt : Packet} {place : Section} (held : s.holder = some (.packet pkt place)) :
    s.handled = [pkt] := by
  rw [State.handled, held]
  rfl

theorem handled_free {s : State} (free : s.holder = none) : s.handled = [] := by
  rw [State.handled, free]
  rfl

/-- The task keeps the packet it has. -/
theorem Accounts.hold {es : List Event} {s t : State} {failed : List Packet} {pkt : Packet} {place place' : Section}
    {e : SectionEvent} (hs : Accounts es s failed) (held : s.holder = some (.packet pkt place))
    (held' : t.holder = some (.packet pkt place')) (hw : t.waiting = s.waiting) (ho : t.out = s.out)
    (hr : t.results = s.results) : Accounts (es ++ [.packet e]) t failed := by
  apply hs.pass rfl rfl
  · rw [handled_packet held, handled_packet held', hw, ho]
  · rw [hr, ho]
  · rw [hr, ho]

theorem Accounts.turn {es : List Event} {s t : State} {e : Event} {failed : List Packet} (hs : Accounts es s failed)
    (ht : Turn s e t) : ∃ failed', Accounts (es ++ [e]) t failed' := by
  have hforwarded := hs.forwarded
  have hresults := hs.results
  cases ht with
  | refused pkt refusal =>
    refine ⟨failed, ?_, ?_, ?_⟩
    · rw [accepted_append]
      exact (List.append_nil _).symm ▸ hs.packets
    · rw [List.countP_append, hforwarded]
      rfl
    · rw [refusals_append, List.length_append, hresults]
      rfl
  | accepted pkt =>
    refine ⟨failed, ?_, hforwarded, ?_⟩
    · rw [accepted_append, List.perm_iff_count]
      intro a
      have hcount := hs.packets.count_eq a
      simp only [List.count_append] at hcount ⊢
      change _ + List.count a [pkt] = _ + List.count a s.handled + _ + _
      omega
    · rw [refusals_append]
      exact hresults
  | @taken i pkt waits free =>
    refine ⟨failed, hs.pass rfl rfl ?_ rfl rfl⟩
    obtain ⟨hi, rfl⟩ := List.getElem?_eq_some_iff.mp waits
    have hperm := (List.perm_append_singleton s.waiting[i] _).trans (List.getElem_cons_eraseIdx_perm hi)
    rw [handled_free free, List.append_nil]
    exact (hperm.symm.append_right _).append_right _
  | @failed pkt place e held err =>
    refine ⟨failed ++ [pkt], hs.pass rfl rfl ?_ ?_ ?_⟩
    · rw [handled_packet held, handled_free (s := s.finish _) rfl, List.perm_iff_count]
      intro a
      simp only [State.finish, List.count_append, List.count_nil]
      omega
    · rw [State.finish, List.countP_append]
      rfl
    · simp only [State.finish, List.length_append, List.length_singleton]
      omega
  | bound held => exact ⟨failed, hs.hold held rfl rfl rfl rfl⟩
  | connected held => exact ⟨failed, hs.hold held rfl rfl rfl rfl⟩
  | spawned held => exact ⟨failed, hs.hold held rfl rfl rfl rfl⟩
  | inserted held => exact ⟨failed, hs.hold held rfl rfl rfl rfl⟩
  | @sent pkt socket e held =>
    refine ⟨failed, hs.pass rfl rfl ?_ ?_ ?_⟩
    · rw [handled_packet held, handled_free (s := State.finish _ _) rfl, List.perm_iff_count]
      intro a
      simp only [State.finish, List.map_append, List.map_singleton, List.count_append, List.count_nil]
      omega
    · simp only [State.finish, List.countP_append, List.length_append, List.length_singleton]
      change _ + 1 + _ = _
      omega
    · simp only [State.finish, List.length_append, List.length_singleton]
      omega
  | locked found free leaving =>
    refine ⟨failed, hs.pass rfl rfl ?_ rfl rfl⟩
    rw [handled_free free]
    exact List.Perm.refl _
  | removed found held =>
    refine ⟨failed, hs.pass rfl rfl ?_ rfl rfl⟩
    rw [State.handled, State.handled, held]
    exact List.Perm.refl _
  | relayed found body => exact ⟨failed, hs.pass rfl rfl (List.Perm.refl _) rfl rfl⟩

/-- A socket that has no relay yet. -/
def Section.unheard : Section → Option BackendId
  | .connecting k => some k
  | .spawning k => some k
  | _ => none

def Section.heard : Section → Option BackendId
  | .inserting k => some k
  | .sending k => some k
  | _ => none

abbrev State.listening (s : State) : List BackendId := s.relays.map (·.socket)

/-- Each backend socket has one relay that reads it, from before anything goes out on it. -/
structure Sockets (s : State) : Prop where
  bound : ∀ k ∈ s.listening, k < s.owners.length
  single : s.listening.Nodup
  unheard : ∀ pkt place k, s.holder = some (.packet pkt place) → place.unheard = some k →
    k < s.owners.length ∧ k ∉ s.listening
  heard : ∀ pkt place k, s.holder = some (.packet pkt place) → place.heard = some k → k ∈ s.listening
  out : ∀ x ∈ s.out, x.1 ∈ s.listening

theorem init_sockets : Sockets init := by
  refine ⟨?_, List.nodup_nil, nofun, nofun, ?_⟩ <;> simp [init]

theorem Sockets.pass {s t : State} (hs : Sockets s) (hl : t.listening = s.listening) (ho : t.owners = s.owners)
    (hh : ∀ pkt place, t.holder = some (.packet pkt place) → s.holder = some (.packet pkt place))
    (hout : ∀ x ∈ t.out, x.1 ∈ s.listening) : Sockets t := by
  refine ⟨?_, hl ▸ hs.single, ?_, ?_, hl ▸ hout⟩
  · rw [hl, ho]
    exact hs.bound
  · intro pkt place k held
    rw [hl, ho]
    exact hs.unheard pkt place k (hh pkt place held)
  · intro pkt place k held
    rw [hl]
    exact hs.heard pkt place k (hh pkt place held)

theorem Sockets.spawn {s t : State} {pkt : Packet} {socket : BackendId} (hs : Sockets s)
    (held : s.holder = some (.packet pkt (.spawning socket))) (hl : t.listening = s.listening ++ [socket])
    (ho : t.owners = s.owners) (hh : t.holder = some (.packet pkt (.inserting socket))) (hout : t.out = s.out) :
    Sockets t := by
  obtain ⟨hlt, hnew⟩ := hs.unheard _ _ _ held rfl
  refine ⟨?_, ?_, ?_, ?_, ?_⟩
  · rw [hl, ho]
    intro k hk
    rcases List.mem_append.mp hk with hk | hk
    · exact hs.bound k hk
    · exact List.mem_singleton.mp hk ▸ hlt
  · rw [hl, ← List.concat_eq_append]
    exact hs.single.concat hnew
  · rw [hh]
    rintro pkt' place k ⟨⟩ ⟨⟩
  · rw [hh, hl]
    rintro pkt' place k ⟨⟩ ⟨⟩
    exact List.mem_append_right _ (List.mem_singleton.mpr rfl)
  · rw [hout, hl]
    intro x hx
    exact List.mem_append_left _ (hs.out x hx)

theorem Sockets.turn {s t : State} {e : Event} (hs : Sockets s) (htable : Table s) (ht : Turn s e t) : Sockets t := by
  cases ht with
  | refused | accepted => exact ⟨hs.bound, hs.single, hs.unheard, hs.heard, hs.out⟩
  | @taken i pkt waits free =>
    refine ⟨hs.bound, hs.single, ?_, ?_, hs.out⟩
    · rintro pkt' place k ⟨⟩ hk
      cases hl : s.sessions.lookup pkt.client <;> rw [hl] at hk <;> cases hk
    · rintro pkt' place k ⟨⟩ hk
      cases hl : s.sessions.lookup pkt.client with
      | none =>
        rw [hl] at hk
        cases hk
      | some socket =>
        rw [hl] at hk
        cases hk
        -- a session in the table is that of a relay at work
        obtain ⟨rel, hm, -, hsocket, -⟩ := (htable.served _ _).mpr (Or.inl hl)
        exact List.mem_map.mpr ⟨rel, hm, hsocket⟩
  | failed => exact hs.pass rfl rfl nofun hs.out
  | @bound pkt e held =>
    refine ⟨?_, hs.single, ?_, ?_, hs.out⟩
    · intro k hk
      exact Nat.lt_of_lt_of_le (hs.bound k hk) (by simp)
    · rintro pkt' place k ⟨⟩ ⟨⟩
      exact ⟨by simp, fun hk => absurd (hs.bound _ hk) (Nat.lt_irrefl _)⟩
    · rintro pkt' place k ⟨⟩ ⟨⟩
  | connected held =>
    refine ⟨hs.bound, hs.single, ?_, ?_, hs.out⟩
    · rintro pkt' place k ⟨⟩ ⟨⟩
      exact hs.unheard _ _ _ held rfl
    · rintro pkt' place k ⟨⟩ ⟨⟩
  | spawned held => exact hs.spawn held (List.map_append ..) rfl rfl rfl
  | inserted held =>
    refine ⟨hs.bound, hs.single, ?_, ?_, hs.out⟩
    · rintro pkt' place k ⟨⟩ ⟨⟩
    · rintro pkt' place k ⟨⟩ ⟨⟩
      exact hs.heard _ _ _ held rfl
  | sent held =>
    refine hs.pass rfl rfl nofun ?_
    intro x hx
    rcases List.mem_append.mp hx with hx | hx
    · exact hs.out x hx
    · exact List.mem_singleton.mp hx ▸ hs.heard _ _ _ held rfl
  | locked => exact hs.pass rfl rfl nofun hs.out
  | removed found held => exact hs.pass (map_set_same _ found rfl) rfl nofun hs.out
  | relayed found body =>
    exact hs.pass (map_set_same _ found (relayBody_move body).same.2) rfl (fun _ _ held => held) hs.out

theorem run_accounts {es : List Event} {s : State} (hrun : run h es = some s) : ∃ failed, Accounts es s failed := by
  apply Transitions.run_history (I := fun es s => ∃ failed, Accounts es s failed) hrun
  · exact ⟨[], List.Perm.refl _, rfl, rfl⟩
  · rintro es u e t - ⟨failed, hu⟩ he
    exact hu.turn (step_turn he)

theorem run_sockets {es : List Event} {s : State} (hrun : run h es = some s) : Sockets s := by
  have hboth : Table s ∧ Sockets s := by
    apply Transitions.run_invariant (I := fun s => Table s ∧ Sockets s) hrun ⟨init_table, init_sockets⟩
    intro u e t hu he
    exact ⟨hu.1.step he, hu.2.turn hu.1 (step_turn he)⟩
  exact hboth.2

/-- The one relay that reads the socket; it answers to the client of the packet. -/
def Heard (s : State) (x : BackendId × Packet) : Prop :=
  ∃ r rel, s.relays[r]? = some rel ∧ rel.socket = x.1 ∧ rel.client = x.2.client ∧ rel.Answers ∧
    ∀ (r' : RelayId) (rel' : Relay), s.relays[r']? = some rel' → rel'.socket = x.1 → r' = r

theorem out_heard {es : List Event} {s : State} (hrun : run h es = some s) {x : BackendId × Packet} (hx : x ∈ s.out) :
    Heard s x := by
  have hsockets := run_sockets hrun
  have hwired := run_wired hrun
  obtain ⟨rel, hm, hsocket⟩ := List.mem_map.mp (hsockets.out x hx)
  obtain ⟨r, hr⟩ := List.getElem?_of_mem hm
  have howner := (hwired.relays rel hm).1
  rw [hsocket, hwired.out x hx] at howner
  refine ⟨r, rel, hr, hsocket, (Option.some.inj howner).symm, (hwired.relays rel hm).2, ?_⟩
  intro r' rel' hr' hsocket'
  have hget : s.listening[r]? = some x.1 := by rw [List.getElem?_map, hr, Option.map_some, hsocket]
  have hget' : s.listening[r']? = some x.1 := by rw [List.getElem?_map, hr', Option.map_some, hsocket']
  exact (List.getElem?_inj (List.getElem?_eq_some_iff.mp hget').1 hsockets.single).mp (hget'.trans hget.symm)

/-- In every run a packet that `check_security` lets through waits, is in hand, has gone out once and unchanged, or has
failed, each call returns one result, and what goes out goes out on a socket whose replies one relay sends back to the
client the packet came from. -/
theorem udp_packets_accounted {es : List Event} {s : State} (hrun : run h es = some s) :
    (∃ failed, Accounts es s failed) ∧ ∀ x ∈ s.out, Heard s x :=
  ⟨run_accounts hrun, fun _ hx => out_heard hrun hx⟩

theorem sample_packets_accounted :
    ∃ s, run sampleHandler sampleSessions = some s ∧ s.out = [(0, samplePacket), (1, samplePacket)] ∧
      ∀ x ∈ s.out, Heard s x := by
  have hrun : (run sampleHandler sampleSessions).map (·.out) = some [(0, samplePacket), (1, samplePacket)] := by
    decide +kernel
  obtain ⟨s, hs, hout⟩ := Option.map_eq_some_iff.mp hrun
  exact ⟨s, hs, hout, (udp_packets_accounted hs).2⟩

end GscFq.UdpSessions
