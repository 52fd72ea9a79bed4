import GscFq.UdpExchangeRuns

namespace GscFq.UdpExchange

open ByteStream HandleClient GscFq.Lists Routing Tunnel

variable {configs : List ReverseProxyConfig}

/-- A stream before and after a step, or a new one. -/
def Kept (configs : List ReverseProxyConfig) (s : Routing.State) (k : ℕ) (t' : TunnelStream) : Prop :=
  (∃ t, s.streams[k]? = some t ∧ t'.request = t.request ∧
    (t'.client = t.client ∨ ∃ e, t.client.step configs e = some t'.client)) ∨
  (s.streams[k]? = none ∧ t'.client.outcome = none)

theorem Turn.kept {s s' : Routing.State} {e : Routing.Event} (h : Turn configs s e s') {k : ℕ} {t' : TunnelStream}
    (ht : s'.streams[k]? = some t') : Kept configs s k t' := by
  cases h with
  | take | release | enqueue | receive | discard => exact Or.inl ⟨t', ht, rfl, Or.inl rfl⟩
  | opened quiet current =>
    by_cases hk : k < s.streams.length
    · rw [List.getElem?_append_left hk] at ht
      exact Or.inl ⟨t', ht, rfl, Or.inl rfl⟩
    · have hnone := List.getElem?_eq_none (Nat.le_of_not_lt hk)
      rcases getElem?_snoc_some ht with hold | ⟨-, rfl⟩
      · exact absurd (hold.symm.trans hnone) (by simp)
      · exact Or.inr ⟨hnone, rfl⟩
  | @stream _ i t u dropped quiet stream request client =>
    rcases getElem?_set_some ht with ⟨rfl, rfl⟩ | ⟨-, hold⟩
    · exact Or.inl ⟨t, stream, request, client⟩
    · exact Or.inl ⟨t', hold, rfl, Or.inl rfl⟩

theorem Turn.requests {s s' : Routing.State} {e : Routing.Event} (h : Turn configs s e s') {k : ℕ} {t : TunnelStream}
    (ht : s.streams[k]? = some t) : ∃ t', s'.streams[k]? = some t' ∧ t'.request = t.request := by
  have hk := (List.getElem?_eq_some_iff.mp ht).1
  cases h with
  | take | release | enqueue | receive | discard => exact ⟨t, ht, rfl⟩
  | opened quiet current => exact ⟨t, by rw [List.getElem?_append_left hk, ht], rfl⟩
  | @stream _ i u u' dropped quiet stream request client =>
    by_cases hik : i = k
    · subst hik
      obtain rfl := Option.some.inj (stream.symm.trans ht)
      exact ⟨u', by simp [hk], request⟩
    · exact ⟨t, by simp [hik, ht], rfl⟩

theorem Turn.short {s s' : Routing.State} {e : Routing.Event} (h : Turn configs s e s') :
    ∀ d ∈ readBy s e, d.data.length ≤ 65535 := by
  intro d hd
  cases h with
  | take listener free short =>
    simp only [readBy, listener, Option.toList_some, List.map_cons, List.map_nil, List.mem_singleton] at hd
    rw [hd]
    exact short
  | release quiet | enqueue quiet | receive quiet | opened quiet | discard quiet | stream quiet =>
    simp [quiet] at hd

structure Inv (configs : List ReverseProxyConfig) (s : State) : Prop where
  settled : Settled configs s.session
  placed : ∀ d, places s.session d ≤ s.received.count d
  short : ∀ d ∈ s.received, d.data.length ≤ 65535
  answered : ∀ k t data peer, s.session.streams[k]? = some t → t.request.body = .udp data peer →
    Answered configs t data peer (s.reader k) (s.repliesOf k)
  known : ∀ r ∈ s.sent, ∃ t data peer, s.session.streams[r.stream]? = some t ∧ t.request.body = .udp data peer
  fresh : ∀ k, s.session.streams[k]? = none → s.reader k = .fresh

theorem Inv.repliesOf_fresh {s : State} (hs : Inv configs s) {k : ℕ} (hk : s.session.streams[k]? = none) :
    s.repliesOf k = [] := by
  rw [State.repliesOf, List.map_eq_nil_iff, List.filter_eq_nil_iff]
  intro r hr hkr
  obtain ⟨t, data, peer, ht, -⟩ := hs.known r hr
  rw [of_decide_eq_true hkr, hk] at ht
  cases ht

theorem Inv.received {s : State} (hs : Inv configs s) {k : ℕ} {t : TunnelStream} {data : Bytes} {peer : SocketAddr}
    (ht : s.session.streams[k]? = some t) (hb : t.request.body = .udp data peer) :
    ⟨t.request.targetPort, peer, data⟩ ∈ s.received := by
  have hreq : asksFor ⟨t.request.targetPort, peer, data⟩ t.request = true := by
    simp only [asksFor, decide_eq_true_eq, ← hb]
  have hpos : 0 < s.session.streams.countP (fun u => asksFor ⟨t.request.targetPort, peer, data⟩ u.request) :=
    List.countP_pos_iff.mpr ⟨t, List.mem_of_getElem? ht, hreq⟩
  have hle := hs.placed ⟨t.request.targetPort, peer, data⟩
  rw [places] at hle
  exact List.count_pos_iff.mp (by omega)

theorem Inv.ofSession {s : State} (hs : Inv configs s) {e : Routing.Event} {session : Routing.State}
    (h : Routing.step configs s.session e = some session) :
    Inv configs { s with session := session, received := s.received ++ readBy s.session e } := by
  have hturn := step_turn h
  refine ⟨hs.settled.move (step_move h), ?_, ?_, ?_, ?_, ?_⟩
  · intro d
    have hle := hturn.places d
    have hold := hs.placed d
    rw [List.count_append]
    exact hle.trans (Nat.add_le_add_right hold _)
  · intro d hd
    rcases List.mem_append.mp hd with hd | hd
    · exact hs.short d hd
    · exact hturn.short d hd
  · intro k t' data peer ht hb
    rcases hturn.kept ht with ⟨t, hold, hreq, hclient⟩ | ⟨hnone, hout⟩
    · have hans := hs.answered k t data peer hold (hreq ▸ hb)
      have hshort := hs.short _ (hs.received hold (hreq ▸ hb))
      obtain ⟨more, hmore⟩ := sent_prefix (hs.settled.streams t (List.mem_of_getElem? hold)).2
      rw [openFrame, ← hreq, hb] at hmore
      rcases hclient with hclient | ⟨ev, hclient⟩
      · refine ⟨by rw [hreq, hclient]; exact hans.exchanged, ?_, hans.read, by rw [hreq]; exact hans.replies⟩
        rw [written, hclient]
        exact hans.arrived
      · obtain ⟨hex, hkeep⟩ := (hreq ▸ hans.exchanged).step hshort ((List.prefix_append _ _).trans hmore) hclient
        refine ⟨hex, ?_, hans.read, by rw [hreq]; exact hans.replies⟩
        rcases hkeep with hkeep | hnone
        · rw [written, hkeep]
          exact hans.arrived
        · have hempty := hans.arrived
          rw [written, hnone] at hempty
          rw [List.prefix_nil.mp hempty]
          exact List.nil_prefix
    · have hreader := hs.fresh k hnone
      have hreplies := hs.repliesOf_fresh hnone
      refine ⟨fun o ho => absurd ho (by simp [hout]), ?_, ?_, ?_⟩
      · simp [hreader, Reader.fresh]
      · simp [hreader, Reader.fresh]
      · rw [State.repliesOf] at hreplies ⊢
        simp [hreplies]
  · intro r hr
    obtain ⟨t, data, peer, ht, hb⟩ := hs.known r hr
    obtain ⟨t', ht', hreq⟩ := hturn.requests ht
    exact ⟨t', data, peer, ht', by rw [hreq, hb]⟩
  · intro k hk
    apply hs.fresh k
    by_contra hne
    obtain ⟨t, ht⟩ := Option.ne_none_iff_exists'.mp hne
    obtain ⟨t', ht', -⟩ := hturn.requests ht
    simp only at hk
    rw [hk] at ht'
    cases ht'

theorem repliesOf_append (s : State) (reader : ℕ → Reader) (sent : List Reply) (k : ℕ) :
    { s with reader := reader, sent := s.sent ++ sent }.repliesOf k =
      s.repliesOf k ++ (sent.filter (·.stream = k)).map (·.datagram) := by
  simp [State.repliesOf]

/-- A step of the task of one stream changes that stream's reader and sends for that stream only. -/
theorem Inv.ofReader {s : State} (hs : Inv configs s) {k : ℕ} {t : TunnelStream} {data : Bytes} {peer : SocketAddr}
    (ht : s.session.streams[k]? = some t) (hb : t.request.body = .udp data peer) {r : Reader} {sent : List Reply}
    (hmine : ∀ x ∈ sent, x.stream = k)
    (ha : Answered configs t data peer r (s.repliesOf k ++ sent.map (·.datagram))) :
    Inv configs { s with reader := Function.update s.reader k r, sent := s.sent ++ sent } := by
  refine ⟨hs.settled, hs.placed, hs.short, ?_, ?_, ?_⟩
  · intro j u data' peer' hu hbu
    rw [repliesOf_append]
    by_cases hjk : j = k
    · subst hjk
      obtain rfl := Option.some.inj (ht.symm.trans hu)
      obtain ⟨rfl, rfl⟩ := Body.udp.inj (hb.symm.trans hbu)
      have hall : sent.filter (·.stream = j) = sent := List.filter_eq_self.mpr (fun x hx => by simp [hmine x hx])
      simp only [hall, Function.update_self]
      exact ha
    · have hnone : sent.filter (·.stream = j) = [] :=
        List.filter_eq_nil_iff.mpr (fun x hx => by simp [hmine x hx, Ne.symm hjk])
      simp only [hnone, Function.update_of_ne hjk, List.map_nil, List.append_nil]
      exact hs.answered j u data' peer' hu hbu
  · intro x hx
    rcases List.mem_append.mp hx with hx | hx
    · exact hs.known x hx
    · exact ⟨t, data, peer, by rw [hmine x hx]; exact ht, hb⟩
  · intro j hj
    have hjk : j ≠ k := by
      rintro rfl
      exact absurd (ht.symm.trans hj) (by simp)
    simp only [Function.update_of_ne hjk]
    exact hs.fresh j hj

theorem Inv.ofTask {s s' : State} (hs : Inv configs s) {k : ℕ} {e : Event} (h : taskStep s k e = some s') :
    Inv configs s' := by
  obtain ⟨t, ht, h⟩ := Option.bind_eq_some_iff.mp h
  split at h
  · cases h
  · rename_i data peer hb
    have ha := hs.answered k t data peer ht hb
    cases e with
    | session e => cases h
    | arrive k' n =>
      cases h
      have hinv := @Inv.ofReader configs s hs k t data peer ht hb ((s.reader k).arrive (written t) n) [] (by simp) ?_
      · rw [List.append_nil] at hinv
        exact hinv
      · obtain ⟨tail, htail⟩ := ha.arrived
        refine ⟨ha.exchanged, ?_, ?_, by simpa [Reader.arrive] using ha.replies⟩
        · simp only [Reader.arrive, ← htail, List.drop_left]
          exact List.prefix_append_right_inj _ |>.mpr (List.take_prefix _ _)
        · simp only [Reader.arrive]
          rw [ha.read, List.append_assoc, ← ha.read]
    | respond k' sent =>
      simp only [readerStep] at h
      split at h
      · obtain ⟨⟨response, rest⟩, hr, rfl⟩ := Option.map_eq_some_iff.mp h
        have hframe := responseRound_frame hr
        simp only [Stream.bytes, List.flatten_cons, List.flatten_nil, List.append_nil] at hframe
        apply hs.ofReader ht hb
        · intro x hx
          split at hx
          · rw [List.mem_singleton.mp hx]
          · cases hx
        · refine ⟨ha.exchanged, ha.arrived, ?_, ?_⟩
          · rw [ha.read, hframe]
            simp [Stream.bytes]
          · rw [List.map_append]
            apply ha.replies.append
            cases sent <;> simp
      · cases h
    | leave k' =>
      cases h
      have hinv := @Inv.ofReader configs s hs k t data peer ht hb ({ s.reader k with left := true }) [] (by simp) ?_
      · rw [List.append_nil] at hinv
        exact hinv
      · exact ⟨ha.exchanged, ha.arrived, ha.read, by simpa using ha.replies⟩

theorem Inv.step {s s' : State} {e : Event} (hs : Inv configs s) (h : step configs s e = some s') :
    Inv configs s' := by
  cases e with
  | session e =>
    obtain ⟨session, hstep, rfl⟩ := Option.map_eq_some_iff.mp h
    exact hs.ofSession hstep
  | arrive k n | respond k sent | leave k => exact hs.ofTask h

theorem init_inv (proxies : List ReverseProxyConfig) (bound : List (Bool × Bool)) :
    Inv proxies (init proxies bound) := by
  have hfree := openListeners_free proxies bound
  refine ⟨(Routing.init_inv proxies bound).settled, ?_, by simp [init], by simp [init, Routing.init], by simp [init],
    by simp [init]⟩
  intro d
  have hnone : (openListeners proxies bound).countP (holdsDatagram d) = 0 := by
    rw [List.countP_eq_zero]
    intro x hx
    simp [holdsDatagram, (hfree x hx).1]
  simp [places, init, Routing.init, hnone]

def samplePeer : SocketAddr := .new (.v4 10 0 0 7) 4000

end GscFq.UdpExchange
