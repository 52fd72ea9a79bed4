import GscFq.StealthLimit

namespace GscFq.Stealth

open StealthConnectionHandler

variable {h : StealthConnectionHandler} {m : ℕ} {ip : IpAddr}

def Event.isTcp : Event → Bool
  | .accept | .tcp _ _ => true
  | _ => false

def State.sessions (s : State) (ip : IpAddr) : ℕ := s.udpSessions.keys.countP (fun addr => addr.ip == ip)

def State.waiting (s : State) (ip : IpAddr) : ℕ := s.packets.countP (fun addr => addr.ip == ip)

/-- In a run, each slot that UDP traffic of `ip` holds goes with a live session. A packet that was let
in and still waits for the lock of the sessions stands for the session it is about to open. -/
structure UdpSlotsMatch (h : StealthConnectionHandler) (ip : IpAddr) (es : List Event) : Prop where
  covered : Transitions.Along (step h) (fun u => u.ipStats.active ip ≤ u.sessions ip + u.waiting ip) init es
  admitted : ∀ u addr, Transitions.Occurs (step h) init es u (.udp addr) → addr.ip = ip →
    (u.udpSessions.lookup addr).isSome = true → (h.checkSecurity u.now ip u.ipStats).1 ≠ .error .maxConnections
  released : Transitions.Along (step h)
    (fun u => u.sessions ip = 0 → u.waiting ip = 0 → u.ipStats.active ip = 0) init es

def opens (s : State) (addr : SocketAddr) (io : UdpIo) : Bool :=
  (s.udpSessions.lookup addr).isNone && io.bind.isNone && io.connect.isNone

/-- The step leaves a slot of `ip` behind: a packet that was let in opens no session, or a session
ends. -/
def losesSlot (ip : IpAddr) (s : State) : Event → Bool
  | .forward addr io => addr.ip == ip && !opens s addr io
  | .expire addr => addr.ip == ip
  | _ => false

/-- A packet of a live session comes while the sessions of its IP fill the limit. -/
def crowded (h : StealthConnectionHandler) (m : ℕ) (ip : IpAddr) (s : State) : Event → Bool
  | .udp addr =>
    addr.ip == ip && (s.udpSessions.lookup addr).isSome && h.allows ip && decide (m ≤ s.sessions ip + s.waiting ip)
  | _ => false

theorem handleUdpPacket_balance (hm : h.maxConnsPerIp = some m) (ip : IpAddr) (s : State) (addr : SocketAddr) :
    (handleUdpPacket h s addr).2.udpSessions = s.udpSessions ∧
      (handleUdpPacket h s addr).2.ipStats.active ip + s.waiting ip =
        s.ipStats.active ip + (handleUdpPacket h s addr).2.waiting ip := by
  have hcheck := checkSecurity_check hm s.now addr.ip s.ipStats
  unfold handleUdpPacket
  split
  · rename_i r after hc
    rw [hc] at hcheck
    refine ⟨rfl, ?_⟩
    show after.active ip + s.waiting ip = s.ipStats.active ip + s.waiting ip
    rw [hcheck.same ip]
  · rename_i after hc
    rw [hc] at hcheck
    refine ⟨rfl, ?_⟩
    show after.active ip + s.waiting ip = s.ipStats.active ip + (s.packets ++ [addr]).countP (fun a => a.ip == ip)
    rw [hcheck.counted ip, List.countP_append, List.countP_singleton]
    simp only [State.waiting, beq_iff_eq, eq_comm (a := ip)]
    omega

theorem forwardUdp_balance (ip : IpAddr) (s : State) (addr : SocketAddr) (io : UdpIo) :
    (forwardUdp h s addr io).2.ipStats = s.ipStats ∧ (forwardUdp h s addr io).2.packets = s.packets ∧
      (forwardUdp h s addr io).2.sessions ip = s.sessions ip + if opens s addr io && addr.ip == ip then 1 else 0 := by
  unfold forwardUdp opens
  split
  · rename_i hl
    simp [hl]
  · rename_i hl
    split
    · rename_i hb
      simp [hb]
    · rename_i hb hc
      simp [hb, hc]
    · rename_i hb hc
      refine ⟨rfl, rfl, ?_⟩
      have hnot : addr ∉ s.udpSessions.keys := AList.lookup_eq_none.mp hl
      simp [State.sessions, AList.keys_insert, List.erase_of_not_mem hnot, List.countP_cons, hb, hc, hl]

theorem step_balance {s s' : State} {e : Event} (hm : h.maxConnsPerIp = some m) (hudp : e.isTcp = false)
    (he : step h s e = some s') (ip : IpAddr) :
    s'.ipStats.active ip + (s.sessions ip + s.waiting ip) =
      s.ipStats.active ip + (s'.sessions ip + s'.waiting ip) + if losesSlot ip s e then 1 else 0 := by
  cases e with
  | advance nanos =>
    cases he
    rfl
  | accept | tcp c e => cases hudp
  | udp addr =>
    cases he
    obtain ⟨hsess, hbal⟩ := handleUdpPacket_balance hm ip s addr
    have hsame : (handleUdpPacket h s addr).2.sessions ip = s.sessions ip := by rw [State.sessions, hsess]; rfl
    simp only [losesSlot, Bool.false_eq_true, if_false, hsame]
    omega
  | forward addr io =>
    simp only [step] at he
    split at he <;> cases he
    rename_i hmem
    obtain ⟨hstats, hpackets, hsess⟩ :=
      forwardUdp_balance (h := h) ip { s with packets := s.packets.erase addr } addr io
    have herase := Lists.countP_erase_add (fun a : SocketAddr => a.ip == ip) hmem
    have hopens : opens { s with packets := s.packets.erase addr } addr io = opens s addr io := rfl
    have hsame : State.sessions { s with packets := s.packets.erase addr } ip = s.sessions ip := rfl
    rw [hopens, hsame] at hsess
    rw [hstats, hsess, State.waiting, State.waiting, hpackets, ← herase, losesSlot]
    by_cases hip : addr.ip = ip
    · cases opens s addr io <;> simp [hip] <;> omega
    · simp [hip]
  | expire addr =>
    simp only [step] at he
    split at he <;> cases he
    rename_i hmem
    have herase := Lists.countP_erase_add (fun a : SocketAddr => a.ip == ip) (AList.lookup_isSome.mp hmem)
    have hsess : s.sessions ip =
        State.sessions { s with udpSessions := s.udpSessions.erase addr } ip + if addr.ip == ip then 1 else 0 := by
      rw [State.sessions, State.sessions, AList.keys_erase, herase]
    rw [hsess, losesSlot]
    show s.ipStats.active ip + (_ + _ + s.waiting ip) = s.ipStats.active ip + (_ + s.waiting ip) + _
    omega

theorem refused_iff_crowded (hm : h.maxConnsPerIp = some m) {s : State} {addr : SocketAddr}
    (hs : s.ipStats.active ip = s.sessions ip + s.waiting ip) :
    (addr.ip = ip → (s.udpSessions.lookup addr).isSome = true →
      (h.checkSecurity s.now ip s.ipStats).1 ≠ .error .maxConnections) ↔ crowded h m ip s (.udp addr) = false := by
  rw [ne_eq, checkSecurity_limited_iff hm, hs, ← Bool.not_eq_true]
  simp only [crowded, Bool.and_eq_true, beq_iff_eq, decide_eq_true_eq]
  tauto

def StepMatches (h : StealthConnectionHandler) (ip : IpAddr) (u : State) (e : Event) : Prop :=
  (∀ t, step h u e = some t → t.ipStats.active ip ≤ t.sessions ip + t.waiting ip) ∧
    ∀ addr, e = .udp addr → addr.ip = ip → (u.udpSessions.lookup addr).isSome = true →
      (h.checkSecurity u.now ip u.ipStats).1 ≠ .error .maxConnections

theorem init_sessions (ip : IpAddr) : init.ipStats.active ip = init.sessions ip + init.waiting ip := rfl

theorem udpSlotsMatch_iff_steps {es : List Event} :
    UdpSlotsMatch h ip es ↔ ∀ u e, Transitions.Occurs (step h) init es u e → StepMatches h ip u e := by
  constructor
  · intro hmatch u e hocc
    constructor
    · intro t ht
      exact (Transitions.along_iff_occurs.mp hmatch.covered).2 u e t hocc ht
    · rintro addr rfl hip hlive
      exact hmatch.admitted u addr hocc hip hlive
  · intro hsteps
    have hcovered : Transitions.Along (step h) (fun u => u.ipStats.active ip ≤ u.sessions ip + u.waiting ip) init es := by
      refine Transitions.along_iff_occurs.mpr ⟨(init_sessions ip).le, ?_⟩
      intro u e t hocc ht
      exact (hsteps u e hocc).1 t ht
    refine ⟨hcovered, ?_, ?_⟩
    · intro u addr hocc
      exact (hsteps u _ hocc).2 addr rfl
    · intro before after u hes hu hnone hempty
      have hle := hcovered before after u hes hu
      simp only [hnone, hempty] at hle
      exact Nat.le_zero.mp hle

theorem stepMatches_iff (hm : h.maxConnsPerIp = some m) {u t : State} {e : Event} (hudp : e.isTcp = false)
    (hu : u.ipStats.active ip = u.sessions ip + u.waiting ip) (he : step h u e = some t) :
    StepMatches h ip u e ↔ losesSlot ip u e = false ∧ crowded h m ip u e = false := by
  have hbal := step_balance hm hudp he ip
  refine and_congr ?_ ?_
  · rw [he]
    cases hl : losesSlot ip u e with
    | true =>
      simp only [hl, if_true] at hbal
      simp only [Option.some.injEq, forall_eq', Bool.true_eq_false, iff_false, not_le]
      omega
    | false =>
      simp only [hl, Bool.false_eq_true, if_false] at hbal
      simp only [Option.some.injEq, forall_eq', iff_true]
      omega
  · cases e with
    | udp addr =>
      rw [← refused_iff_crowded hm hu]
      simp
    | advance | accept | tcp | forward | expire => simp [crowded]

theorem udp_slots_match_iff (hm : h.maxConnsPerIp = some m) {es : List Event} {s : State} (hrun : run h es = some s)
    (hudp : ∀ e ∈ es, e.isTcp = false) (ip : IpAddr) :
    UdpSlotsMatch h ip es ↔
      ∀ u e, Transitions.Occurs (step h) init es u e → losesSlot ip u e = false ∧ crowded h m ip u e = false := by
  rw [udpSlotsMatch_iff_steps]
  -- as long as no slot is lost, each of them has its session
  apply Transitions.forall_occurs_iff (I := fun u => u.ipStats.active ip = u.sessions ip + u.waiting ip) hrun
  · exact init_sessions ip
  · intro u e t hocc hu hC he
    have hbal := step_balance hm (hudp e hocc.mem) he ip
    simp only [hC.1, Bool.false_eq_true, if_false] at hbal
    omega
  · intro u e t hocc hu he
    exact stepMatches_iff hm (hudp e hocc.mem) hu he

def sampleSender : SocketAddr := .new sampleIp 50000

def samplePacket : List Event := [.udp sampleSender, .forward sampleSender ⟨none, none, none⟩]

theorem sample_udp_matched :
    (∃ s, run sampleStealth samplePacket = some s ∧ s.sessions sampleIp = 1) ∧
      UdpSlotsMatch sampleStealth sampleIp samplePacket := by
  have hrun : (run sampleStealth samplePacket).map (fun s => s.sessions sampleIp) = some 1 := by decide +kernel
  have hsteps : ∀ p ∈ Transitions.steps (step sampleStealth) init samplePacket,
      losesSlot sampleIp p.1 p.2 = false ∧ crowded sampleStealth 1 sampleIp p.1 p.2 = false := by decide +kernel
  obtain ⟨s, hs, hone⟩ := Option.map_eq_some_iff.mp hrun
  refine ⟨⟨s, hs, hone⟩, (udp_slots_match_iff rfl hs (by decide) sampleIp).mpr ?_⟩
  intro u e hocc
  exact hsteps (u, e) hocc.mem_steps

def sampleExpired : List Event := samplePacket ++ [.udp sampleSender, .expire sampleSender]

theorem udp_slot_left :
    (∃ u, run sampleStealth samplePacket = some u ∧ (u.udpSessions.lookup sampleSender).isSome = true ∧
      (sampleStealth.checkSecurity u.now sampleIp u.ipStats).1 = .error .maxConnections) ∧
    (∃ s, run sampleStealth sampleExpired = some s ∧ s.sessions sampleIp = 0 ∧ s.waiting sampleIp = 0 ∧
      s.ipStats.active sampleIp = 1) ∧
    ¬ UdpSlotsMatch sampleStealth sampleIp sampleExpired := by
  have hfirst : (run sampleStealth samplePacket).map
      (fun s => ((s.udpSessions.lookup sampleSender).isSome, s.ipStats.active sampleIp)) = some (true, 1) := by
    decide +kernel
  have hend : (run sampleStealth sampleExpired).map
      (fun s => (s.sessions sampleIp, s.waiting sampleIp, s.ipStats.active sampleIp)) = some (0, 0, 1) := by
    decide +kernel
  obtain ⟨u, hu, hufacts⟩ := Option.map_eq_some_iff.mp hfirst
  obtain ⟨hlive, hone⟩ := Prod.mk.inj hufacts
  obtain ⟨s, hs, hsfacts⟩ := Option.map_eq_some_iff.mp hend
  simp only [Prod.mk.injEq] at hsfacts
  obtain ⟨hsess, hwait, hactive⟩ := hsfacts
  refine ⟨⟨u, hu, hlive, ?_⟩, ⟨s, hs, hsess, hwait, hactive⟩, ?_⟩
  · rw [checkSecurity_limited_iff rfl, hone]
    exact ⟨rfl, le_rfl⟩
  · intro hmatch
    have hzero := hmatch.released sampleExpired [] s (by simp) hs hsess hwait
    rw [hactive] at hzero
    cases hzero

end GscFq.Stealth
