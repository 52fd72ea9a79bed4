import GscFq.StealthLimit

namespace GscFq.Stealth

open StealthConnectionHandler

variable {h : StealthConnectionHandler} {m : ℕ} {ip : IpAddr}

def Event.isUdp : Event → Bool
  | .udp _ => true
  | _ => false

def socketKept (ip : IpAddr) (s : State) : Event → Bool
  | .tcp c (.optimize again nodelay) =>
    (s.conns[c]?).all (fun conn => conn.peer != some ip || (nodelay == none && again == some ip))
  | _ => true

/-- No slot of `ip` is taken, and the connection limit turns no further connection of `ip` away. -/
def SlotsReturned (h : StealthConnectionHandler) (ip : IpAddr) (s : State) : Prop :=
  s.ipStats.active ip = 0 ∧ ∀ now, (h.checkSecurity now ip s.ipStats).1 ≠ .error .maxConnections

def Conn.optimized (c : Conn) : Bool :=
  match c.stage with
  | .forwarding | .releasing _ | .returned _ => c.passed
  | _ => false

def Conn.Smooth (ip : IpAddr) (c : Conn) : Prop :=
  c.peer = some ip → c.optimized = true → c.nodelay = none ∧ c.again = some ip

theorem Move.smooth_iff {now : ℕ} {conn conn' : Conn} {ipStats ipStats' : IpStats} {e : TcpEvent} (hc : ConnOk conn)
    (hv : Move h now conn ipStats e conn' ipStats') (ip : IpAddr) :
    conn'.Smooth ip ↔ conn.Smooth ip ∧
      ∀ again nodelay, e = .optimize again nodelay → conn.peer = some ip → nodelay = none ∧ again = some ip := by
  cases hv with
  | unknown before | count before => simp [Conn.Smooth, Conn.optimized, before]
  | admitted before | refused before =>
    simp only [ConnOk, before] at hc
    simp [Conn.Smooth, Conn.optimized, hc, Conn.start]
  | optimized before | nodelay before =>
    simp only [ConnOk, before] at hc
    by_cases hp : conn.peer = some ip
    · simp [Conn.Smooth, Conn.optimized, before, hp, hc.2.1, hc.2.2 (by simp [hp])]
    · simp [Conn.Smooth, hp]
  | forwarded before | release before => simp [Conn.Smooth, Conn.optimized, before]

theorem socketKept_tcp {s : State} {c : ConnId} {e : TcpEvent} {conn : Conn} (hconn : s.conns[c]? = some conn) :
    socketKept ip s (.tcp c e) = true ↔
      ∀ again nodelay, e = .optimize again nodelay → conn.peer = some ip → nodelay = none ∧ again = some ip := by
  cases e with
  | optimize again nodelay =>
    simp only [socketKept, hconn, Option.all_some]
    by_cases hpeer : conn.peer = some ip
    · simp [hpeer]
    · simp [hpeer]
  | check peer | count | forwarded result | release => simp [socketKept]

theorem Effect.smooth_iff {s : State} {e : Event} {ipStats' : IpStats} {conns' : List Conn}
    (he : Effect h s e ipStats' conns') (hs : ∀ conn ∈ s.conns, ConnOk conn) :
    (∀ conn ∈ conns', conn.Smooth ip) ↔ (∀ conn ∈ s.conns, conn.Smooth ip) ∧ socketKept ip s e = true := by
  cases he with
  | quiet tcp =>
    have hkept : socketKept ip s e = true := by
      unfold socketKept
      split
      · exact absurd rfl (tcp _ _)
      · rfl
    simp [hkept]
  | accept => simp [socketKept, Conn.Smooth, Conn.start, or_imp, forall_and]
  | udp => simp [socketKept]
  | tcp before moved =>
    apply Lists.forall_set_iff before
    rw [socketKept_tcp before]
    exact moved.smooth_iff (hs _ (List.mem_of_getElem? before)) ip

theorem run_smooth_iff {es : List Event} {s : State} (hrun : run h es = some s) (ip : IpAddr) :
    (∀ conn ∈ s.conns, conn.Smooth ip) ↔
      ∀ u e, Transitions.Occurs (step h) init es u e → socketKept ip u e = true := by
  apply Transitions.run_iff_occurs (I := fun u => ∀ conn ∈ u.conns, ConnOk conn) hrun
  · simp [init]
  · simp [init]
  · intro u e t hu he
    exact (step_effect he).connOk hu
  · intro u e t hu he
    exact (step_effect he).smooth_iff hu

theorem run_active_eq {es : List Event} {s : State} (hm : h.maxConnsPerIp = some m) (hrun : run h es = some s)
    (htcp : ∀ e ∈ es, e.isUdp = false)
    (hk : ∀ u e, Transitions.Occurs (step h) init es u e → peerKept u e = true) (ip : IpAddr) :
    s.ipStats.active ip = s.conns.countP (Conn.holds ip) := by
  have hboth : Slots m s.ipStats s.conns ∧ s.ipStats.active ip = s.conns.countP (Conn.holds ip) := by
    apply Transitions.run_invariant_occurs (C := fun u e => peerKept u e = true ∧ e.isUdp = false)
      (I := fun u => Slots m u.ipStats u.conns ∧ u.ipStats.active ip = u.conns.countP (Conn.holds ip)) hrun
    · intro u e hocc
      exact ⟨hk u e hocc, htcp e hocc.mem⟩
    · exact ⟨init_slots m, by simp [init, IpStats.active]⟩
    · rintro u e t ⟨hku, hudp⟩ ⟨hu, heq⟩ he
      refine ⟨hu.effect hm hku (step_effect he), ?_⟩
      rcases hu.conserves hm hku (step_effect he) ip with hcons | ⟨⟨addr, rfl⟩, -⟩
      · omega
      · cases hudp
  exact hboth.2

theorem Conn.holds_iff_smooth {c : Conn} (hc : ConnOk c) (hend : c.peer = some ip → c.stage.isReturned = true) :
    c.holds ip = false ↔ c.Smooth ip := by
  by_cases hp : c.peer = some ip
  · cases hs : c.stage with
    | returned result =>
      simp only [ConnOk, hs] at hc
      cases hpass : c.passed with
      | false => simp [Conn.holds, Conn.Smooth, Conn.optimized, hs, hpass]
      | true =>
        have hfwd := hc hpass
        simp only [Conn.holds, Conn.gaveBack, Conn.Smooth, Conn.optimized, hs, hp, hpass, Stage.isReturned]
        simp [← hfwd]
    | accepted | counting | optimizing | forwarding | releasing =>
      have hret := hend hp
      rw [hs] at hret
      cases hret
  · simp [Conn.holds, Conn.Smooth, hp]

theorem slots_returned_iff (hm : h.maxConnsPerIp = some m) {es : List Event} {s : State} (hrun : run h es = some s)
    (htcp : ∀ e ∈ es, e.isUdp = false)
    (hk : ∀ u e, Transitions.Occurs (step h) init es u e → peerKept u e = true)
    (hend : ∀ conn ∈ s.conns, conn.peer = some ip → conn.stage.isReturned = true) :
    SlotsReturned h ip s ↔ (m = 0 → h.allows ip = false) ∧
      ∀ u e, Transitions.Occurs (step h) init es u e → socketKept ip u e = true := by
  have hok := (run_slots hm hrun hk).ok
  have hzero : s.ipStats.active ip = 0 ↔ ∀ conn ∈ s.conns, conn.Smooth ip := by
    rw [run_active_eq hm hrun htcp hk, List.countP_eq_zero]
    refine forall₂_congr ?_
    intro conn hconn
    rw [Bool.not_eq_true]
    exact Conn.holds_iff_smooth (hok conn hconn) (hend conn hconn)
  rw [← run_smooth_iff hrun ip, ← hzero, SlotsReturned, and_comm]
  refine and_congr_left ?_
  intro hactive
  simp only [ne_eq, checkSecurity_limited_iff hm, hactive, Nat.le_zero]
  constructor
  · intro hnot hm0
    simpa [hm0] using hnot 0
  · rintro hallow - ⟨hall, hm0⟩
    rw [hallow hm0] at hall
    cases hall

def sampleForwarded : List Event :=
  [.accept, .tcp 0 (.check (some sampleIp)), .tcp 0 .count, .tcp 0 (.optimize (some sampleIp) none),
    .tcp 0 (.forwarded (.ok ())), .tcp 0 .release]

theorem sample_slot_returned :
    ∃ s, run sampleStealth sampleForwarded = some s ∧ s.conns.countP Conn.passed = 1 ∧
      SlotsReturned sampleStealth sampleIp s := by
  have hrun : (run sampleStealth sampleForwarded).map
      (fun s => (s.conns.countP Conn.passed, s.conns.all (fun conn => conn.stage.isReturned))) = some (1, true) := by
    decide +kernel
  have hsteps : ∀ p ∈ Transitions.steps (step sampleStealth) init sampleForwarded,
      peerKept p.1 p.2 = true ∧ socketKept sampleIp p.1 p.2 = true := by decide +kernel
  obtain ⟨s, hs, hend⟩ := Option.map_eq_some_iff.mp hrun
  obtain ⟨hone, hall⟩ := Prod.mk.inj hend
  refine ⟨s, hs, hone, (slots_returned_iff rfl hs (by decide) ?_ ?_).mpr ⟨by simp, ?_⟩⟩
  · intro u e hocc
    exact (hsteps (u, e) hocc.mem_steps).1
  · intro conn hconn _
    exact List.all_eq_true.mp hall conn hconn
  · intro u e hocc
    exact (hsteps (u, e) hocc.mem_steps).2

def sampleNodelay : List Event :=
  [.accept, .tcp 0 (.check (some sampleIp)), .tcp 0 .count,
    .tcp 0 (.optimize (some sampleIp) (some ⟨"Invalid argument (os error 22)"⟩))]

theorem nodelay_slot_lost :
    ∃ s, run sampleStealth sampleNodelay = some s ∧ (∀ conn ∈ s.conns, conn.stage.isReturned = true) ∧
      s.ipStats.active sampleIp = 1 ∧
      (sampleStealth.checkSecurity 0 sampleIp s.ipStats).1 = .error .maxConnections ∧
      ¬ SlotsReturned sampleStealth sampleIp s := by
  have hrun : (run sampleStealth sampleNodelay).map
      (fun s => (s.conns.all (fun conn => conn.stage.isReturned), s.ipStats.active sampleIp)) = some (true, 1) := by
    decide +kernel
  obtain ⟨s, hs, hfacts⟩ := Option.map_eq_some_iff.mp hrun
  obtain ⟨hall, hactive⟩ := Prod.mk.inj hfacts
  refine ⟨s, hs, fun conn hconn => List.all_eq_true.mp hall conn hconn, hactive, ?_, ?_⟩
  · rw [checkSecurity_limited_iff rfl, hactive]
    exact ⟨rfl, le_rfl⟩
  · rintro ⟨hzero, -⟩
    rw [hactive] at hzero
    cases hzero

end GscFq.Stealth
