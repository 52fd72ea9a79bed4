import GscFq.StealthSlots

namespace GscFq.Stealth

open StealthConnectionHandler Transitions

variable {h : StealthConnectionHandler}

/-- `check_security` was asked about the address of connection `c` and let it in. -/
def Admitted (h : StealthConnectionHandler) (es : List Event) (c : ConnId) : Prop :=
  ∃ ip v, Occurs (step h) init es v (.tcp c (.check (some ip))) ∧
    (h.checkSecurity v.now ip v.ipStats).1 = .ok () ∧ h.allows ip = true

theorem checkSecurity_allows {now : ℕ} {ip : IpAddr} {ipStats : IpStats}
    (hc : (h.checkSecurity now ip ipStats).1 = .ok ()) : h.allows ip = true := by
  unfold checkSecurity at hc
  split at hc
  · cases hc
  · rename_i hallow
    simpa using hallow

theorem Admitted.append {es : List Event} {c : ConnId} (ha : Admitted h es c) (fs : List Event) :
    Admitted h (es ++ fs) c := by
  obtain ⟨ip, v, ho, hok, hallow⟩ := ha
  exact ⟨ip, v, ho.append fs, hok, hallow⟩

theorem admitted_snoc {es : List Event} {u : State} {e : Event} {c : ConnId} (hu : run h es = some u)
    (ha : Admitted h (es ++ [e]) c) :
    Admitted h es c ∨ ∃ ip, e = .tcp c (.check (some ip)) ∧ (h.checkSecurity u.now ip u.ipStats).1 = .ok () := by
  obtain ⟨ip, v, ho, hok, hallow⟩ := ha
  rcases occurs_snoc ho with ho | ⟨hv, he⟩
  · exact Or.inl ⟨ip, v, ho, hok, hallow⟩
  · obtain rfl : v = u := Option.some.inj (hv.symm.trans hu)
    exact Or.inr ⟨ip, he.symm, hok⟩

theorem admitted_snoc_iff {es : List Event} {u : State} {e : Event} {c : ConnId} (hu : run h es = some u)
    (he : ∀ ip, e = .tcp c (.check (some ip)) → (h.checkSecurity u.now ip u.ipStats).1 ≠ .ok ()) :
    Admitted h (es ++ [e]) c ↔ Admitted h es c := by
  constructor
  · intro ha
    rcases admitted_snoc hu ha with ha | ⟨ip, heq, hok⟩
    · exact ha
    · exact absurd hok (he ip heq)
  · exact fun ha => ha.append [e]

structure ConnHistory (h : StealthConnectionHandler) (es : List Event) (c : ConnId) (conn : Conn) : Prop where
  passed : conn.passed = true ↔ Admitted h es c
  unknown : Event.tcp c (.check none) ∈ es → conn.passed = false ∧ conn.stage ≠ .accepted
  fresh : conn.stage = .accepted → conn.passed = false
  checked : conn.stage ≠ .accepted → conn.stage.isReturned = false →
    conn.passed = true ∨ Event.tcp c (.check none) ∈ es

theorem ConnHistory.start {es : List Event} {c : ConnId} (hnone : ∀ e, Event.tcp c e ∉ es) :
    ConnHistory h es c .start := by
  refine ⟨⟨by rintro ⟨⟩, ?_⟩, fun hm => absurd hm (hnone _), fun _ => rfl, fun hs => absurd rfl hs⟩
  rintro ⟨ip, v, ho, -⟩
  exact absurd ho.mem (hnone _)

theorem ConnHistory.snoc {es : List Event} {u : State} {e : Event} {c : ConnId} {conn conn' : Conn}
    (hc : ConnHistory h es c conn) (hu : run h es = some u) (he : ∀ peer, e ≠ .tcp c (.check peer))
    (hpassed : conn'.passed = conn.passed) (hstage : conn'.stage = .accepted ↔ conn.stage = .accepted)
    (hret : conn'.stage.isReturned = false → conn.stage.isReturned = false) : ConnHistory h (es ++ [e]) c conn' := by
  have hmem : Event.tcp c (.check none) ∈ es ++ [e] ↔ Event.tcp c (.check none) ∈ es := by
    rw [List.mem_append, List.mem_singleton]
    exact or_iff_left (fun heq => he none heq.symm)
  refine ⟨?_, ?_, ?_, ?_⟩
  · rw [hpassed, hc.passed]
    exact (admitted_snoc_iff hu (fun ip heq => absurd heq (he _))).symm
  · rw [hmem, hpassed, Ne, hstage]
    exact hc.unknown
  · rw [hpassed, hstage]
    exact hc.fresh
  · rw [hmem, hpassed, Ne, hstage]
    exact fun hs hr => hc.checked hs (hret hr)

theorem ConnHistory.move {es : List Event} {u : State} {c : ConnId} {conn conn' : Conn} {e : TcpEvent}
    {ipStats' : IpStats} (hc : ConnHistory h es c conn) (hu : run h es = some u)
    (hm : Move h u.now conn u.ipStats e conn' ipStats') : ConnHistory h (es ++ [.tcp c e]) c conn' := by
  cases hm with
  | unknown before =>
    have hnot := hc.fresh before
    refine ⟨?_, fun _ => ⟨hnot, by simp⟩, fun _ => hnot, fun _ _ => Or.inr (by simp)⟩
    rw [admitted_snoc_iff hu (by simp)]
    exact hc.passed
  | @admitted ip after before check =>
    have hok : (h.checkSecurity u.now ip u.ipStats).1 = .ok () := by rw [check]
    have hnone : Event.tcp c (.check none) ∉ es := fun hm => (hc.unknown hm).2 before
    refine ⟨⟨fun _ => ⟨ip, u, occurs_last _ hu, hok, checkSecurity_allows hok⟩, fun _ => rfl⟩, ?_, by rintro ⟨⟩,
      fun _ _ => Or.inl rfl⟩
    intro hmem
    simp [hnone] at hmem
  | @refused ip r after before check =>
    have hnone : Event.tcp c (.check none) ∉ es := fun hm => (hc.unknown hm).2 before
    refine ⟨?_, ?_, by rintro ⟨⟩, by rintro - ⟨⟩⟩
    · rw [admitted_snoc_iff hu (by rintro _ ⟨⟩; simp [check])]
      exact hc.passed
    · intro hmem
      simp [hnone] at hmem
  | count before => exact hc.snoc hu (by simp) rfl (by simp [before]) (by simp [before, Stage.isReturned])
  | optimized before => exact hc.snoc hu (by simp) rfl (by simp [before]) (by simp [before, Stage.isReturned])
  | nodelay before => exact hc.snoc hu (by simp) rfl (by simp [before]) (by simp [before, Stage.isReturned])
  | forwarded before => exact hc.snoc hu (by simp) rfl (by simp [before]) (by simp [before, Stage.isReturned])
  | release before => exact hc.snoc hu (by simp) rfl (by simp [before]) (by simp [before, Stage.isReturned])

structure History (h : StealthConnectionHandler) (es : List Event) (s : State) : Prop where
  numbered : ∀ c e, Event.tcp c e ∈ es → c < s.conns.length
  conns : ∀ c conn, s.conns[c]? = some conn → ConnHistory h es c conn

theorem History.quiet {es : List Event} {u t : State} {e : Event} (hh : History h es u) (hu : run h es = some u)
    (he : ∀ c e', e ≠ .tcp c e') (hconns : t.conns = u.conns) : History h (es ++ [e]) t := by
  constructor
  · intro c e' hm
    rw [List.mem_append, List.mem_singleton] at hm
    rw [hconns]
    exact hh.numbered c e' (hm.resolve_right (fun heq => he c e' heq.symm))
  · intro c conn hconn
    rw [hconns] at hconn
    exact (hh.conns c conn hconn).snoc hu (fun peer => he c _) rfl Iff.rfl id

theorem History.step {es : List Event} {u t : State} {e : Event} (hh : History h es u) (hu : run h es = some u)
    (hs : Stealth.step h u e = some t) : History h (es ++ [e]) t := by
  have heff := step_effect hs
  generalize hst : t.ipStats = stats at heff
  generalize hco : t.conns = conns at heff
  cases heff with
  | quiet htcp => exact hh.quiet hu htcp hco
  | udp => exact hh.quiet hu (by simp) hco
  | accept =>
    constructor
    · intro c e' hm
      rw [List.mem_append, List.mem_singleton] at hm
      have hlt := hh.numbered c e' (hm.resolve_right (by simp))
      rw [hco, List.length_append]
      exact Nat.lt_add_right _ hlt
    · intro c conn hconn
      rw [hco] at hconn
      by_cases hlt : c < u.conns.length
      · rw [List.getElem?_append_left hlt] at hconn
        exact (hh.conns c conn hconn).snoc hu (by simp) rfl Iff.rfl id
      · rw [List.getElem?_append_right (Nat.le_of_not_lt hlt)] at hconn
        obtain rfl : Conn.start = conn := by
          have hmem := List.mem_of_getElem? hconn
          exact (List.mem_singleton.mp hmem).symm
        apply ConnHistory.start
        intro e' hm
        rw [List.mem_append, List.mem_singleton] at hm
        exact hlt (hh.numbered c e' (hm.resolve_right (by simp)))
  | @tcp c e conn conn' _ hbefore hmoved =>
    obtain ⟨hc, -⟩ := List.getElem?_eq_some_iff.mp hbefore
    constructor
    · intro c' e' hm
      rw [List.mem_append, List.mem_singleton] at hm
      rw [hco, List.length_set]
      rcases hm with hm | heq
      · exact hh.numbered c' e' hm
      · cases heq
        exact hc
    · intro c' conn'' hconn
      rw [hco] at hconn
      by_cases heq : c = c'
      · subst heq
        rw [List.getElem?_set_self hc] at hconn
        cases hconn
        exact (hh.conns c conn hbefore).move hu hmoved
      · rw [List.getElem?_set_ne heq] at hconn
        exact (hh.conns c' conn'' hconn).snoc hu (by simp [heq]) rfl Iff.rfl id

theorem run_connections {es : List Event} {s : State} (hrun : run h es = some s) : History h es s := by
  apply run_history hrun
  · exact ⟨by simp, by simp [init]⟩
  · intro es u e t hu hh hs
    exact hh.step hu hs

def isForward (addr : SocketAddr) : Event → Bool
  | .forward addr' _ => addr' == addr
  | _ => false

def accepts (h : StealthConnectionHandler) (addr : SocketAddr) (p : State × Event) : Bool :=
  match p.2 with
  | .udp addr' => addr' == addr && (h.checkSecurity p.1.now addr'.ip p.1.ipStats).1.isOk
  | _ => false

theorem step_packets {u t : State} {e : Event} (hs : step h u e = some t) (addr : SocketAddr) :
    t.packets.count addr + (if isForward addr e then 1 else 0) =
      u.packets.count addr + (if accepts h addr (u, e) then 1 else 0) := by
  cases e with
  | advance nanos =>
    cases hs
    simp [isForward, accepts]
  | accept =>
    cases hs
    simp [isForward, accepts]
  | tcp c e =>
    simp only [step, Option.bind_eq_some_iff, Option.map_eq_some_iff] at hs
    obtain ⟨conn, hconn, p, hp, rfl⟩ := hs
    simp [isForward, accepts]
  | udp addr' =>
    cases hs
    unfold handleUdpPacket
    split
    · rename_i r ipStats hc
      simp [isForward, accepts, hc, Except.isOk, Except.toBool]
    · rename_i ipStats hc
      simp [isForward, accepts, hc, Except.isOk, Except.toBool, List.count_append, List.count_singleton]
  | forward addr' io =>
    simp only [step] at hs
    split at hs <;> cases hs
    rename_i hmem
    have hkept : (forwardUdp h { u with packets := u.packets.erase addr' } addr' io).2.packets =
        u.packets.erase addr' := by
      unfold forwardUdp
      split
      · rfl
      · split <;> rfl
    have herase := Lists.countP_erase_add (fun a => a == addr) hmem
    rw [hkept]
    simpa [isForward, accepts, List.count] using herase
  | expire addr' =>
    simp only [step] at hs
    split at hs <;> cases hs
    simp [isForward, accepts]

theorem run_packets {es : List Event} {s : State} (hrun : run h es = some s) (addr : SocketAddr) :
    s.packets.count addr + es.countP (isForward addr) = (steps (step h) init es).countP (accepts h addr) := by
  apply run_history (I := fun es s => s.packets.count addr + es.countP (isForward addr) =
    (steps (step h) init es).countP (accepts h addr)) hrun
  · rfl
  · intro es u e t hu hI hs
    have hstep := step_packets hs addr
    rw [steps_snoc e hu, List.countP_append, List.countP_append, ← hI, List.countP_singleton, List.countP_singleton]
    omega

/-- The proxy turns to the remote only for clients that `check_security` let in: a connection enters
`handle_stealth`, which begins with the connect, and a packet is sent on, one for each packet let in. -/
structure Gated (h : StealthConnectionHandler) (es : List Event) : Prop where
  tcp : ∀ before after c again, es = before ++ .tcp c (.optimize again none) :: after → Admitted h before c
  udp : ∀ before after addr io, es = before ++ .forward addr io :: after →
    before.countP (isForward addr) < (steps (step h) init before).countP (accepts h addr)

theorem udp_gated {before after : List Event} {s : State} {addr : SocketAddr} {io : UdpIo}
    (hrun : run h (before ++ .forward addr io :: after) = some s) :
    before.countP (isForward addr) < (steps (step h) init before).countP (accepts h addr) := by
  obtain ⟨u, t, hu, ht, -⟩ := run_middle hrun
  have hmem : addr ∈ u.packets := by
    simp only [step] at ht
    split at ht
    · rename_i hmem
      exact hmem
    · cases ht
  have hpos := List.count_pos_iff.mpr hmem
  have hbalance := run_packets hu addr
  omega

theorem tcp_gated_iff {before after : List Event} {s : State} {c : ConnId} {again : Option IpAddr}
    (hrun : run h (before ++ .tcp c (.optimize again none) :: after) = some s) :
    Admitted h before c ↔ Event.tcp c (.check none) ∉ before := by
  obtain ⟨u, t, hu, ht, -⟩ := run_middle hrun
  simp only [step, Option.bind_eq_some_iff, Option.map_eq_some_iff] at ht
  obtain ⟨conn, hconn, ⟨conn', ipStats', counters'⟩, hp, -⟩ := ht
  have hstage : conn.stage = .optimizing := by
    cases handleConnection_move hp with
    | optimized before => exact before
  have hhist := (run_connections hu).conns c conn hconn
  rw [← hhist.passed]
  constructor
  · intro hpassed hnone
    rw [(hhist.unknown hnone).1] at hpassed
    cases hpassed
  · intro hnone
    exact (hhist.checked (by simp [hstage]) (by simp [hstage, Stage.isReturned])).resolve_right hnone

theorem contacts_gated_iff {es : List Event} {s : State} (hrun : run h es = some s) :
    Gated h es ↔ ∀ before after c again, es = before ++ .tcp c (.optimize again none) :: after →
      Event.tcp c (.check none) ∉ before := by
  constructor
  · rintro hg before after c again rfl
    exact (tcp_gated_iff hrun).mp (hg.tcp before after c again rfl)
  · intro hknown
    constructor
    · rintro before after c again rfl
      exact (tcp_gated_iff hrun).mpr (hknown before after c again rfl)
    · rintro before after addr io rfl
      exact udp_gated hrun

def listedIp : IpAddr := .v4 10 0 0 1

def listedHandler : StealthConnectionHandler := ⟨.new (.v4 10 0 0 5) 22, some ["10.0.0.1"], none, none⟩

def listedClient : List Event :=
  [.accept, .tcp 0 (.check (some listedIp)), .tcp 0 .count, .tcp 0 (.optimize (some listedIp) none),
    .udp (.new listedIp 50000), .forward (.new listedIp 50000) ⟨none, none, none⟩]

theorem listed_client_gated : ∃ s, run listedHandler listedClient = some s ∧ Gated listedHandler listedClient := by
  have hrun : (run listedHandler listedClient).isSome = true := by decide +kernel
  obtain ⟨s, hs⟩ := Option.isSome_iff_exists.mp hrun
  refine ⟨s, hs, (contacts_gated_iff hs).mpr ?_⟩
  intro before after c again hes hmem
  have hin : Event.tcp c (.check none) ∈ listedClient := hes ▸ List.mem_append_left _ hmem
  simp [listedClient] at hin

def unknownPeer : List Event :=
  [.accept, .tcp 0 (.check none), .tcp 0 .count, .tcp 0 (.optimize none none)]

theorem unknown_peer_forwarded : ∃ s, run listedHandler unknownPeer = some s ∧ ¬ Gated listedHandler unknownPeer := by
  have hrun : (run listedHandler unknownPeer).isSome = true := by decide +kernel
  obtain ⟨s, hs⟩ := Option.isSome_iff_exists.mp hrun
  refine ⟨s, hs, ?_⟩
  intro hg
  obtain ⟨ip, v, ho, -⟩ := hg.tcp [.accept, .tcp 0 (.check none), .tcp 0 .count] [] 0 none rfl
  have hmem := ho.mem
  simp at hmem

end GscFq.Stealth
