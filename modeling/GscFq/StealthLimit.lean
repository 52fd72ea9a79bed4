import GscFq.StealthSlots

namespace GscFq.Stealth

open StealthConnectionHandler

variable {h : StealthConnectionHandler} {m : ℕ}

def peerStable (s : State) : Event → Bool
  | .tcp c (.optimize again _) => (s.conns[c]?).all (fun conn => again == conn.peer)
  | _ => true

/-- In this step the second `peer_addr` gives the answer of the first or fails. -/
def peerKept (s : State) : Event → Bool
  | .tcp c (.optimize again _) => (s.conns[c]?).all (fun conn => again == conn.peer || again == none)
  | _ => true

theorem peerKept_of_stable {s : State} {e : Event} (hs : peerStable s e = true) : peerKept s e = true := by
  unfold peerKept
  split
  · rename_i c again nodelay
    rw [peerStable, Option.all_eq_true] at hs
    rw [Option.all_eq_true]
    intro conn hconn
    rw [hs conn hconn, Bool.true_or]
  · rfl

/-- Every connection that took a slot and has not given it back is counted, and the count is within
the limit. -/
structure Slots (m : ℕ) (ipStats : IpStats) (conns : List Conn) : Prop where
  ok : ∀ conn ∈ conns, ConnOk conn
  peers : ∀ conn ∈ conns, SamePeer conn
  held : ∀ ip, conns.countP (Conn.holds ip) ≤ ipStats.active ip
  limit : ∀ ip, ipStats.active ip ≤ m

theorem SamePeer.move {now : ℕ} {conn conn' : Conn} {ipStats ipStats' : IpStats} {e : TcpEvent} (hp : SamePeer conn)
    (hc : ConnOk conn) (hkept : ∀ again nodelay, e = .optimize again nodelay → again = conn.peer ∨ again = none)
    (hv : Move h now conn ipStats e conn' ipStats') : SamePeer conn' := by
  cases hv with
  | unknown before | admitted before | refused before =>
    -- before the check the second question has not been asked
    simp only [ConnOk, before] at hc
    exact Or.inr (by rw [hc]; rfl)
  | count | forwarded | release => exact hp
  | optimized | nodelay => exact hkept _ _ rfl

theorem Move.limit {now : ℕ} {conn conn' : Conn} {ipStats ipStats' : IpStats} {e : TcpEvent}
    (hm : h.maxConnsPerIp = some m) (hle : ∀ ip, ipStats.active ip ≤ m)
    (hv : Move h now conn ipStats e conn' ipStats') (ip : IpAddr) :
    ipStats'.active ip ≤ m := by
  cases hv with
  | unknown | count | optimized | nodelay | forwarded => exact hle ip
  | @admitted peer _ before check | @refused peer _ _ before check =>
    have hcheck := checkSecurity_check hm now peer ipStats
    rw [check] at hcheck
    exact hcheck.limit hle ip
  | release before =>
    cases conn.again with
    | none => exact hle ip
    | some peer =>
      rw [Option.elim_some, registerDisconnection_active hm]
      exact (Nat.sub_le _ _).trans (hle ip)

theorem Slots.slot_le {ipStats : IpStats} {conns : List Conn} {conn : Conn} (hs : Slots m ipStats conns)
    (hc : conn ∈ conns) (ip : IpAddr) : slot ip conn ≤ ipStats.active ip := by
  refine le_trans ?_ (hs.held ip)
  unfold slot
  split
  · rename_i hh
    exact List.countP_pos_iff.mpr ⟨conn, hc, hh⟩
  · exact Nat.zero_le _

theorem SamePeer.effect {s : State} {e : Event} {ipStats' : IpStats} {conns' : List Conn}
    (he : Effect h s e ipStats' conns') (hs : Slots m s.ipStats s.conns) (hk : peerKept s e = true) :
    ∀ conn ∈ conns', SamePeer conn := by
  apply he.forall_conns (P := SamePeer) (Or.inl rfl) hs.peers
  rintro c e' conn conn' after rfl before moved
  have hmem := List.mem_of_getElem? before
  refine (hs.peers conn hmem).move (hs.ok conn hmem) ?_ moved
  intro again nodelay hopt
  simpa [hopt, peerKept, before] using hk

theorem Slots.conserves {s : State} {e : Event} {ipStats' : IpStats} {conns' : List Conn}
    (hm : h.maxConnsPerIp = some m) (hs : Slots m s.ipStats s.conns) (hk : peerKept s e = true)
    (he : Effect h s e ipStats' conns') (ip : IpAddr) :
    ipStats'.active ip + s.conns.countP (Conn.holds ip) = s.ipStats.active ip + conns'.countP (Conn.holds ip) ∨
      ((∃ addr, e = .udp addr) ∧ conns' = s.conns ∧ s.ipStats.active ip ≤ ipStats'.active ip) := by
  have hpeers := SamePeer.effect he hs hk
  cases he with
  | quiet => exact Or.inl rfl
  | accept =>
    left
    rw [List.countP_append]
    rfl
  | @tcp c e conn conn' _ before moved =>
    left
    have hmem := List.mem_of_getElem? before
    have hnew : SamePeer conn' := hpeers conn' (List.mem_set (List.getElem?_eq_some_iff.mp before).1 conn')
    have hcons := moved.conserves hm (hs.ok conn hmem) hnew (hs.slot_le hmem) ip
    have hset := Lists.countP_set_get (Conn.holds ip) conn' before
    unfold slot at hcons
    omega
  | @udp addr =>
    exact Or.inr ⟨⟨addr, rfl⟩, rfl, (checkSecurity_check hm s.now addr.ip s.ipStats).mono ip⟩

theorem Slots.effect {s : State} {e : Event} {ipStats' : IpStats} {conns' : List Conn} (hm : h.maxConnsPerIp = some m)
    (hs : Slots m s.ipStats s.conns) (hk : peerKept s e = true) (he : Effect h s e ipStats' conns') :
    Slots m ipStats' conns' := by
  refine ⟨he.connOk hs.ok, SamePeer.effect he hs hk, ?_, ?_⟩
  · intro ip
    have hheld := hs.held ip
    rcases hs.conserves hm hk he ip with hcons | ⟨-, hconns, hle⟩
    · omega
    · rw [hconns]
      exact hheld.trans hle
  · intro ip
    cases he with
    | quiet | accept => exact hs.limit ip
    | tcp before moved => exact moved.limit hm hs.limit ip
    | @udp addr => exact (checkSecurity_check hm s.now addr.ip s.ipStats).limit hs.limit ip

theorem init_slots (m : ℕ) : Slots m init.ipStats init.conns :=
  ⟨by simp [init], by simp [init], by simp [init], by simp [init, IpStats.active]⟩

theorem run_slots {es : List Event} {s : State} (hm : h.maxConnsPerIp = some m) (hrun : run h es = some s)
    (hk : ∀ u e, Transitions.Occurs (step h) init es u e → peerKept u e = true) : Slots m s.ipStats s.conns := by
  apply Transitions.run_invariant_occurs (I := fun u => Slots m u.ipStats u.conns) hrun hk (init_slots m)
  intro u e v hku hu he
  exact hu.effect hm hku (step_effect he)

def Conn.unfinished (ip : IpAddr) (c : Conn) : Bool := c.peer == some ip && c.passed && !c.forwarded

theorem Conn.unfinished_holds {ip : IpAddr} {c : Conn} (hu : c.unfinished ip = true) : c.holds ip = true := by
  simp only [Conn.unfinished, Bool.and_eq_true, Bool.not_eq_true'] at hu
  simp [Conn.holds, Conn.gaveBack, hu]

theorem connections_within_limit (hm : h.maxConnsPerIp = some m) {es : List Event} {s : State}
    (hrun : run h es = some s) (hk : ∀ u e, Transitions.Occurs (step h) init es u e → peerStable u e = true)
    (ip : IpAddr) : s.conns.countP (Conn.unfinished ip) ≤ m := by
  have hs := run_slots hm hrun (fun u e hocc => peerKept_of_stable (hk u e hocc))
  calc s.conns.countP (Conn.unfinished ip)
      ≤ s.conns.countP (Conn.holds ip) := List.countP_mono_left (fun c _ hu => Conn.unfinished_holds hu)
    _ ≤ s.ipStats.active ip := hs.held ip
    _ ≤ m := hs.limit ip

def sampleStealth : StealthConnectionHandler := ⟨.new (.v4 10 0 0 5) 22, none, some 1, none⟩

def sampleIp : IpAddr := .v4 192 0 2 7

def sampleTwoConns : List Event :=
  [.accept, .accept, .tcp 0 (.check (some sampleIp)), .tcp 1 (.check (some sampleIp)), .tcp 0 .count,
    .tcp 0 (.optimize (some sampleIp) none)]

theorem sample_within_limit :
    ∃ s, run sampleStealth sampleTwoConns = some s ∧ s.conns.countP (Conn.unfinished sampleIp) = 1 ∧
      s.conns.countP (Conn.unfinished sampleIp) ≤ 1 := by
  have hrun : (run sampleStealth sampleTwoConns).map (fun s => s.conns.countP (Conn.unfinished sampleIp)) = some 1 := by
    decide +kernel
  have hstable : ∀ p ∈ Transitions.steps (step sampleStealth) init sampleTwoConns, peerStable p.1 p.2 = true := by
    decide +kernel
  obtain ⟨s, hs, hone⟩ := Option.map_eq_some_iff.mp hrun
  exact ⟨s, hs, hone, connections_within_limit rfl hs (fun u e hocc => hstable (u, e) hocc.mem_steps) sampleIp⟩

end GscFq.Stealth
