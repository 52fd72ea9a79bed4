import GscFq.Lists
import GscFq.StealthConnections

namespace GscFq.Stealth

open StealthConnectionHandler

variable {h : StealthConnectionHandler} {m : ℕ}

inductive Move (h : StealthConnectionHandler) (now : ℕ) (conn : Conn) (ipStats : IpStats) :
    TcpEvent → Conn → IpStats → Prop where
  | unknown (before : conn.stage = .accepted) :
      Move h now conn ipStats (.check none) { conn with stage := .counting } ipStats
  | admitted {ip : IpAddr} {after : IpStats} (before : conn.stage = .accepted)
      (check : h.checkSecurity now ip ipStats = (.ok (), after)) :
      Move h now conn ipStats (.check (some ip))
        { conn with stage := .counting, peer := some ip, passed := true } after
  | refused {ip : IpAddr} {r : Refusal} {after : IpStats} (before : conn.stage = .accepted)
      (check : h.checkSecurity now ip ipStats = (.error r, after)) :
      Move h now conn ipStats (.check (some ip))
        { conn with stage := .returned (.error (r.error ip)), peer := some ip } after
  | count (before : conn.stage = .counting) :
      Move h now conn ipStats .count { conn with stage := .optimizing } ipStats
  | optimized {again : Option IpAddr} (before : conn.stage = .optimizing) :
      Move h now conn ipStats (.optimize again none) { conn with stage := .forwarding, again := again } ipStats
  | nodelay {again : Option IpAddr} {e : IoError} (before : conn.stage = .optimizing) :
      Move h now conn ipStats (.optimize again (some e))
        { conn with stage := .returned (.error (nodelayFailed e)), again := again, nodelay := some e } ipStats
  | forwarded {result : Except AppError Unit} (before : conn.stage = .forwarding) :
      Move h now conn ipStats (.forwarded result) { conn with stage := .releasing result, forwarded := true } ipStats
  | release {result : Except AppError Unit} (before : conn.stage = .releasing result) :
      Move h now conn ipStats .release { conn with stage := .returned result }
        (conn.again.elim ipStats (fun ip => h.registerDisconnection ip ipStats))

def Counters.after (counters : Counters) (conn : Conn) : TcpEvent → Counters
  | .count =>
    { counters with
      totalConnections := counters.totalConnections + 1
      activeConnections := counters.activeConnections + 1 }
  | .forwarded (.ok ()) => { counters with successfulConnections := counters.successfulConnections + 1 }
  | .release =>
    match conn.stage with
    | .releasing (.ok ()) => { counters with activeConnections := counters.activeConnections - 1 }
    | .releasing (.error _) => { counters with failedConnections := counters.failedConnections + 1 }
    | _ => counters
  | _ => counters

theorem handleConnection_effect {now : ℕ} {conn conn' : Conn} {ipStats ipStats' : IpStats} {counters counters' : Counters}
    {e : TcpEvent} (he : handleConnection h now conn ipStats counters e = some (conn', ipStats', counters')) :
    Move h now conn ipStats e conn' ipStats' ∧ counters' = counters.after conn e := by
  cases e with
  | check peer =>
    simp only [handleConnection] at he
    split at he
    · rename_i hs
      cases he
      exact ⟨.unknown hs, rfl⟩
    · rename_i hs
      split at he
      · rename_i hc
        cases he
        exact ⟨.admitted hs hc, rfl⟩
      · rename_i hc
        cases he
        exact ⟨.refused hs hc, rfl⟩
    · cases he
  | count =>
    simp only [handleConnection] at he
    split at he
    · rename_i hs
      cases he
      exact ⟨.count hs, rfl⟩
    · cases he
  | optimize again nodelay =>
    simp only [handleConnection] at he
    split at he
    · rename_i hs
      cases he
      exact ⟨.optimized hs, rfl⟩
    · rename_i hs
      cases he
      exact ⟨.nodelay hs, rfl⟩
    · cases he
  | forwarded result =>
    simp only [handleConnection] at he
    split at he
    · rename_i hs
      cases he
      exact ⟨.forwarded hs, rfl⟩
    · rename_i hs
      cases he
      exact ⟨.forwarded hs, rfl⟩
    · cases he
  | release =>
    simp only [handleConnection] at he
    split at he
    · rename_i result hs
      unfold Counters.after
      rw [hs]
      cases result <;> cases he <;> exact ⟨.release hs, rfl⟩
    · cases he

theorem handleConnection_move {now : ℕ} {conn conn' : Conn} {ipStats ipStats' : IpStats} {counters counters' : Counters}
    {e : TcpEvent} (he : handleConnection h now conn ipStats counters e = some (conn', ipStats', counters')) :
    Move h now conn ipStats e conn' ipStats' := (handleConnection_effect he).1

inductive Effect (h : StealthConnectionHandler) (s : State) : Event → IpStats → List Conn → Prop where
  | quiet {e : Event} (tcp : ∀ c e', e ≠ .tcp c e') : Effect h s e s.ipStats s.conns
  | accept : Effect h s .accept s.ipStats (s.conns ++ [.start])
  | tcp {c : ConnId} {e : TcpEvent} {conn conn' : Conn} {ipStats' : IpStats} (before : s.conns[c]? = some conn)
      (moved : Move h s.now conn s.ipStats e conn' ipStats') :
      Effect h s (.tcp c e) ipStats' (s.conns.set c conn')
  | udp {addr : SocketAddr} : Effect h s (.udp addr) (h.checkSecurity s.now addr.ip s.ipStats).2 s.conns

theorem step_effect {s s' : State} {e : Event} (he : step h s e = some s') : Effect h s e s'.ipStats s'.conns := by
  cases step_stepped he with
  | advance | forward | expire => exact .quiet (by simp)
  | accept => exact .accept
  | tcp before moved => exact .tcp before (handleConnection_move moved)
  | udp => exact .udp

def Stage.isReturned : Stage → Bool
  | .returned _ => true
  | _ => false

def Conn.gaveBack (c : Conn) : Bool := c.forwarded && c.stage.isReturned && c.again == c.peer

def Conn.holds (ip : IpAddr) (c : Conn) : Bool := c.peer == some ip && c.passed && !c.gaveBack

def ConnOk (c : Conn) : Prop :=
  match c.stage with
  | .accepted => c = .start
  | .counting | .optimizing | .forwarding => c.forwarded = false ∧ c.nodelay = none ∧ (c.peer.isSome → c.passed = true)
  | .releasing _ => c.forwarded = true ∧ c.nodelay = none ∧ (c.peer.isSome → c.passed = true)
  | .returned _ => c.passed = true → (c.forwarded = true ↔ c.nodelay = none)

/-- A socket whose peer is known keeps it: a later `peer_addr` gives the same answer or fails. -/
def SamePeer (c : Conn) : Prop := c.again = c.peer ∨ c.again = none

theorem ConnOk.move {now : ℕ} {conn conn' : Conn} {ipStats ipStats' : IpStats} {e : TcpEvent} (hc : ConnOk conn)
    (hm : Move h now conn ipStats e conn' ipStats') : ConnOk conn' := by
  cases hm with
  | unknown before | admitted before check | refused before check =>
    simp only [ConnOk, before] at hc ⊢
    simp [hc, Conn.start]
  | count before | optimized before =>
    simp only [ConnOk, before] at hc ⊢
    exact hc
  | forwarded before =>
    simp only [ConnOk, before] at hc ⊢
    exact ⟨trivial, hc.2⟩
  | nodelay before =>
    simp only [ConnOk, before] at hc ⊢
    simp [hc.1]
  | release before =>
    simp only [ConnOk, before] at hc ⊢
    simp [hc.1, hc.2.1]

theorem Effect.forall_conns {P : Conn → Prop} {s : State} {e : Event} {ipStats' : IpStats} {conns' : List Conn}
    (he : Effect h s e ipStats' conns') (hstart : P .start) (hs : ∀ conn ∈ s.conns, P conn)
    (hmove : ∀ c e' conn conn' after, e = .tcp c e' → s.conns[c]? = some conn →
      Move h s.now conn s.ipStats e' conn' after → P conn') : ∀ conn ∈ conns', P conn := by
  intro b hb
  cases he with
  | quiet | udp => exact hs b hb
  | accept =>
    rcases List.mem_append.mp hb with hb | hb
    · exact hs b hb
    · exact List.mem_singleton.mp hb ▸ hstart
  | tcp before moved =>
    rcases List.mem_or_eq_of_mem_set hb with hb | rfl
    · exact hs b hb
    · exact hmove _ _ _ _ _ rfl before moved

theorem Effect.connOk {s : State} {e : Event} {ipStats' : IpStats} {conns' : List Conn}
    (he : Effect h s e ipStats' conns') (hs : ∀ conn ∈ s.conns, ConnOk conn) : ∀ conn ∈ conns', ConnOk conn := by
  apply he.forall_conns (P := ConnOk) rfl hs
  intro c e' conn conn' after _ before moved
  exact (hs conn (List.mem_of_getElem? before)).move moved

def slot (ip : IpAddr) (c : Conn) : ℕ := if c.holds ip then 1 else 0

theorem gaveBack_of_stage {c : Conn} (hs : c.stage.isReturned = false) : c.gaveBack = false := by
  simp [Conn.gaveBack, hs]

theorem slot_eq {conn conn' : Conn} (hp : conn'.peer = conn.peer) (hs : conn'.passed = conn.passed)
    (hg : conn.gaveBack = false) (hg' : conn'.gaveBack = false) (ip : IpAddr) : slot ip conn' = slot ip conn := by
  simp [slot, Conn.holds, hp, hs, hg, hg']

theorem slot_release {conn : Conn} {result : Except AppError Unit} (hc : ConnOk conn)
    (before : conn.stage = .releasing result) (ip : IpAddr) :
    slot ip conn = (if conn.peer = some ip then 1 else 0) ∧
      slot ip { conn with stage := .returned result } =
        if conn.peer = some ip ∧ conn.again ≠ conn.peer then 1 else 0 := by
  simp only [ConnOk, before] at hc
  obtain ⟨hfwd, -, hpassed⟩ := hc
  cases hp : conn.peer with
  | none => simp [slot, Conn.holds, hp]
  | some p =>
    have hpass := hpassed (by simp [hp])
    simp [slot, Conn.holds, Conn.gaveBack, before, Stage.isReturned, hp, hpass, hfwd]

theorem Move.conserves_release {conn : Conn} {ipStats : IpStats} {result : Except AppError Unit}
    (hm : h.maxConnsPerIp = some m) (hc : ConnOk conn) (hsame : SamePeer conn)
    (hle : ∀ ip, slot ip conn ≤ ipStats.active ip) (before : conn.stage = .releasing result) (ip : IpAddr) :
    IpStats.active (conn.again.elim ipStats (fun ip => h.registerDisconnection ip ipStats)) ip + slot ip conn =
      ipStats.active ip + slot ip { conn with stage := .returned result } := by
  have hlip := hle ip
  obtain ⟨hold, hnew⟩ := slot_release hc before ip
  rw [hold] at hlip
  rw [hold, hnew]
  rcases hsame with hagain | hagain
  · cases hp : conn.peer with
    | none => simp [hagain, hp]
    | some peer =>
      rw [hp] at hlip
      simp only [hagain, hp, Option.elim_some, registerDisconnection_active hm, ne_eq, not_true_eq_false, and_false,
        if_false, Option.some.injEq, Nat.add_zero] at hlip ⊢
      by_cases hip : ip = peer
      · simp only [hip, ↓reduceIte] at hlip ⊢
        omega
      · simp [hip, Ne.symm hip]
  · cases hp : conn.peer <;> simp [hagain]

theorem Move.conserves {now : ℕ} {conn conn' : Conn} {ipStats ipStats' : IpStats} {e : TcpEvent}
    (hm : h.maxConnsPerIp = some m) (hc : ConnOk conn) (hsame : SamePeer conn') (hle : ∀ ip, slot ip conn ≤ ipStats.active ip)
    (hv : Move h now conn ipStats e conn' ipStats') (ip : IpAddr) :
    ipStats'.active ip + slot ip conn = ipStats.active ip + slot ip conn' := by
  cases hv with
  | unknown before =>
    simp only [ConnOk, before] at hc
    simp [hc, slot, Conn.holds, Conn.start]
  | @admitted peer _ before check =>
    simp only [ConnOk, before] at hc
    have hcheck := checkSecurity_check hm now peer ipStats
    rw [check] at hcheck
    have hnew : slot ip { conn with stage := .counting, peer := some peer, passed := true } =
        if ip = peer then 1 else 0 := by
      simp only [slot, Conn.holds, Conn.gaveBack, Stage.isReturned, Bool.and_false, Bool.false_and, Bool.not_false,
        Bool.and_true, beq_iff_eq, Option.some.injEq, eq_comm (a := peer)]
    have hold : slot ip conn = 0 := by simp [hc, slot, Conn.holds, Conn.start]
    rw [hcheck.counted ip, hnew, hold, Nat.add_zero]
  | @refused peer r _ before check =>
    simp only [ConnOk, before] at hc
    have hcheck := checkSecurity_check hm now peer ipStats
    rw [check] at hcheck
    rw [hcheck.same ip]
    simp [hc, slot, Conn.holds, Conn.start]
  | count before | optimized before | forwarded before =>
    have hold : conn.gaveBack = false := gaveBack_of_stage (by rw [before]; rfl)
    refine congrArg (ipStats.active ip + ·) (slot_eq ?_ ?_ hold (gaveBack_of_stage ?_) ip).symm <;> rfl
  | nodelay before =>
    simp only [ConnOk, before] at hc
    have hold : conn.gaveBack = false := gaveBack_of_stage (by rw [before]; rfl)
    refine congrArg (ipStats.active ip + ·) (slot_eq ?_ ?_ hold ?_ ip).symm
    · rfl
    · rfl
    · simp [Conn.gaveBack, hc.1]
  | release before => exact Move.conserves_release hm hc hsame hle before ip

end GscFq.Stealth
