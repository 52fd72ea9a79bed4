import GscFq.ForwardConnections

namespace GscFq.ForwardConnections

open ByteStream Stealth GscFq.Lists

variable {h : StealthConnectionHandler} {client remote : ConnId → Bytes}

/-- The connection outside and inside `handle_stealth`: it is entered once, and left with what it returned. -/
def Agrees (conn : Conn) (x : Inner) : Prop :=
  match conn.stage with
  | .accepted | .counting | .optimizing => conn.forwarded = false ∧ x = .connecting
  | .forwarding => conn.forwarded = false
  | .releasing result => conn.forwarded = true ∧ x.result = some result
  | .returned result =>
    conn.forwarded = true ∧ x.result = some result ∨ conn.forwarded = false ∧ x = .connecting ∧ ∃ e, result = .error e

def Faithful (client remote : Bytes) : Inner → Prop
  | .forwarding session => ZeroCopySession.Sound client remote session
  | .refused e => isIoRejection e = false ∧ isConnectionErrorRejection e.text = false
  | _ => True

theorem start_agrees : Agrees .start .connecting := ⟨rfl, rfl⟩

theorem Agrees.move {now : ℕ} {conn conn' : Conn} {ipStats ipStats' : IpStats} {e : TcpEvent} {x : Inner}
    (ha : Agrees conn x) (he : ∀ result, e = .forwarded result → x.result = some result)
    (hm : Move h now conn ipStats e conn' ipStats') : Agrees conn' x := by
  cases hm with
  | unknown before | admitted before | count before | optimized before =>
    simp only [Agrees, before] at ha ⊢
    simp [ha]
  | refused before | nodelay before =>
    simp only [Agrees, before] at ha
    exact Or.inr ⟨ha.1, ha.2, _, rfl⟩
  | forwarded => exact ⟨rfl, he _ rfl⟩
  | release before =>
    simp only [Agrees, before] at ha
    exact Or.inl ha

/-- What the function has returned stays, though one direction may go on. -/
theorem session_returned {s t : ZeroCopySession.State} {e : ZeroCopySession.Event}
    {result : Except AppError (ℕ × ℕ)} (hs : s.phase = .returned result) (ht : ZeroCopySession.step s e = some t) :
    t.phase = .returned result := by
  cases e with
  | nodelay failed =>
    simp only [ZeroCopySession.step, ZeroCopySession.State.nodelay, hs] at ht
    cases ht
  | c2s e =>
    cases e with
    | pipe failed => simp [ZeroCopySession.step, ZeroCopySession.State.firstPipe, hs] at ht
    | fill r | drain r =>
      obtain ⟨c2s, -, rfl⟩ := Option.map_eq_some_iff.mp ht
      exact hs
  | s2c e =>
    cases e with
    | pipe failed => simp [ZeroCopySession.step, ZeroCopySession.State.secondPipe, hs] at ht
    | fill r | drain r =>
      obtain ⟨s2c, -, rfl⟩ := Option.map_eq_some_iff.mp ht
      exact hs
  | join => simp [ZeroCopySession.step, ZeroCopySession.State.join, hs] at ht

theorem Inner.Turn.result {c r : Bytes} {entered : Bool} {x x' : Inner} (ht : Inner.Turn c r entered x x')
    {result : Except AppError Unit} (hx : x.result = some result) : x'.result = some result := by
  cases ht with
  | connects | refuses | rejected | absorbs | panics => cases hx
  | @copies session session' e hs =>
    simp only [Inner.result] at hx ⊢
    split at hx
    · rename_i counts hp
      rw [session_returned hp hs]
      exact hx
    · rename_i failed hp
      rw [session_returned hp hs]
      exact hx
    · cases hx

theorem Agrees.turn {c r : Bytes} {conn : Conn} {x x' : Inner} (ha : Agrees conn x)
    (ht : Inner.Turn c r (conn.stage == .forwarding) x x') : Agrees conn x' := by
  have hleft : x ≠ .connecting ∨ conn.stage = .forwarding := by
    cases ht with
    | connects hin | refuses hin | rejected hin => exact Or.inr (by simpa using hin)
    | copies | absorbs | panics => exact Or.inl (by simp)
  unfold Agrees at ha ⊢
  split at ha
  · rename_i hs
    simp [ha.2, hs] at hleft
  · rename_i hs
    simp [ha.2, hs] at hleft
  · rename_i hs
    simp [ha.2, hs] at hleft
  · exact ha
  · exact ⟨ha.1, ht.result ha.2⟩
  · rename_i hs
    rcases ha with ⟨hf, hr⟩ | ⟨hf, hx, -⟩
    · exact Or.inl ⟨hf, ht.result hr⟩
    · simp [hx, hs] at hleft

theorem Faithful.turn {c r : Bytes} {entered : Bool} {x x' : Inner} (hx : Faithful c r x)
    (ht : Inner.Turn c r entered x x') : Faithful c r x' := by
  cases ht with
  | connects => exact ZeroCopySession.init_sound c r
  | refuses _ hio htext => exact ⟨hio, htext⟩
  | copies hs => exact ZeroCopySession.step_sound hx hs
  | rejected | absorbs | panics => trivial

def succeeded (conn : Conn) : Bool :=
  match conn.stage with
  | .releasing (.ok _) | .returned (.ok _) => true
  | _ => false

/-- The call has returned an error of `handle_stealth`. -/
def failed (conn : Conn) : Bool :=
  match conn.stage with
  | .returned (.error _) => conn.forwarded
  | _ => false

structure Counted (s : Stealth.State) : Prop where
  successful : s.counters.successfulConnections = s.conns.countP succeeded
  failed : s.counters.failedConnections = s.conns.countP failed

theorem move_counts {now : ℕ} {conn conn' : Conn} {ipStats ipStats' : IpStats} {e : TcpEvent} {counters : Counters}
    (hok : ConnOk conn) (hm : Move h now conn ipStats e conn' ipStats') :
    ((counters.after conn e).successfulConnections + (if succeeded conn then 1 else 0) =
        counters.successfulConnections + if succeeded conn' then 1 else 0) ∧
      ((counters.after conn e).failedConnections + (if failed conn then 1 else 0) =
        counters.failedConnections + if failed conn' then 1 else 0) := by
  cases hm with
  | unknown hs | admitted hs | count hs | optimized hs => simp [succeeded, failed, hs, Counters.after]
  | refused hs =>
    simp only [ConnOk, hs] at hok
    simp [succeeded, failed, Counters.after, hok, Conn.start]
  | nodelay hs =>
    simp only [ConnOk, hs] at hok
    simp [succeeded, failed, hs, Counters.after, hok]
  | @forwarded result hs => cases result <;> simp [succeeded, failed, hs, Counters.after]
  | @release result hs =>
    simp only [ConnOk, hs] at hok
    cases result <;> simp [succeeded, failed, hs, Counters.after, hok]

/-- What every run of the proxy keeps, whatever `handle_stealth` does in it. -/
structure Tallied (s : Stealth.State) : Prop extends Counted s where
  conns : ∀ conn ∈ s.conns, ConnOk conn

theorem init_tallied : Tallied Stealth.init := ⟨⟨rfl, rfl⟩, by simp [Stealth.init]⟩

theorem Tallied.step {s t : Stealth.State} {e : Stealth.Event} (hs : Tallied s) (he : Stealth.step h s e = some t) :
    Tallied t := by
  have hconns := (step_effect he).connOk hs.conns
  refine ⟨?_, hconns⟩
  cases step_stepped he with
  | advance | udp | forward | expire => exact ⟨hs.successful, hs.failed⟩
  | accept =>
    constructor
    · simpa [Conn.start, succeeded] using hs.successful
    · simpa [Conn.start, failed] using hs.failed
  | @tcp c e conn conn' _ _ before moved =>
    obtain ⟨hm, rfl⟩ := handleConnection_effect moved
    obtain ⟨hsucceeded, hfailed⟩ := @move_counts _ _ _ _ _ _ _ s.counters (hs.conns conn (List.mem_of_getElem? before)) hm
    have hset (p : Conn → Bool) := countP_set_get p conn' before
    constructor
    · have hcount := hset succeeded
      have hbefore := hs.successful
      dsimp only
      omega
    · have hcount := hset failed
      have hbefore := hs.failed
      dsimp only
      omega

structure Inv (h : StealthConnectionHandler) (client remote : ConnId → Bytes) (s : State) : Prop where
  proxy : ∃ es, Stealth.run h es = some s.proxy
  length : s.inner.length = s.proxy.conns.length
  agrees : ∀ (c : ConnId) (conn : Conn) (x : Inner), s.proxy.conns[c]? = some conn → s.inner[c]? = some x → Agrees conn x
  faithful : ∀ (c : ConnId) (x : Inner), s.inner[c]? = some x → Faithful (client c) (remote c) x

theorem init_inv : Inv h client remote init :=
  ⟨⟨[], rfl⟩, rfl, by simp [init, Stealth.init], by simp [init]⟩

theorem proxy_steps {s t : Stealth.State} {e : Stealth.Event} (hs : ∃ es, Stealth.run h es = some s)
    (he : Stealth.step h s e = some t) : ∃ es, Stealth.run h es = some t := by
  obtain ⟨es, hes⟩ := hs
  exact ⟨es ++ [e], Transitions.run_snoc.mpr ⟨s, hes, he⟩⟩

/-- A step of the proxy that opens no connection changes at most one of them. -/
theorem agrees_steps {s t : Stealth.State} {e : Stealth.Event} {inner : List Inner}
    (hs : ∀ (c : ConnId) (conn : Conn) (x : Inner), s.conns[c]? = some conn → inner[c]? = some x → Agrees conn x)
    (hnew : e ≠ .accept)
    (hresult : ∀ (c : ConnId) (result : Except AppError Unit) (x : Inner), e = .tcp c (.forwarded result) →
      inner[c]? = some x → x.result = some result)
    (he : Stealth.step h s e = some t) :
    t.conns.length = s.conns.length ∧
      ∀ (c : ConnId) (conn : Conn) (x : Inner), t.conns[c]? = some conn → inner[c]? = some x → Agrees conn x := by
  have heff := step_effect he
  generalize t.ipStats = ipStats at heff
  generalize t.conns = conns at heff ⊢
  cases heff with
  | quiet | udp => exact ⟨rfl, hs⟩
  | accept => exact absurd rfl hnew
  | @tcp c e conn conn' _ before moved =>
    refine ⟨List.length_set, ?_⟩
    intro c' conn'' x hconn hx
    obtain ⟨hc, -⟩ := List.getElem?_eq_some_iff.mp before
    by_cases heq : c = c'
    · subst heq
      rw [List.getElem?_set_self hc] at hconn
      obtain rfl := Option.some.inj hconn
      apply (hs c conn x before hx).move _ moved
      rintro result rfl
      exact hresult c result x rfl hx
    · rw [List.getElem?_set_ne heq] at hconn
      exact hs c' conn'' x hconn hx

theorem Inv.outside {s : State} {e : Stealth.Event} {proxy : Stealth.State} (hs : Inv h client remote s)
    (hnot : isForwarded e = false) (he : Stealth.step h s.proxy e = some proxy) :
    Inv h client remote ⟨proxy, if e = .accept then s.inner ++ [.connecting] else s.inner⟩ := by
  by_cases hnew : e = .accept
  · subst hnew
    have hsteps := proxy_steps hs.proxy he
    cases he
    refine ⟨hsteps, by simp [hs.length], ?_, ?_⟩
    · intro c conn x hconn hx
      rw [if_pos rfl] at hx
      by_cases hlt : c < s.proxy.conns.length
      · rw [List.getElem?_append_left hlt] at hconn
        rw [List.getElem?_append_left (hs.length ▸ hlt)] at hx
        exact hs.agrees c conn x hconn hx
      · rw [List.getElem?_append_right (Nat.le_of_not_lt hlt)] at hconn
        rw [List.getElem?_append_right (hs.length ▸ Nat.le_of_not_lt hlt)] at hx
        rw [List.mem_singleton.mp (List.mem_of_getElem? hconn), List.mem_singleton.mp (List.mem_of_getElem? hx)]
        exact start_agrees
    · intro c x hx
      rw [if_pos rfl] at hx
      by_cases hlt : c < s.inner.length
      · rw [List.getElem?_append_left hlt] at hx
        exact hs.faithful c x hx
      · rw [List.getElem?_append_right (Nat.le_of_not_lt hlt)] at hx
        rw [List.mem_singleton.mp (List.mem_of_getElem? hx)]
        trivial
  · simp only [if_neg hnew]
    obtain ⟨hlen, hagrees⟩ := agrees_steps hs.agrees hnew (by rintro c result x rfl; cases hnot) he
    exact ⟨proxy_steps hs.proxy he, hs.length.trans hlen.symm, hagrees, hs.faithful⟩

theorem Inv.inside {s : State} {c : ConnId} {e : InnerEvent} {x x' : Inner} (hs : Inv h client remote s)
    (hx : s.inner[c]? = some x) (he : x.step (client c) (remote c) (entered s c) e = some x') :
    Inv h client remote { s with inner := s.inner.set c x' } := by
  have hturn := Inner.step_turn he
  obtain ⟨hc, -⟩ := List.getElem?_eq_some_iff.mp hx
  refine ⟨hs.proxy, by rw [List.length_set]; exact hs.length, ?_, ?_⟩
  · intro c' conn y hconn hy
    by_cases heq : c = c'
    · subst heq
      rw [List.getElem?_set_self hc] at hy
      obtain rfl := Option.some.inj hy
      rw [entered, hconn] at hturn
      exact (hs.agrees c conn x hconn hx).turn hturn
    · rw [List.getElem?_set_ne heq] at hy
      exact hs.agrees c' conn y hconn hy
  · intro c' y hy
    by_cases heq : c = c'
    · subst heq
      rw [List.getElem?_set_self hc] at hy
      obtain rfl := Option.some.inj hy
      exact (hs.faithful c x hx).turn hturn
    · rw [List.getElem?_set_ne heq] at hy
      exact hs.faithful c' y hy

theorem Inv.step {s t : State} {e : Event} (hs : Inv h client remote s)
    (he : ForwardConnections.step h client remote s e = some t) : Inv h client remote t := by
  cases e with
  | outside e =>
    obtain ⟨hnot, he⟩ := Option.ite_none_left_eq_some.mp he
    obtain ⟨proxy, hp, rfl⟩ := Option.map_eq_some_iff.mp he
    exact hs.outside (by simpa using hnot) hp
  | inside c e =>
    obtain ⟨x, hx, he⟩ := Option.bind_eq_some_iff.mp he
    obtain ⟨x', hx', rfl⟩ := Option.map_eq_some_iff.mp he
    exact hs.inside hx hx'
  | finish c =>
    obtain ⟨x, hx, he⟩ := Option.bind_eq_some_iff.mp he
    obtain ⟨result, hr, he⟩ := Option.bind_eq_some_iff.mp he
    obtain ⟨proxy, hp, rfl⟩ := Option.map_eq_some_iff.mp he
    obtain ⟨hlen, hagrees⟩ := agrees_steps hs.agrees (by simp) (by
      rintro c' result' y ⟨⟩ hy
      obtain rfl := Option.some.inj (hx.symm.trans hy)
      exact hr) hp
    exact ⟨proxy_steps hs.proxy hp, hs.length.trans hlen.symm, hagrees, hs.faithful⟩

theorem run_inv {es : List Event} {s : State} (hrun : run h client remote es = some s) : Inv h client remote s :=
  Transitions.run_invariant hrun init_inv (fun _ _ _ hu he => hu.step he)

/-- The ways `handle_stealth` ends, each with its result. -/
inductive Ended : Inner → Except AppError Unit → Prop
  | copied {session : ZeroCopySession.State}
      (returned : session.phase = .returned (.ok (session.c2s.delivered.length, session.s2c.delivered.length)))
      (shut : session.serverShut = true ∧ session.clientShut = true) : Ended (.forwarding session) (.ok ())
  | absorbed : Ended .absorbed (.ok ())
  | refused {e : ConnectError} (io : isIoRejection e = false) (text : isConnectionErrorRejection e.text = false) :
      Ended (.refused e) (.error (connectFailed e))
  | copyFailed {session : ZeroCopySession.State} {e : AppError} (returned : session.phase = .returned (.error e))
      (silent : session.s2c.delivered = []) (shut : session.clientShut = true) :
      Ended (.forwarding session) (.error (zeroCopyFailed e))

theorem ended_of_result {c r : Bytes} {x : Inner} (hx : Faithful c r x) {result : Except AppError Unit}
    (hr : x.result = some result) : Ended x result := by
  cases x with
  | connecting | blackhole | panicked => cases hr
  | absorbed =>
    cases hr
    exact .absorbed
  | refused e =>
    cases hr
    exact .refused hx.1 hx.2
  | forwarding session =>
    have hphase := hx.phase
    simp only [Inner.result] at hr
    unfold ZeroCopySession.PhaseSound at hphase
    split at hr
    · rename_i counts hp
      obtain ⟨b₁, b₂⟩ := counts
      rw [hp] at hphase
      obtain ⟨⟨hc, hs⟩, hshut⟩ := hphase
      cases hr
      rw [(hx.c2s.count hc).1, (hx.s2c.count hs).1] at hp
      exact .copied hp hshut
    · rename_i e hp
      rw [hp] at hphase
      obtain ⟨⟨hsilent, -⟩, -, hshut⟩ := hphase
      cases hr
      exact .copyFailed hp hsilent hshut
    · cases hr

theorem faithful_prefixes {c r : Bytes} {x : Inner} (hx : Faithful c r x) : x.toRemote <+: c ∧ x.toClient <+: r := by
  cases x with
  | forwarding session => exact hx.prefixes
  | connecting | refused | blackhole | absorbed | panicked => exact ⟨List.nil_prefix, List.nil_prefix⟩

/-- The proxy of a run is one of `GscFq.Stealth`; whatever the interleaving, each side reads the beginning of what the
other sent, and nothing where the connection was turned away before `handle_stealth`; a call that got there ends as
that did, and the two counters count the calls by their ends. -/
theorem connections_forwarded {es : List Event} {s : State} (hrun : run h client remote es = some s) :
    (∃ fs, Stealth.run h fs = some s.proxy) ∧
      (∀ c conn, s.proxy.conns[c]? = some conn → ∃ x, s.inner[c]? = some x ∧
        (x.toRemote <+: client c ∧ x.toClient <+: remote c) ∧
        (∀ result, conn.stage = .returned result →
          if conn.forwarded then Ended x result
          else (∃ e, result = .error e) ∧ x.toRemote = [] ∧ x.toClient = [])) ∧
      s.proxy.counters.successfulConnections = s.proxy.conns.countP succeeded ∧
      s.proxy.counters.failedConnections = s.proxy.conns.countP failed := by
  have hinv := run_inv hrun
  obtain ⟨fs, hfs⟩ := hinv.proxy
  have htallied : Tallied s.proxy := Transitions.run_invariant hfs init_tallied (fun _ _ _ hu he => hu.step he)
  refine ⟨⟨fs, hfs⟩, ?_, htallied.successful, htallied.failed⟩
  intro c conn hconn
  obtain ⟨hc, -⟩ := List.getElem?_eq_some_iff.mp hconn
  obtain ⟨x, hx⟩ : ∃ x, s.inner[c]? = some x := ⟨_, List.getElem?_eq_getElem (hinv.length ▸ hc)⟩
  refine ⟨x, hx, faithful_prefixes (hinv.faithful c _ hx), ?_⟩
  intro result hstage
  have hagrees := hinv.agrees c conn _ hconn hx
  simp only [Agrees, hstage] at hagrees
  rcases hagrees with ⟨hf, hr⟩ | ⟨hf, hstart, hfailed⟩
  · rw [if_pos hf]
    exact ended_of_result (hinv.faithful c _ hx) hr
  · rw [if_neg (by simp [hf]), hstart]
    exact ⟨hfailed, rfl, rfl⟩

def sampleClient : ConnId → Bytes
  | 0 => [1, 2]
  | _ => [7]

def sampleRemote : ConnId → Bytes
  | 0 => [9]
  | _ => []

def sampleEnter (c : ConnId) : List Event :=
  [.outside .accept, .outside (.tcp c (.check (some (.v4 10 0 0 7)))), .outside (.tcp c .count),
    .outside (.tcp c (.optimize (some (.v4 10 0 0 7)) none))]

def sampleEvents : List Event :=
  sampleEnter 0 ++ .inside 0 (.connect (.ok ())) :: sampleEnter 1 ++
    .inside 1 (.connect (.error ⟨.connectionRefused, "Connection refused (os error 111)"⟩)) ::
    (ZeroCopySession.sampleSetup ++ ZeroCopySession.sampleTransfer).map (fun e => .inside 0 (.copy e)) ++
    [.finish 0, .inside 1 (.absorb none 7 (fun i => i * 1000) [.absorbed 1, .disconnected]), .finish 1,
      .outside (.tcp 1 .release), .outside (.tcp 0 .release)]

def sampleHandler : StealthConnectionHandler := ⟨.new (.v4 127 0 0 1) 80, none, none, none⟩

theorem sample_forwarded : ∃ s, run sampleHandler sampleClient sampleRemote sampleEvents = some s ∧
    (∃ x, s.inner[0]? = some x ∧ x.toRemote <+: [1, 2] ∧ Ended x (.ok ())) ∧
      s.proxy.counters.successfulConnections = 2 := by
  have hrun : (run sampleHandler sampleClient sampleRemote sampleEvents).map (fun s => (s.proxy.conns.map (fun conn =>
      (conn.stage, conn.forwarded)), s.proxy.counters.successfulConnections)) =
      some ([(.returned (.ok ()), true), (.returned (.ok ()), true)], 2) := by decide +kernel
  obtain ⟨s, hs, hend⟩ := Option.map_eq_some_iff.mp hrun
  obtain ⟨hconns, hcount⟩ := Prod.mk.inj hend
  obtain ⟨conn, rest, hlist, hfirst, -⟩ := List.map_eq_cons_iff.mp hconns
  obtain ⟨hstage, hforwarded⟩ := Prod.mk.inj hfirst
  obtain ⟨x, hx, hprefix, hresult⟩ := (connections_forwarded hs).2.1 0 conn (by rw [hlist]; rfl)
  have hended := hresult _ hstage
  rw [if_pos hforwarded] at hended
  exact ⟨s, hs, ⟨x, hx, hprefix.1, hended⟩, hcount⟩

end GscFq.ForwardConnections
