import GscFq.TunnelRelayWays

namespace GscFq.TunnelRelay

open ByteStream Pipelines DuplexCopy Transitions

/-- What every turn of a way leaves in order. -/
structure Way.Keeps (w w' : Way) : Prop where
  sound : w'.Sound
  counted : w'.Counted
  same : w'.firstGone = w.firstGone ∧ w'.secondGone = w.secondGone ∧ w'.header = w.header

/-- The copies come after the header: the first when it has been written, the second when it has been read. -/
theorem Way.Turn.keeps {first second : Prop} {w w' : Way} {kind : Kind} (h : w.Turn first second kind w') (hs : w.Sound)
    (hc : w.Counted) (hfirst : first → w.firstGone = false ∧ (w.secondGone = false → w.header ≤ w.tunnel.held.length))
    (hsecond : second → w.secondGone = false ∧ w.header = 0) : Keeps w w' := by
  cases h with
  | send h =>
    refine ⟨hs.send h, hc.send h, ?_⟩
    obtain ⟨-, he⟩ := Option.ite_none_right_eq_some.mp h
    exact Option.some.inj he ▸ ⟨rfl, rfl, rfl⟩
  | close h =>
    refine ⟨hs.close h, hc.close h, ?_⟩
    obtain ⟨-, he⟩ := Option.ite_none_right_eq_some.mp h
    exact Option.some.inj he ▸ ⟨rfl, rfl, rfl⟩
  | read h =>
    refine ⟨hs.read h, hc.read h, ?_⟩
    obtain ⟨-, he⟩ := Option.ite_none_right_eq_some.mp h
    exact Option.some.inj he ▸ ⟨rfl, rfl, rfl⟩
  | readEnd h =>
    refine ⟨hs.readEnd h, hc.readEnd h, ?_⟩
    obtain ⟨-, he⟩ := Option.ite_none_right_eq_some.mp h
    exact Option.some.inj he ▸ ⟨rfl, rfl, rfl⟩
  | copyFirst hf h =>
    refine ⟨hs.copyFirst (hfirst hf).2 (hfirst hf).1 h, hc.copyFirst h, ?_⟩
    obtain ⟨r, -, rfl⟩ := Option.map_eq_some_iff.mp h
    exact ⟨rfl, rfl, rfl⟩
  | copySecond hsec h =>
    refine ⟨hs.copySecond (hsecond hsec).2 (hsecond hsec).1 h, hc.copySecond h, ?_⟩
    obtain ⟨r, -, rfl⟩ := Option.map_eq_some_iff.mp h
    exact ⟨rfl, rfl, rfl⟩

/-- The tunnel stays as it is, grows by what the first copy writes, or is read by the second. -/
theorem Way.Turn.tunnel {first second : Prop} {w w' : Way} {kind : Kind} (h : w.Turn first second kind w') :
    w'.tunnel.held = w.tunnel.held ∨ (first ∧ ∃ xs, w'.tunnel.held = w.tunnel.held ++ xs) ∨ second := by
  cases h with
  | send h | close h | read h | readEnd h =>
    obtain ⟨-, he⟩ := Option.ite_none_right_eq_some.mp h
    exact .inl (Option.some.inj he ▸ rfl)
  | copyFirst hf h =>
    obtain ⟨r, hstep, rfl⟩ := Option.map_eq_some_iff.mp h
    exact .inr (.inl ⟨hf, (step_steps hstep).accounts.grows⟩)
  | copySecond hs h => exact .inr (.inr hs)

/-- The header lies whole at the front of the tunnel. -/
def Headed (port : UInt16) (w : Way) : Prop := w.header = 4 ∧ ∃ data, w.tunnel.held = Tunnel.tcpHeader port ++ data

/-- Where the header is, by the progress of the two tasks. -/
structure Heading (configs : List ReverseProxyConfig) (port : UInt16) (s : State) : Prop where
  entries : s.proxyConfigs = configs
  writing : ∀ rest, s.server = .header rest → rest ≠ [] ∧ s.toLocal.tunnel.held ++ rest = Tunnel.tcpHeader port ∧
    s.toLocal.header = s.toLocal.tunnel.held.length ∧ (s.client = .opening ∨ s.client = .failed)
  opening : s.client = .opening →
    (s.toLocal.tunnel.held.length < 4 ∧ (s.server = .failed ∨ ∃ rest, s.server = .header rest)) ∨ Headed port s.toLocal
  opened : ∀ order, s.client = .opened order →
    s.toLocal.header = 0 ∧ order = (Tunnel.lookup configs port).map (fun target => .tcp target [])
  target : ∀ target, (s.client = .copying target ∨ ∃ a b, s.client = .returned target a b) →
    s.toLocal.header = 0 ∧ Tunnel.lookup configs port = some target

structure Sound (configs : List ReverseProxyConfig) (port : UInt16) (s : State) : Prop where
  heading : Heading configs port s
  toLocal : s.toLocal.Sound
  toUser : s.toUser.Sound
  toLocalCounted : s.toLocal.Counted
  toUserCounted : s.toUser.Counted
  server : (s.toLocal.firstGone = true ↔ s.server = .failed) ∧ (s.toUser.secondGone = true ↔ s.server = .failed)
  client : (s.toLocal.secondGone = true ↔ s.client = .failed) ∧ (s.toUser.firstGone = true ↔ s.client = .failed)
  userHeader : s.toUser.header = 0

variable {configs : List ReverseProxyConfig} {port : UInt16} {s t : State}

theorem init_sound (configs : List ReverseProxyConfig) (port : UInt16) : Sound configs port (init configs port) := by
  refine ⟨⟨rfl, ?_, ?_, ?_, ?_⟩, Way.start_sound, Way.start_sound, Way.start_counted, Way.start_counted, ?_, ?_, rfl⟩
  · rintro rest h
    obtain rfl : Tunnel.tcpHeader port = rest := Server.header.inj h
    exact ⟨by simp [Tunnel.tcpHeader], rfl, rfl, .inl rfl⟩
  · intro _
    exact .inl ⟨Nat.zero_lt_succ 3, .inr ⟨_, rfl⟩⟩
  · rintro order ⟨⟩
  · rintro target (⟨⟨⟩⟩ | ⟨a, b, ⟨⟩⟩)
  · exact ⟨by constructor <;> rintro ⟨⟩, by constructor <;> rintro ⟨⟩⟩
  · exact ⟨by constructor <;> rintro ⟨⟩, by constructor <;> rintro ⟨⟩⟩

/-- A way to the local service changes and the header is where it was. -/
theorem Heading.turn (h : Heading configs port s) {w : Way} (hheader : w.header = s.toLocal.header)
    (htunnel : w.tunnel.held = s.toLocal.tunnel.held ∨
      (s.server = .copying ∧ ∃ xs, w.tunnel.held = s.toLocal.tunnel.held ++ xs) ∨ ∃ target, s.client = .copying target) :
    Heading configs port { s with toLocal := w } := by
  refine ⟨h.entries, ?_, ?_, ?_, ?_⟩
  · intro rest hrest
    obtain ⟨hne, hsplit, hlen, hclient⟩ := h.writing rest hrest
    rcases htunnel with hsame | ⟨hcopying, -⟩ | ⟨target, hc⟩
    · exact ⟨hne, by rw [hsame]; exact hsplit, by rw [hsame, hheader]; exact hlen, hclient⟩
    · exact nomatch hrest.symm.trans hcopying
    · rcases hclient with ho | hf
      · exact nomatch hc.symm.trans ho
      · exact nomatch hc.symm.trans hf
  · intro hopening
    have hold := h.opening hopening
    rcases htunnel with hsame | ⟨hcopying, xs, hxs⟩ | ⟨target, hc⟩
    · rw [Headed, hsame, hheader]
      exact hold
    · rcases hold with ⟨-, hf | ⟨rest, hr⟩⟩ | ⟨hfour, data, hdata⟩
      · exact nomatch hcopying.symm.trans hf
      · exact nomatch hcopying.symm.trans hr
      · exact .inr ⟨hheader.trans hfour, data ++ xs, by rw [hxs, hdata, List.append_assoc]⟩
    · exact nomatch hc.symm.trans hopening
  · intro order ho
    rw [hheader]
    exact h.opened order ho
  · intro target ht
    rw [hheader]
    exact h.target target ht

theorem Sound.turnLocal (h : Sound configs port s) {w : Way} (hk : Way.Keeps s.toLocal w)
    (htunnel : w.tunnel.held = s.toLocal.tunnel.held ∨
      (s.server = .copying ∧ ∃ xs, w.tunnel.held = s.toLocal.tunnel.held ++ xs) ∨ ∃ target, s.client = .copying target) :
    Sound configs port { s with toLocal := w } := by
  refine ⟨h.heading.turn hk.same.2.2 htunnel, hk.sound, h.toUser, hk.counted, h.toUserCounted, ?_, ?_, h.userHeader⟩
  · exact ⟨by rw [hk.same.1]; exact h.server.1, h.server.2⟩
  · exact ⟨by rw [hk.same.2.1]; exact h.client.1, h.client.2⟩

theorem Sound.turnUser (h : Sound configs port s) {w : Way} (hk : Way.Keeps s.toUser w) :
    Sound configs port { s with toUser := w } := by
  refine ⟨⟨h.heading.entries, h.heading.writing, h.heading.opening, h.heading.opened, h.heading.target⟩, h.toLocal,
    hk.sound, h.toLocalCounted, hk.counted, ?_, ?_, hk.same.2.2.trans h.userHeader⟩
  · exact ⟨h.server.1, by rw [hk.same.2.1]; exact h.server.2⟩
  · exact ⟨h.client.1, by rw [hk.same.1]; exact h.client.2⟩

theorem parseOrder_tcpHeader (configs : List ReverseProxyConfig) (port : UInt16) :
    Tunnel.parseOrder configs (Tunnel.tcpHeader port) = (Tunnel.lookup configs port).map (fun target => .tcp target []) := by
  simp only [Tunnel.tcpHeader, Tunnel.parseOrder, ofBe16_be16, if_true]
  cases Tunnel.lookup configs port <;> rfl

theorem writeHeader_sound (h : Sound configs port s) {k : ℕ} (hw : s.writeHeader k = some t) : Sound configs port t := by
  unfold State.writeHeader at hw
  split at hw
  · rename_i rest hserver
    obtain ⟨⟨hk, hle⟩, he⟩ := Option.ite_none_right_eq_some.mp hw
    obtain rfl := Option.some.inj he
    obtain ⟨hne, hsplit, hlen, hclient⟩ := h.heading.writing rest hserver
    have hsplit' : (s.toLocal.tunnel.held ++ rest.take k) ++ rest.drop k = Tunnel.tcpHeader port := by
      rw [List.append_assoc, List.take_append_drop, hsplit]
    have hlen' : s.toLocal.header + (rest.take k).length = (s.toLocal.tunnel.held ++ rest.take k).length := by
      rw [List.length_append, hlen]
    refine ⟨⟨h.heading.entries, ?_, ?_, ?_, ?_⟩, h.toLocal.writeHeader hlen _, h.toUser, ⟨h.toLocalCounted.first,
      h.toLocalCounted.second⟩, h.toUserCounted, ?_, h.client, h.userHeader⟩
    · intro rest' hr
      dsimp only at hr
      split at hr
      · cases hr
      · rename_i hmore
        obtain rfl := Server.header.inj hr
        exact ⟨hmore, hsplit', hlen', hclient⟩
    · intro _
      by_cases hdone : rest.drop k = []
      · rw [hdone, List.append_nil] at hsplit'
        refine .inr ⟨?_, [], by rw [List.append_nil]; exact hsplit'⟩
        exact hlen'.trans (by rw [hsplit']; rfl)
      · refine .inl ⟨?_, .inr ⟨rest.drop k, if_neg hdone⟩⟩
        have hpos := List.length_pos_iff.mpr hdone
        have htotal := congrArg List.length hsplit'
        rw [List.length_append] at htotal
        change _ = 4 at htotal
        dsimp only [Way.writeHeader, Stage.put_held]
        rw [List.length_append]
        omega
    · intro order ho
      rcases hclient with hc | hc <;> exact nomatch hc.symm.trans ho
    · rintro target (hc' | ⟨a, b, hc'⟩) <;> rcases hclient with hc | hc <;> exact nomatch hc.symm.trans hc'
    · have hlive : ¬ (if rest.drop k = [] then Server.copying else .header (rest.drop k)) = .failed := by
        split <;> exact nofun
      have hold : ¬ s.server = .failed := by
        rw [hserver]
        exact nofun
      exact ⟨h.server.1.trans (iff_of_false hold hlive), h.server.2.trans (iff_of_false hold hlive)⟩
  · cases hw

theorem readHeader_sound (h : Sound configs port s) (hr : s.readHeader = some t) : Sound configs port t := by
  obtain ⟨⟨hopening, hfour⟩, he⟩ := Option.ite_none_right_eq_some.mp hr
  obtain rfl := Option.some.inj he
  obtain ⟨hheader, data, hdata⟩ : Headed port s.toLocal := by
    rcases h.heading.opening hopening with ⟨hlt, -⟩ | hheaded
    · omega
    · exact hheaded
  have htake : s.toLocal.tunnel.held.take 4 = Tunnel.tcpHeader port := by
    rw [hdata]
    rfl
  have hclient : ¬ s.client = .failed := by
    rw [hopening]
    exact nofun
  refine ⟨⟨h.heading.entries, ?_, ?_, ?_, ?_⟩, h.toLocal.readHeader hheader, h.toUser, ⟨h.toLocalCounted.first,
    h.toLocalCounted.second⟩, h.toUserCounted, h.server, ?_, h.userHeader⟩
  · intro rest hrest
    obtain ⟨hne, hsplit, -, -⟩ := h.heading.writing rest hrest
    have htotal := congrArg List.length hsplit
    rw [List.length_append] at htotal
    change _ = 4 at htotal
    have hpos := List.length_pos_iff.mpr hne
    omega
  · rintro ⟨⟩
  · intro order ho
    obtain rfl := Client.opened.inj ho
    dsimp only [Way.readHeader]
    rw [hheader, htake, h.heading.entries]
    exact ⟨rfl, parseOrder_tcpHeader configs port⟩
  · rintro target (⟨⟨⟩⟩ | ⟨a, b, ⟨⟩⟩)
  · exact ⟨h.client.1.trans (iff_of_false hclient nofun), h.client.2.trans (iff_of_false hclient nofun)⟩

theorem connect_sound (h : Sound configs port s) (hc : s.connect = some t) : Sound configs port t := by
  unfold State.connect at hc
  split at hc
  · rename_i target data hopened
    obtain rfl := Option.some.inj hc
    obtain ⟨hheader, horder⟩ := h.heading.opened _ hopened
    have hclient : ¬ s.client = .failed := by
      rw [hopened]
      exact nofun
    refine ⟨⟨h.heading.entries, ?_, ?_, ?_, ?_⟩, h.toLocal, h.toUser, h.toLocalCounted, h.toUserCounted, h.server, ?_,
      h.userHeader⟩
    · intro rest hrest
      obtain ⟨-, -, -, hc | hc⟩ := h.heading.writing rest hrest <;> exact nomatch hopened.symm.trans hc
    · rintro ⟨⟩
    · rintro order ⟨⟩
    · rintro target' (ht | ⟨a, b, ⟨⟩⟩)
      obtain rfl := Client.copying.inj ht
      obtain ⟨found, hfound, hf⟩ := Option.map_eq_some_iff.mp horder.symm
      simp only [Tunnel.Order.tcp.injEq] at hf
      rw [← hf.1]
      exact ⟨hheader, hfound⟩
    · exact ⟨h.client.1.trans (iff_of_false hclient nofun), h.client.2.trans (iff_of_false hclient nofun)⟩
  · cases hc

theorem serverReturns_sound (h : Sound configs port s) (hr : s.serverReturns = some t) : Sound configs port t := by
  obtain ⟨⟨hcopying, -, -⟩, he⟩ := Option.ite_none_right_eq_some.mp hr
  obtain rfl := Option.some.inj he
  have hserver : ¬ s.server = .failed := by
    rw [hcopying]
    exact nofun
  refine ⟨⟨h.heading.entries, by rintro rest ⟨⟩, ?_, h.heading.opened, h.heading.target⟩, h.toLocal, h.toUser,
    h.toLocalCounted, h.toUserCounted, ?_, h.client, h.userHeader⟩
  · intro hopening
    rcases h.heading.opening hopening with ⟨-, hf | ⟨rest, hf⟩⟩ | hheaded
    · exact absurd hf hserver
    · exact nomatch hcopying.symm.trans hf
    · exact .inr hheaded
  · exact ⟨h.server.1.trans (iff_of_false hserver nofun), h.server.2.trans (iff_of_false hserver nofun)⟩

theorem clientReturns_sound (h : Sound configs port s) (hr : s.clientReturns = some t) : Sound configs port t := by
  unfold State.clientReturns at hr
  split at hr
  · rename_i target hcopying
    obtain ⟨-, he⟩ := Option.ite_none_right_eq_some.mp hr
    obtain rfl := Option.some.inj he
    have hclient : ¬ s.client = .failed := by
      rw [hcopying]
      exact nofun
    refine ⟨⟨h.heading.entries, ?_, by rintro ⟨⟩, by rintro order ⟨⟩, ?_⟩, h.toLocal, h.toUser,
      h.toLocalCounted, h.toUserCounted, h.server, ?_, h.userHeader⟩
    · intro rest hrest
      obtain ⟨-, -, -, hc | hc⟩ := h.heading.writing rest hrest <;> exact nomatch hcopying.symm.trans hc
    · rintro target' (⟨⟨⟩⟩ | ⟨a, b, ht⟩)
      have ht : target = target' := by
        injection ht
      exact ht ▸ h.heading.target target (.inl hcopying)
    · exact ⟨h.client.1.trans (iff_of_false hclient nofun), h.client.2.trans (iff_of_false hclient nofun)⟩
  · cases hr

theorem Way.Counted.loseFirst {w : Way} (h : w.Counted) (fin : Bool) : (w.loseFirst fin).Counted := ⟨h.first, h.second⟩

theorem Way.Counted.loseSecond {w : Way} (h : w.Counted) (fin : Bool) : (w.loseSecond fin).Counted :=
  ⟨h.first, by rintro ⟨⟩⟩

theorem serverFails_sound (h : Sound configs port s) {tunnelFin userFin : Bool}
    (hf : s.serverFails tunnelFin userFin = some t) : Sound configs port t := by
  obtain rfl : { s with
      server := .failed, toLocal := s.toLocal.loseFirst tunnelFin, toUser := s.toUser.loseSecond userFin } = t := by
    unfold State.serverFails at hf
    split at hf
    · exact Option.some.inj hf
    · exact Option.some.inj hf
    · cases hf
  refine ⟨⟨h.heading.entries, by rintro rest ⟨⟩, ?_, h.heading.opened, h.heading.target⟩, h.toLocal.loseFirst tunnelFin,
    h.toUser.loseSecond userFin, h.toLocalCounted.loseFirst tunnelFin, h.toUserCounted.loseSecond userFin,
    ⟨by simp [Way.loseFirst], by simp [Way.loseSecond]⟩, h.client, h.userHeader⟩
  intro hopening
  rcases h.heading.opening hopening with ⟨hlt, -⟩ | ⟨hfour, data, hdata⟩
  · refine .inl ⟨?_, .inl rfl⟩
    cases tunnelFin
    · exact Nat.zero_lt_succ 3
    · exact hlt
  · cases tunnelFin
    · exact .inl ⟨Nat.zero_lt_succ 3, .inl rfl⟩
    · exact .inr ⟨hfour, data, hdata⟩

theorem clientFails_sound (h : Sound configs port s) {tunnelFin localFin : Bool}
    (hf : s.clientFails tunnelFin localFin = some t) : Sound configs port t := by
  obtain ⟨w, rfl, hsound, hcounted, htunnel, hfirst, hsecond⟩ : ∃ w : Way, { s with
      client := .failed, toLocal := w, toUser := s.toUser.loseFirst tunnelFin } = t ∧ w.Sound ∧ w.Counted ∧
      (w.tunnel = s.toLocal.tunnel ∧ w.header = s.toLocal.header) ∧ w.firstGone = s.toLocal.firstGone ∧
        w.secondGone = true := by
    have hlost : ({ s.toLocal with secondGone := true } : Way).Sound := by
      have hline : ({ s.toLocal with secondGone := true } : Way).line = [s.toLocal.got, s.toLocal.sink] :=
        Way.line_secondGone rfl
      obtain ⟨back, hback, -⟩ := s.toLocal.line_eq_append
      have hd := h.toLocal.drained
      have hc := h.toLocal.arriving
      rw [hback] at hd hc
      refine ⟨?_, ?_, by rintro - ⟨⟩⟩
      · rw [hline]
        exact hd.left
      · rw [hline]
        rw [contents_append] at hc
        exact (List.prefix_append _ _).trans hc
    unfold State.clientFails at hf
    split at hf
    · exact ⟨_, Option.some.inj hf, hlost, ⟨h.toLocalCounted.first, by rintro ⟨⟩⟩, ⟨rfl, rfl⟩, rfl, rfl⟩
    · exact ⟨_, Option.some.inj hf, hlost, ⟨h.toLocalCounted.first, by rintro ⟨⟩⟩, ⟨rfl, rfl⟩, rfl, rfl⟩
    · exact ⟨_, Option.some.inj hf, h.toLocal.loseSecond localFin, h.toLocalCounted.loseSecond localFin, ⟨rfl, rfl⟩,
        rfl, rfl⟩
    · cases hf
  refine ⟨⟨h.heading.entries, ?_, by rintro ⟨⟩, by rintro order ⟨⟩, by rintro target (⟨⟨⟩⟩ | ⟨a, b, ⟨⟩⟩)⟩, hsound,
    h.toUser.loseFirst tunnelFin, hcounted, h.toUserCounted.loseFirst tunnelFin, ?_, ?_, h.userHeader⟩
  · intro rest hrest
    obtain ⟨hne, hsplit, hlen, -⟩ := h.heading.writing rest hrest
    dsimp only
    rw [htunnel.1, htunnel.2]
    exact ⟨hne, hsplit, hlen, .inr rfl⟩
  · exact ⟨by rw [hfirst]; exact h.server.1, h.server.2⟩
  · exact ⟨by simp [hsecond], by simp [Way.loseFirst]⟩

theorem Sound.live (h : Sound configs port s) :
    (s.server ≠ .failed → s.toLocal.firstGone = false ∧ s.toUser.secondGone = false) ∧
      (s.client ≠ .failed → s.toLocal.secondGone = false ∧ s.toUser.firstGone = false) := by
  refine ⟨fun hs => ⟨?_, ?_⟩, fun hc => ⟨?_, ?_⟩⟩ <;> apply Bool.eq_false_iff.mpr
  · exact fun hg => hs (h.server.1.mp hg)
  · exact fun hg => hs (h.server.2.mp hg)
  · exact fun hg => hc (h.client.1.mp hg)
  · exact fun hg => hc (h.client.2.mp hg)

/-- Where the server copies into the tunnel and the client is there to read it, the header is in it or read. -/
theorem Sound.header_le (h : Sound configs port s) (hs : s.server = .copying) (hlive : s.toLocal.secondGone = false) :
    s.toLocal.header ≤ s.toLocal.tunnel.held.length := by
  cases hc : s.client with
  | opening =>
    rcases h.heading.opening hc with ⟨-, hf | ⟨rest, hf⟩⟩ | ⟨hfour, data, hdata⟩
    · exact nomatch hs.symm.trans hf
    · exact nomatch hs.symm.trans hf
    · rw [hfour, hdata, List.length_append]
      exact Nat.le_add_right 4 _
  | opened order => exact (h.heading.opened order hc).1 ▸ Nat.zero_le _
  | copying target => exact (h.heading.target target (.inl hc)).1 ▸ Nat.zero_le _
  | returned target a b => exact (h.heading.target target (.inr ⟨a, b, hc⟩)).1 ▸ Nat.zero_le _
  | failed =>
    rw [h.client.1.mpr hc] at hlive
    cases hlive

theorem Move.sound {kind : Kind} (hm : Move s kind t) (h : Sound configs port s) : Sound configs port t := by
  have hserver : s.server = .copying → s.toLocal.firstGone = false ∧ s.toUser.secondGone = false := fun hs =>
    h.live.1 (by rw [hs]; exact nofun)
  have hclient : (∃ target, s.client = .copying target) → s.toLocal.secondGone = false ∧ s.toUser.firstGone = false := by
    rintro ⟨target, hc⟩
    exact h.live.2 (by rw [hc]; exact nofun)
  cases hm with
  | toLocal hturn =>
    refine h.turnLocal (hturn.keeps h.toLocal h.toLocalCounted (fun hs => ⟨(hserver hs).1, h.header_le hs⟩) ?_) hturn.tunnel
    rintro ⟨target, hc⟩
    exact ⟨(hclient ⟨target, hc⟩).1, (h.heading.target target (.inl hc)).1⟩
  | toUser hturn =>
    refine h.turnUser (hturn.keeps h.toUser h.toUserCounted ?_ (fun hs => ⟨(hserver hs).2, h.userHeader⟩))
    exact fun hc => ⟨(hclient hc).2, fun _ => h.userHeader ▸ Nat.zero_le _⟩
  | writeHeader hw => exact writeHeader_sound h hw
  | readHeader hr => exact readHeader_sound h hr
  | connect hc => exact connect_sound h hc
  | serverReturns hr => exact serverReturns_sound h hr
  | clientReturns hr => exact clientReturns_sound h hr
  | serverFails hf => exact serverFails_sound h hf
  | clientFails hf => exact clientFails_sound h hf

theorem run_sound {es : List Event} (h : run step (init configs port) es = some s) : Sound configs port s :=
  run_invariant h (init_sound configs port) (fun _ _ _ hu he => (step_move he).sound hu)

end GscFq.TunnelRelay
