import GscFq.TunnelRelayRuns

namespace GscFq.TunnelRelay

open ByteStream Pipelines DuplexCopy Transitions

/-- Marks stay, and a sender that has closed its side has sent all it will. -/
structure Way.Later (w w' : Way) : Prop where
  sent : w.source.ended = true → w'.sent = w.sent
  tunnel : w.tunnel.ended = true → w'.tunnel.ended = true
  sink : w.sink.ended = true → w'.sink.ended = true

namespace Way

variable {first second : Prop} {w w' : Way} {kind : Kind}

theorem Turn.later (h : w.Turn first second kind w') : Later w w' := by
  cases h with
  | send h =>
    obtain ⟨hopen, he⟩ := Option.ite_none_right_eq_some.mp h
    obtain rfl := Option.some.inj he
    exact ⟨fun hended => absurd hended (by simp [hopen]), id, id⟩
  | close h | read h | readEnd h =>
    obtain ⟨-, he⟩ := Option.ite_none_right_eq_some.mp h
    obtain rfl := Option.some.inj he
    exact ⟨fun _ => rfl, id, id⟩
  | copyFirst _ h =>
    obtain ⟨r, hstep, rfl⟩ := Option.map_eq_some_iff.mp h
    exact ⟨fun _ => rfl, (step_steps hstep).accounts.sink, id⟩
  | copySecond _ h =>
    obtain ⟨r, hstep, rfl⟩ := Option.map_eq_some_iff.mp h
    have haccounts := (step_steps hstep).accounts
    exact ⟨fun _ => rfl, fun ht => haccounts.source.trans ht, haccounts.sink⟩

theorem Turn.internal_flow (h : w.Turn first second .internal w')
    (hfirst : first → w.firstGone = false ∧ w.secondGone = false ∧ w.header ≤ w.tunnel.held.length)
    (hsecond : second → w.secondGone = false ∧ w.header = 0) : Flow w.line w'.line := by
  cases h with
  | read h => exact read_flow h
  | readEnd h => exact readEnd_flow h
  | copyFirst hf h =>
    obtain ⟨h₁, h₂, hheader⟩ := hfirst hf
    exact copyFirst_flow hheader h₁ h₂ h
  | copySecond hs h => exact copySecond_flow (hsecond hs).2 (hsecond hs).1 h

/-- A way on which nothing more can happen has brought over what was sent. -/
theorem Sound.delivered (hs : w.Sound) (h₁ : w.firstGone = false) (h₂ : w.secondGone = false) (hheader : w.header = 0)
    (hfirst : w.tunnel.ended = false → ∀ e, w.copyFirst e = none)
    (hsecond : w.sink.ended = false → ∀ e, w.copySecond e = none) (hread : ∀ k, w.read k = none)
    (hreadEnd : w.readEnd = none) :
    w.got.held = w.sent ∧ (w.source.ended = true → w.got.ended = true ∧ w.sink.ended = true ∧ w.tunnel.ended = true) := by
  have hsink : w.sink.held = [] := by
    by_contra hne
    have hone := hread 1
    rw [Way.read, if_pos ⟨Nat.one_pos, List.length_pos_iff.mpr hne⟩] at hone
    cases hone
  have hwhole := hs.whole h₁ h₂
  have hd := hs.drained
  rw [line_whole h₁ h₂, hheader] at hwhole hd
  rcases Bool.eq_false_or_eq_true w.sink.ended with hended | hopen
  · have hgot : w.got.ended = true := by
      by_contra hg
      rw [Way.readEnd, if_pos ⟨hsink, hended, by simpa using hg⟩] at hreadEnd
      cases hreadEnd
    obtain ⟨-, hall⟩ := Drained.contents_of_ended hd hgot
    exact ⟨(hs.got_ended h₁ h₂ hgot).1, fun _ => ⟨hgot, hended, hall (w.tunnel.drop 0) (by simp)⟩⟩
  · obtain ⟨hsecondBuffer, htunnel⟩ := waits hopen (fun e => Option.map_eq_none_iff.mp (hsecond hopen e))
    obtain ⟨hfirstBuffer, hsource⟩ := waits (by rw [htunnel]; rfl)
      (fun e => Option.map_eq_none_iff.mp (hfirst (by rw [htunnel]; rfl) e))
    rw [hsecondBuffer, htunnel, hfirstBuffer, hsource] at hwhole
    simp only [contents_cons, contents_nil, hsink, Stage.drop_held, Stage.empty, List.drop_nil, List.append_nil] at hwhole
    refine ⟨hwhole, ?_⟩
    rw [hsource]
    rintro ⟨⟩

end Way

variable {configs : List ReverseProxyConfig} {port : UInt16} {s t : State}

/-- A run in which nothing fails, where a task that has returned has seen both directions end. -/
structure Settled (s : State) : Prop where
  live : s.server ≠ .failed ∧ s.client ≠ .failed
  server : ∀ a b, s.server = .returned a b → (s.toLocal.tunnel.ended = true ∧ s.toUser.sink.ended = true) ∧
    a = s.toLocal.sent.length ∧ b = s.toUser.sent.length
  client : ∀ target a b, s.client = .returned target a b →
    (s.toLocal.sink.ended = true ∧ s.toUser.tunnel.ended = true) ∧ a = s.toLocal.sent.length ∧ b = s.toUser.sent.length

theorem Sound.gone (h : Sound configs port s) (hs : Settled s) :
    (s.toLocal.firstGone = false ∧ s.toLocal.secondGone = false) ∧
      s.toUser.firstGone = false ∧ s.toUser.secondGone = false := by
  obtain ⟨h₁, h₂⟩ := h.live.1 hs.live.1
  obtain ⟨h₃, h₄⟩ := h.live.2 hs.live.2
  exact ⟨⟨h₁, h₃⟩, h₄, h₂⟩

theorem Way.count_tunnel {w : Way} (hs : w.Sound) (hc : w.Counted) (h₁ : w.firstGone = false) (h₂ : w.secondGone = false)
    (htunnel : w.tunnel.ended = true) : w.first.amount = w.sent.length := by
  obtain ⟨hbuffer, hsource, -⟩ := hs.tunnel_ended h₁ h₂ htunnel
  have hfirst := hc.first
  rw [hbuffer, hsource] at hfirst
  exact hfirst

theorem Way.count_sink {w : Way} (hs : w.Sound) (hc : w.Counted) (h₁ : w.firstGone = false) (h₂ : w.secondGone = false)
    (hsink : w.sink.ended = true) : w.second.amount = w.sent.length := by
  rw [hc.second h₂, ← (hs.sink_ended h₁ h₂ hsink).1, List.length_append]
  omega

theorem Move.settled {kind : Kind} (hm : Move s kind t) (hkind : kind ≠ .failure) (h : Sound configs port s)
    (hs : Settled s) : Settled t := by
  obtain ⟨⟨hl₁, hl₂⟩, hu₁, hu₂⟩ := h.gone hs
  cases hm with
  | toLocal hturn =>
    have hlater := hturn.later
    refine ⟨hs.live, ?_, ?_⟩
    · intro a b hr
      obtain ⟨⟨htunnel, hsink⟩, ha, hb⟩ := hs.server a b hr
      exact ⟨⟨hlater.tunnel htunnel, hsink⟩, by rw [ha, ← hlater.sent (h.toLocal.tunnel_ended hl₁ hl₂ htunnel).2.2], hb⟩
    · intro target a b hr
      obtain ⟨⟨hsink, htunnel⟩, ha, hb⟩ := hs.client target a b hr
      exact ⟨⟨hlater.sink hsink, htunnel⟩, by rw [ha, ← hlater.sent (h.toLocal.sink_ended hl₁ hl₂ hsink).2], hb⟩
  | toUser hturn =>
    have hlater := hturn.later
    refine ⟨hs.live, ?_, ?_⟩
    · intro a b hr
      obtain ⟨⟨htunnel, hsink⟩, ha, hb⟩ := hs.server a b hr
      exact ⟨⟨htunnel, hlater.sink hsink⟩, ha, by rw [hb, ← hlater.sent (h.toUser.sink_ended hu₁ hu₂ hsink).2]⟩
    · intro target a b hr
      obtain ⟨⟨hsink, htunnel⟩, ha, hb⟩ := hs.client target a b hr
      exact ⟨⟨hsink, hlater.tunnel htunnel⟩, ha, by rw [hb, ← hlater.sent (h.toUser.tunnel_ended hu₁ hu₂ htunnel).2.2]⟩
  | writeHeader hw =>
    unfold State.writeHeader at hw
    split at hw
    · rename_i rest hserver
      obtain ⟨-, he⟩ := Option.ite_none_right_eq_some.mp hw
      obtain rfl := Option.some.inj he
      refine ⟨⟨?_, hs.live.2⟩, ?_, hs.client⟩
      · dsimp only
        split <;> exact nofun
      · intro a b hr
        dsimp only at hr
        split at hr <;> cases hr
    · cases hw
  | readHeader hr =>
    obtain ⟨-, he⟩ := Option.ite_none_right_eq_some.mp hr
    obtain rfl := Option.some.inj he
    exact ⟨⟨hs.live.1, nofun⟩, hs.server, nofun⟩
  | connect hc =>
    unfold State.connect at hc
    split at hc
    · obtain rfl := Option.some.inj hc
      exact ⟨⟨hs.live.1, nofun⟩, hs.server, nofun⟩
    · cases hc
  | serverReturns hr =>
    obtain ⟨⟨-, htunnel, hsink⟩, he⟩ := Option.ite_none_right_eq_some.mp hr
    obtain rfl := Option.some.inj he
    refine ⟨⟨nofun, hs.live.2⟩, ?_, hs.client⟩
    intro a b hr
    obtain ⟨rfl, rfl⟩ := Server.returned.inj hr
    exact ⟨⟨htunnel, hsink⟩, Way.count_tunnel h.toLocal h.toLocalCounted hl₁ hl₂ htunnel,
      Way.count_sink h.toUser h.toUserCounted hu₁ hu₂ hsink⟩
  | clientReturns hr =>
    unfold State.clientReturns at hr
    split at hr
    · obtain ⟨⟨hsink, htunnel⟩, he⟩ := Option.ite_none_right_eq_some.mp hr
      obtain rfl := Option.some.inj he
      refine ⟨⟨hs.live.1, nofun⟩, hs.server, ?_⟩
      intro target a b hr
      obtain ⟨-, rfl, rfl⟩ := Client.returned.inj hr
      exact ⟨⟨hsink, htunnel⟩, Way.count_sink h.toLocal h.toLocalCounted hl₁ hl₂ hsink,
        Way.count_tunnel h.toUser h.toUserCounted hu₁ hu₂ htunnel⟩
    · cases hr
  | serverFails | clientFails => exact absurd rfl hkind

end GscFq.TunnelRelay
