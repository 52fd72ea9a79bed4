import GscFq.TunnelRelayDelivery

namespace GscFq.TunnelRelay

open ByteStream Pipelines DuplexCopy Transitions

def Server.toGo : Server → ℕ
  | .header rest => rest.length + 1
  | .copying => 1
  | .returned _ _ | .failed => 0

def Client.toGo : Client → ℕ
  | .opening => 3
  | .opened _ => 2
  | .copying _ => 1
  | .returned _ _ _ | .failed => 0

def State.toGo (s : State) : ℕ :=
  s.server.toGo + s.client.toGo + Pipelines.toGo s.toLocal.line + Pipelines.toGo s.toUser.line

variable {configs : List ReverseProxyConfig} {port : UInt16} {s t : State}

theorem Move.toGo_lt (hm : Move s .internal t) (h : Sound configs port s) (hs : Settled s) : t.toGo < s.toGo := by
  obtain ⟨⟨hl₁, hl₂⟩, hu₁, hu₂⟩ := h.gone hs
  cases hm with
  | toLocal hturn =>
    have hflow := hturn.internal_flow (fun hc => ⟨hl₁, hl₂, h.header_le hc hl₂⟩)
      (by rintro ⟨target, hc⟩; exact ⟨hl₂, (h.heading.target target (.inl hc)).1⟩)
    have hlt := hflow.toGo_lt
    simp only [State.toGo]
    omega
  | toUser hturn =>
    have hflow := hturn.internal_flow (fun _ => ⟨hu₁, hu₂, h.userHeader ▸ Nat.zero_le _⟩)
      (fun _ => ⟨hu₂, h.userHeader⟩)
    have hlt := hflow.toGo_lt
    simp only [State.toGo]
    omega
  | @writeHeader k _ hw =>
    unfold State.writeHeader at hw
    split at hw
    · rename_i rest hserver
      obtain ⟨⟨hk, hle⟩, he⟩ := Option.ite_none_right_eq_some.mp hw
      obtain rfl := Option.some.inj he
      have hline := Way.writeHeader_line (h.heading.writing rest hserver).2.2.1 (rest.take k)
      simp only [State.toGo, hline, hserver]
      by_cases hdone : rest.drop k = []
      · rw [if_pos hdone, Server.toGo, Server.toGo]
        omega
      · rw [if_neg hdone, Server.toGo, Server.toGo, List.length_drop]
        omega
    · cases hw
  | readHeader hr =>
    obtain ⟨⟨hopening, hfour⟩, he⟩ := Option.ite_none_right_eq_some.mp hr
    obtain rfl := Option.some.inj he
    have hheader : s.toLocal.header = 4 := by
      rcases h.heading.opening hopening with ⟨hlt, -⟩ | hheaded
      · omega
      · exact hheaded.1
    have hline := Way.readHeader_line hheader
    simp only [State.toGo, hline, hopening, Client.toGo]
    omega
  | connect hc =>
    unfold State.connect at hc
    split at hc
    · rename_i hopened
      obtain rfl := Option.some.inj hc
      simp only [State.toGo, hopened, Client.toGo]
      omega
    · cases hc
  | serverReturns hr =>
    obtain ⟨⟨hcopying, -, -⟩, he⟩ := Option.ite_none_right_eq_some.mp hr
    obtain rfl := Option.some.inj he
    simp only [State.toGo, hcopying, Server.toGo]
    omega
  | clientReturns hr =>
    unfold State.clientReturns at hr
    split at hr
    · rename_i hcopying
      obtain ⟨-, he⟩ := Option.ite_none_right_eq_some.mp hr
      obtain rfl := Option.some.inj he
      simp only [State.toGo, hcopying, Client.toGo]
      omega
    · cases hr

end GscFq.TunnelRelay
