import GscFq.TunnelFrames

namespace GscFq.Tunnel

open ByteStream

theorem responseRound_length {s rest : Stream IoError} {response : Bytes}
    (h : responseRound s = some (response, rest)) :
    response.length + rest.bytes.length + 2 = s.bytes.length := by
  unfold responseRound at h
  cases h₁ : readExact 2 s with
  | pending => simp [h₁] at h
  | err e => simp [h₁] at h
  | ok lenBytes s₁ =>
    simp only [h₁] at h
    cases h₂ : readExact (ofBe lenBytes) s₁ with
    | pending => simp [h₂] at h
    | err e => simp [h₂] at h
    | ok data s₂ =>
      simp only [h₂, Option.some.injEq, Prod.mk.injEq] at h
      obtain ⟨rfl, rfl⟩ := h
      obtain ⟨hl₁, hb₁, -⟩ := readExact_ok h₁
      obtain ⟨-, hb₂, -⟩ := readExact_ok h₂
      rw [hb₁, hb₂, List.length_append, List.length_append]
      omega

theorem udpResponses_fuel (n : ℕ) (s : Stream IoError) (h : s.bytes.length ≤ n) :
    udpResponses n s = sentToPeer s := by
  induction n using Nat.strong_induction_on generalizing s with
  | _ n ih =>
    unfold sentToPeer
    cases hr : responseRound s with
    | none => cases n <;> cases s.bytes.length <;> simp [udpResponses, hr]
    | some p =>
      obtain ⟨response, rest⟩ := p
      have hlen := responseRound_length hr
      obtain ⟨k, hk⟩ : ∃ k, s.bytes.length = k + 1 := ⟨s.bytes.length - 1, by omega⟩
      obtain ⟨m, rfl⟩ : ∃ m, n = m + 1 := ⟨n - 1, by omega⟩
      rw [hk, udpResponses, udpResponses, hr]
      simp only [List.cons.injEq, true_and]
      rw [ih m (by omega) rest (by omega), ih k (by omega) rest (by omega)]

theorem sentToPeer_cons (s : Stream IoError) : sentToPeer s =
    match responseRound s with
    | some (response, rest) => response :: sentToPeer rest
    | none => [] := by
  rw [← udpResponses_fuel (s.bytes.length + 1) s (Nat.le_succ _), udpResponses]
  cases hr : responseRound s with
  | none => rfl
  | some p =>
    have hlen := responseRound_length hr
    simp only [List.cons.injEq, true_and]
    exact udpResponses_fuel _ _ (by omega)

theorem length_of_mem_sentToPeer {s : Stream IoError} {d : Bytes} (h : d ∈ sentToPeer s) :
    d.length + 2 ≤ s.bytes.length := by
  have key : ∀ n (s : Stream IoError), s.bytes.length ≤ n → d ∈ sentToPeer s → d.length + 2 ≤ s.bytes.length := by
    intro n
    induction n with
    | zero =>
      intro s hn hd
      have h0 : s.bytes.length = 0 := Nat.le_zero.mp hn
      simp [sentToPeer, h0, udpResponses] at hd
    | succ n ih =>
      intro s hn hd
      rw [sentToPeer_cons] at hd
      cases hr : responseRound s with
      | none => simp [hr] at hd
      | some p =>
        have hlen := responseRound_length hr
        simp only [hr, List.mem_cons] at hd
        rcases hd with rfl | hd
        · omega
        · have hrest := ih p.2 (by omega) hd
          omega
  exact key _ s (Nat.le_refl _) h

theorem written_udp (configs : List ReverseProxyConfig) (net : LocalNet) {s : Stream IoError}
    (ht : s.bytes.head? = some 0x02) :
    (handleTunnelStream configs net s).written = [] ∨
      ∃ d, net.recvUdp = .datagram d ∧ (handleTunnelStream configs net s).written = d.take 65535 := by
  have hspec := handleTunnelStream_spec configs net s
  cases hp : parseOrder configs s.bytes with
  | none =>
    rw [hp] at hspec
    rcases hspec with ⟨h, -⟩ | ⟨e, h⟩ <;> exact Or.inl (by rw [h]; rfl)
  | some order =>
    rw [hp] at hspec
    cases order with
    | tcp target data =>
      unfold parseOrder at hp
      split at hp
      · rename_i msgType _ hi lo rest hb
        rw [hb, List.head?_cons, Option.some.injEq] at ht
        subst ht
        cases hl : lookup configs (ofBe16 hi lo) with
        | none => simp [hl] at hp
        | some c => cases hu : udpPayload rest <;> simp [hl, hu] at hp
      · cases hp
    | udp target payload =>
      simp only at hspec
      rw [hspec, forwardUdp]
      cases net.bindUdp with
      | some e => exact Or.inl rfl
      | none =>
        cases net.sendUdp with
        | some e => exact Or.inl rfl
        | none =>
          simp only [udpAnswer]
          cases hd : net.recvUdp with
          | datagram d =>
            cases net.writeBack with
            | some e => exact Or.inl rfl
            | none => exact Or.inr ⟨d, rfl, rfl⟩
          | failed | timeout => exact Or.inl rfl

theorem udp_response_never_transparent (configs : List ReverseProxyConfig) (net : LocalNet)
    (request response : Stream IoError) {d : Bytes} (ht : request.bytes.head? = some 0x02)
    (hd : net.recvUdp = .datagram d)
    (hb : response.bytes = (handleTunnelStream configs net request).written) : sentToPeer response ≠ [d] := by
  intro hsent
  have hlen := length_of_mem_sentToPeer (s := response) (d := d) (by rw [hsent]; exact List.mem_singleton_self d)
  rcases written_udp configs net ht with hw | ⟨d', hd', hw⟩
  · rw [hb, hw] at hlen
    simp at hlen
  · rw [hd] at hd'
    obtain rfl := UdpRecv.datagram.inj hd'
    rw [hb, hw, List.length_take] at hlen
    omega

theorem response_a_not_transparent :
    sentToPeer ⟨[[0, 1, 65]], some ⟨"early eof"⟩⟩ ≠ [[0, 1, 65]] :=
  udp_response_never_transparent Bincode.sampleProxies (sampleNet [0, 1, 65])
    ⟨[udpRequest 8080 [104, 105]], none⟩ _ (by decide) rfl (by decide)

theorem response_garbled :
    (handleTunnelStream Bincode.sampleProxies (sampleNet [0, 1, 65]) ⟨[udpRequest 8080 [104, 105]], none⟩).written =
        [0, 1, 65] ∧
      sentToPeer ⟨[[0, 1, 65]], some ⟨"early eof"⟩⟩ = [[65]] ∧
      sentToPeer ⟨[[0, 1, 65]], some ⟨"early eof"⟩⟩ ≠ [[0, 1, 65]] := by
  decide

end GscFq.Tunnel
