import GscFq.LibraryFormats
import GscFq.TunnelStream

namespace GscFq.Tunnel

open ByteStream Text

variable {configs : List ReverseProxyConfig}

theorem ofBe_pair (hi lo : UInt8) : ofBe [hi, lo] = (ofBe16 hi lo).toNat := by
  have hh := hi.toNat_lt
  have hl := lo.toNat_lt
  simp only [ofBe, List.foldl_cons, List.foldl_nil, ofBe16, UInt16.toNat_ofNat']
  omega

theorem readExact_short_cases {n : ℕ} {s : Stream IoError} (h : s.bytes.length < n) :
    (readExact n s = .pending ∧ s.ending = none) ∨ ∃ e, readExact n s = .err e := by
  rw [readExact_short h]
  cases s.ending with
  | none => exact Or.inl ⟨rfl, rfl⟩
  | some e => exact Or.inr ⟨e, rfl⟩

theorem udpTunnel_spec (net : LocalNet) {port : UInt16} {target : ReverseProxyConfig}
    (hl : lookup configs port = some target) (s : Stream IoError) :
    match udpPayload s.bytes with
    | some payload => udpTunnel configs net port s = forwardUdp net target payload
    | none => (udpTunnel configs net port s = .waiting ∧ s.ending = none) ∨
        ∃ e, udpTunnel configs net port s = .fail e := by
  unfold udpTunnel
  rw [hl]
  match hb : s.bytes with
  | [] | [_] =>
    have hshort : s.bytes.length < 2 := by rw [hb]; simp
    rcases readExact_short_cases hshort with ⟨hp, ho⟩ | ⟨e, he⟩
    · exact Or.inl ⟨by simp [hp], ho⟩
    · exact Or.inr ⟨_, by simp [he]; rfl⟩
  | hi :: lo :: rest =>
    obtain ⟨s₁, h₁, hb₁, he₁⟩ := readExact_of_bytes (show s.bytes = [hi, lo] ++ rest from hb)
    have h₁' : readExact 2 s = .ok [hi, lo] s₁ := h₁
    simp only [udpPayload, h₁', ofBe_pair]
    by_cases hlen : (ofBe16 hi lo).toNat ≤ rest.length
    · have htake : (rest.take (ofBe16 hi lo).toNat).length = (ofBe16 hi lo).toNat := by
        rw [List.length_take]
        omega
      obtain ⟨s₂, h₂, -, -⟩ := readExact_of_bytes (hb₁.trans (List.take_append_drop (ofBe16 hi lo).toNat rest).symm)
      rw [htake] at h₂
      simp [hlen, h₂]
    · have hshort : s₁.bytes.length < (ofBe16 hi lo).toNat := by
        rw [hb₁]
        omega
      simp only [hlen, if_false]
      rcases readExact_short_cases hshort with ⟨hp, ho⟩ | ⟨e, he⟩
      · exact Or.inl ⟨by simp [hp], he₁.symm.trans ho⟩
      · exact Or.inr ⟨_, by simp [he]; rfl⟩

theorem handleTunnelStream_header (configs : List ReverseProxyConfig) (net : LocalNet) {s : Stream IoError}
    {msgType reserved hi lo : UInt8} {rest : Bytes} (hb : s.bytes = [msgType, reserved, hi, lo] ++ rest) :
    ∃ s₁ : Stream IoError, readExact 4 s = .ok [msgType, reserved, hi, lo] s₁ ∧ s₁.bytes = rest ∧
      s₁.ending = s.ending ∧ handleTunnelStream configs net s =
        if msgType = 0x01 then tcpTunnel configs net (ofBe16 hi lo) s₁
        else if msgType = 0x02 then udpTunnel configs net (ofBe16 hi lo) s₁
        else if msgType = 0x03 then .fail (connectionFailed "PROXY protocol not implemented")
        else .fail (connectionFailed ("Unknown protocol type 0x" ++ lowerHex [msgType])) := by
  obtain ⟨s₁, h₁, hb₁, he₁⟩ := readExact_of_bytes hb
  have h₁' : readExact 4 s = .ok [msgType, reserved, hi, lo] s₁ := h₁
  exact ⟨s₁, h₁', hb₁, he₁, by simp [handleTunnelStream, h₁']⟩

/-- The handler does what the bytes of its stream order, however they arrived; without an order it
waits for more of an open stream or fails, and touches nothing. -/
theorem handleTunnelStream_spec (configs : List ReverseProxyConfig) (net : LocalNet) (s : Stream IoError) :
    match parseOrder configs s.bytes with
    | some (.tcp target data) => ∃ rest : Stream IoError, rest.bytes = data ∧
        handleTunnelStream configs net s = forwardTcp net target rest
    | some (.udp target payload) => handleTunnelStream configs net s = forwardUdp net target payload
    | none => (handleTunnelStream configs net s = .waiting ∧ s.ending = none) ∨
        ∃ e, handleTunnelStream configs net s = .fail e := by
  match hb : s.bytes with
  | [] | [_] | [_, _] | [_, _, _] =>
    have hshort : s.bytes.length < 4 := by rw [hb]; simp
    rcases readExact_short_cases hshort with ⟨hp, ho⟩ | ⟨e, he⟩
    · exact Or.inl ⟨by simp [handleTunnelStream, hp], ho⟩
    · exact Or.inr ⟨_, by simp [handleTunnelStream, he]; rfl⟩
  | msgType :: reserved :: hi :: lo :: rest =>
    obtain ⟨s₁, -, hb₁, he₁, hh⟩ := handleTunnelStream_header configs net hb
    rw [hh]
    cases hl : lookup configs (ofBe16 hi lo) with
    | none =>
      simp only [parseOrder, hl, Option.bind_none]
      right
      split
      · exact ⟨_, by rw [tcpTunnel, hl]⟩
      · split
        · exact ⟨_, by rw [udpTunnel, hl]⟩
        · split <;> exact ⟨_, rfl⟩
    | some target =>
      simp only [parseOrder, hl, Option.bind_some]
      by_cases h1 : msgType = 0x01
      · simp only [h1, if_true]
        exact ⟨s₁, hb₁, by rw [tcpTunnel, hl]⟩
      · by_cases h2 : msgType = 0x02
        · have hspec := udpTunnel_spec net hl s₁
          rw [hb₁] at hspec
          cases hu : udpPayload rest with
          | none => simpa [h1, h2, hu, ← he₁] using hspec
          | some payload => simpa [h1, h2, hu] using hspec
        · simp only [h1, h2, if_false]
          right
          split <;> exact ⟨_, rfl⟩

theorem length_cast {payload : Bytes} (h : payload.length ≤ 65535) :
    (UInt16.ofNat payload.length).toNat = payload.length := by
  rw [UInt16.toNat_ofNat']
  omega

theorem parseOrder_udp (port : UInt16) {payload : Bytes} (h : payload.length ≤ 65535) (tail : Bytes) :
    parseOrder configs (udpRequest port payload ++ tail) =
      (lookup configs port).map (fun target => .udp target payload) := by
  have hp : udpPayload (be16 (UInt16.ofNat payload.length) ++ payload ++ tail) = some payload := by
    simp only [be16, List.cons_append, List.nil_append, udpPayload, ofBe16_be16, length_cast h]
    rw [if_pos (by rw [List.length_append]; omega), List.take_left' rfl]
  have hne : ¬ (0x02 : UInt8) = 0x01 := by decide
  rw [udpRequest, List.append_assoc, List.append_assoc, ← List.append_assoc (be16 _)]
  simp only [udpHeader, List.cons_append, List.nil_append, parseOrder, ofBe16_be16, if_neg hne, if_true, hp]
  cases lookup configs port <;> rfl

theorem handleTunnelStream_udp (configs : List ReverseProxyConfig) (net : LocalNet) (port : UInt16)
    {payload tail : Bytes} (h : payload.length ≤ 65535) {s : Stream IoError}
    (hs : s.bytes = udpRequest port payload ++ tail) :
    handleTunnelStream configs net s =
      match lookup configs port with
      | some target => forwardUdp net target payload
      | none => .fail (noTarget port) := by
  cases hl : lookup configs port with
  | some target =>
    have hspec := handleTunnelStream_spec configs net s
    rw [hs, parseOrder_udp port h tail, hl] at hspec
    exact hspec
  | none =>
    rw [udpRequest, List.append_assoc, List.append_assoc] at hs
    obtain ⟨s₁, -, -, -, hh⟩ := handleTunnelStream_header configs net hs
    simp only [hh, ofBe16_be16, if_neg (by decide : ¬ (0x02 : UInt8) = 0x01), if_true, udpTunnel, hl]

theorem tunnel_open_round_trip (configs : List ReverseProxyConfig) (net : LocalNet) (port : UInt16) :
    (∀ payload : Bytes, payload.length ≤ 65535 → (UInt16.ofNat payload.length).toNat = payload.length ∧
      ∀ (s : Stream IoError) (tail : Bytes), s.bytes = udpRequest port payload ++ tail →
        handleTunnelStream configs net s =
          match lookup configs port with
          | some target => forwardUdp net target payload
          | none => .fail (noTarget port)) ∧
    ∀ (data : Bytes) (s : Stream IoError), s.bytes = tcpHeader port ++ data →
      ∃ rest : Stream IoError, readExact 4 s = .ok (tcpHeader port) rest ∧ rest.bytes = data ∧
        handleTunnelStream configs net s = tcpTunnel configs net port rest ∧
        ∀ target, lookup configs port = some target → net.connectTcp = none →
          (handleTunnelStream configs net s).relayed = data := by
  refine ⟨fun payload h => ⟨length_cast h, fun s tail hs => handleTunnelStream_udp configs net port h hs⟩, ?_⟩
  intro data s hs
  obtain ⟨rest, hr, hb, -, hh⟩ := handleTunnelStream_header configs net hs
  simp only [ofBe16_be16, if_true] at hh
  refine ⟨rest, hr, hb, hh, ?_⟩
  intro target hl hc
  simp only [hh, tcpTunnel, hl, forwardTcp, hc]
  exact hb

def sampleNet (response : Bytes) : LocalNet := ⟨none, none, .datagram response, none, none, [], false⟩

theorem tunnel_open_round_trip_echo :
    handleTunnelStream Bincode.sampleProxies (sampleNet []) ⟨[[2, 0, 31], [144, 0, 2, 104, 105]], none⟩ =
      forwardUdp (sampleNet []) ⟨8080, none, "localhost", 3000⟩ [104, 105] :=
  ((tunnel_open_round_trip Bincode.sampleProxies (sampleNet []) 8080).1 [104, 105] (by decide)).2 _ [] (by decide)

end GscFq.Tunnel
