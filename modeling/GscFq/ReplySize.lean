import GscFq.ServerHandshake
import Mathlib.Data.Nat.Digits.Defs

/-!
Every reply to a hello that fits in one frame fits in one frame. The bounds are coarse: four bytes
for a character, one more character than needed for each part that is joined.
-/

namespace GscFq

open ByteStream Text

theorem utf8_ofList_length (cs : List Char) : (utf8 (String.ofList cs)).length ≤ 4 * cs.length := by
  have hsize : (utf8 (String.ofList cs)).length = (String.ofList cs).utf8ByteSize := rfl
  rw [hsize]
  induction cs with
  | nil => exact Nat.le_refl _
  | cons c cs ih =>
    have hc := Char.utf8Size_le_four c
    rw [String.ofList_cons, String.utf8ByteSize_append, String.utf8ByteSize_singleton, List.length_cons]
    have ih' := ih rfl
    omega

theorem utf8_length (s : String) : (utf8 s).length ≤ 4 * s.length := by
  have h := utf8_ofList_length s.toList
  rw [String.ofList_toList, String.length_toList] at h
  exact h

theorem join_length (c : Char) (parts : List String) (n : ℕ) (h : ∀ p ∈ parts, p.length ≤ n) :
    (join c parts).length ≤ (n + 1) * parts.length := by
  rw [join, String.length_ofList]
  induction parts with
  | nil => exact Nat.zero_le _
  | cons p parts ih =>
    have hp := h p List.mem_cons_self
    have ih' := ih (fun q hq => h q (List.mem_cons_of_mem p hq))
    cases parts with
    | nil =>
      simp only [List.map_cons, List.map_nil, List.intercalate, List.intersperse_singleton, List.flatten_cons,
        List.flatten_nil, List.append_nil, String.length_toList, List.length_cons, List.length_nil]
      omega
    | cons q parts =>
      simp only [List.map_cons, List.intercalate, List.intersperse_cons_cons, List.flatten_cons, List.length_append,
        String.length_toList, List.length_cons, List.length_nil] at ih' ⊢
      nlinarith

theorem decimal_length (n e : ℕ) (he : 0 < e) (h : n < 10 ^ e) : (toString n).length ≤ e :=
  Nat.repr_length n e he h

theorem u16_length (p : UInt16) : (toString p.toNat).length ≤ 5 := by
  have hp := p.toNat_lt
  exact decimal_length _ 5 (by decide) (by omega)

theorem u8_length (b : UInt8) : (toString b.toNat).length ≤ 3 := by
  have hb := b.toNat_lt
  exact decimal_length _ 3 (by decide) (by omega)

theorem dotted_length (bs : Bytes) : (join '.' (bs.map (fun n => toString n.toNat))).length ≤ 4 * bs.length := by
  have h := join_length '.' (bs.map (fun n => toString n.toNat)) 3 (by
    intro p hp
    obtain ⟨b, -, rfl⟩ := List.mem_map.mp hp
    exact u8_length b)
  rwa [List.length_map] at h

theorem fmtSubslice_length (groups : List UInt16) : (IpAddr.fmtSubslice groups).length ≤ 5 * groups.length := by
  have h := join_length ':' (groups.map IpAddr.hexGroup) 4 (by
    intro p hp
    obtain ⟨g, -, rfl⟩ := List.mem_map.mp hp
    have hg := g.toNat_lt
    rw [IpAddr.hexGroup, String.length_ofList]
    exact Nat.toDigits_length 16 _ 4 (by decide) (by omega))
  rwa [List.length_map] at h

theorem ip_display_length (ip : IpAddr) : ip.display.length ≤ 82 := by
  cases ip with
  | v4 a b c d =>
    have h := dotted_length [a, b, c, d]
    simp only [IpAddr.display, List.length_cons, List.length_nil] at h ⊢
    omega
  | v6 segments =>
    have hlen : segments.toList.length = 8 := by simp
    simp only [IpAddr.display]
    split
    · rename_i x y _
      have h := dotted_length (be16 x ++ be16 y)
      have h4 : (be16 x ++ be16 y).length = 4 := rfl
      have h7 : "::ffff:".length = 7 := rfl
      rw [String.length_append]
      omega
    · split
      · have h₁ := fmtSubslice_length (segments.toList.take (IpAddr.longestZeros 0 segments.toList (0, 0) (0, 0)).1)
        have h₂ := fmtSubslice_length (segments.toList.drop
          ((IpAddr.longestZeros 0 segments.toList (0, 0) (0, 0)).1 +
            (IpAddr.longestZeros 0 segments.toList (0, 0) (0, 0)).2))
        have hc : "::".length = 2 := rfl
        rw [List.length_take] at h₁
        rw [List.length_drop] at h₂
        rw [String.length_append, String.length_append]
        omega
      · have h := fmtSubslice_length segments.toList
        omega

theorem addr_display_length (a : SocketAddr) : a.display.length ≤ 101 := by
  have hip := ip_display_length a.ip
  have hport := u16_length a.port
  have hscope : (toString a.scope.toNat).length ≤ 10 := by
    have hs := a.scope.toNat_lt
    exact decimal_length _ 10 (by decide) (by omega)
  have hc : ":".length = 1 ∧ "[".length = 1 ∧ "]:".length = 2 ∧ "%".length = 1 := ⟨rfl, rfl, rfl, rfl⟩
  unfold SocketAddr.display
  split
  · simp only [String.length_append]
    omega
  · split <;> simp only [String.length_append] <;> omega

namespace ReverseProxyServer

theorem sessionId_length (stamp : UInt64) (addr : SocketAddr) : (sessionId stamp addr).length ≤ 130 := by
  have ha := addr_display_length addr
  have hs : (toString stamp.toNat).length ≤ 20 := by
    have hlt := stamp.toNat_lt
    exact decimal_length _ 20 (by decide) (by omega)
  have hc : "session_".length = 8 ∧ "_".length = 1 := ⟨rfl, rfl⟩
  simp only [sessionId, String.length_append]
  omega

open ControlMessage

theorem okReply_size (stamp : UInt64) (addr : SocketAddr) (proxies : List ReverseProxyConfig) (e : ℕ) (he : 0 < e)
    (h : proxies.length < 10 ^ e) :
    encodedSize (.serverHello (okReply stamp addr proxies)) ≤ 700 + 4 * e + 2 * proxies.length := by
  have hs := sessionId_length stamp addr
  have hs' := utf8_length (sessionId stamp addr)
  have hn := decimal_length proxies.length e he h
  have hm := utf8_length ("Connected, " ++ toString proxies.length ++ " ports allocated")
  have hc : "Connected, ".length = 11 ∧ " ports allocated".length = 16 := ⟨rfl, rfl⟩
  rw [String.length_append, String.length_append] at hm
  have hports : ((proxies.map (·.serverPort)).map (fun _ => 2)).sum = 2 * proxies.length := by
    rw [List.map_map, Function.comp_def, List.map_const', List.sum_replicate, smul_eq_mul, Nat.mul_comm]
  simp only [encodedSize, okReply, textSize, listSize, optionSize, hports]
  omega

theorem proxies_le_size (hello : ClientHello) : 13 * hello.proxies.length ≤ encodedSize (.clientHello hello) := by
  have hp : 13 * hello.proxies.length ≤ (hello.proxies.map proxySize).sum := by
    induction hello.proxies with
    | nil => exact Nat.le_refl _
    | cons c proxies ih =>
      have hc : 13 ≤ proxySize c := by
        have ho : 1 ≤ optionSize textSize c.serverHost := by
          cases c.serverHost <;> simp [optionSize]
        simp only [proxySize, textSize]
        omega
      simp only [List.map_cons, List.sum_cons, List.length_cons]
      omega
  simp only [encodedSize, listSize]
  omega

theorem okReply_fits {hello : ClientHello} (h : encodedSize (.clientHello hello) ≤ maxMessageSize)
    (stamp : UInt64) (addr : SocketAddr) :
    encodedSize (.serverHello (okReply stamp addr hello.proxies)) ≤ maxMessageSize := by
  have hp := proxies_le_size hello
  have hmax : maxMessageSize = 16777216 := rfl
  have hs := okReply_size stamp addr hello.proxies 7 (by decide) (by omega)
  omega

end ReverseProxyServer

end GscFq
