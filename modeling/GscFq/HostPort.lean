import GscFq.AddressText
import GscFq.ConfigFile
import Mathlib.Data.List.DropRight

namespace GscFq

namespace Text

theorem contains_iff {c : Char} {s : String} : contains c s = true ↔ c ∈ s.toList := List.contains_iff_mem

theorem join_split (c : Char) (s : String) : join c (split c s) = s := by
  unfold join split
  rw [List.map_map]
  have hid : String.toList ∘ String.ofList = id := by
    funext cs
    exact String.toList_ofList
  rw [hid, List.map_id, List.intercalate_splitOn, String.ofList_toList]

theorem trim_trim (s : String) : trim (trim s) = trim s := by
  have hfront : ∀ l : List Char, ((l.dropWhile isWhitespace).rdropWhile isWhitespace).dropWhile isWhitespace =
      (l.dropWhile isWhitespace).rdropWhile isWhitespace := by
    intro l
    cases hl : (l.dropWhile isWhitespace).rdropWhile isWhitespace with
    | nil => rfl
    | cons c cs =>
      -- what is left at the end begins where the text itself begins
      obtain ⟨t, ht⟩ := List.rdropWhile_prefix isWhitespace (l := l.dropWhile isWhitespace)
      rw [hl, List.cons_append] at ht
      have hc : isWhitespace c = false := by
        have hne : l.dropWhile isWhitespace ≠ [] := by simp [← ht]
        have hhead := List.head_dropWhile_not isWhitespace hne
        simpa [← ht] using hhead
      simp [hc]
  unfold trim
  rw [String.toList_ofList]
  change String.ofList (((((s.toList.dropWhile isWhitespace).rdropWhile isWhitespace).dropWhile
    isWhitespace).rdropWhile isWhitespace)) = _
  rw [hfront, List.rdropWhile_idempotent]
  rfl

theorem split_ne_nil (c : Char) (s : String) : split c s ≠ [] := by
  unfold split
  rw [Ne, List.map_eq_nil_iff]
  exact List.splitOn_ne_nil c s.toList

theorem split_append_cons {c : Char} {s t u : String} (h : s.toList = t.toList ++ c :: u.toList) :
    split c s = split c t ++ split c u := by
  unfold split
  rw [h, List.splitOn_append_cons_self, List.map_append]

theorem split_of_not_mem {c : Char} {s : String} (h : c ∉ s.toList) : split c s = [s] := by
  unfold split
  rw [List.splitOn_eq_singleton h, List.map_singleton, String.ofList_toList]

theorem two_le_length_split {c : Char} {s : String} (h : contains c s = true) : 2 ≤ (split c s).length := by
  obtain ⟨front, back, hs⟩ := List.append_of_mem (contains_iff.mp h)
  rw [← @String.toList_ofList front, ← @String.toList_ofList back] at hs
  rw [split_append_cons hs, List.length_append]
  have hfront := List.length_pos_iff.mpr (split_ne_nil c (String.ofList front))
  have hback := List.length_pos_iff.mpr (split_ne_nil c (String.ofList back))
  omega

theorem toString_toList (n : ℕ) : (toString n).toList = Nat.toDigits 10 n := String.toList_ofList

theorem decimal_toString (n : ℕ) : ∀ c ∈ (toString n).toList, c.isDigit = true := by
  intro c hc
  rw [toString_toList] at hc
  have hdigit := IpAddr.isDigitIn_toDigits (.inl rfl) c hc
  simpa [IpAddr.isDigitIn] using hdigit

theorem digitsValue_decimal (ds : List Char) (h : ∀ c ∈ ds, c.isDigit = true) :
    digitsValue 10 decimalDigit ds = digitsValue 10 IpAddr.digitValue ds := by
  induction ds using List.reverseRecOn with
  | nil => rfl
  | append_singleton ds c ih =>
    have hc : decimalDigit c = IpAddr.digitValue c := by
      rw [IpAddr.digitValue, if_pos (h c (by simp))]
      rfl
    have hrest := ih (fun d hd => h d (List.mem_append_left _ hd))
    unfold digitsValue at hrest ⊢
    rw [List.foldl_concat, List.foldl_concat, hrest, hc]

theorem parseU16_toString (n : UInt16) : parseU16 (toString n.toNat) = some n := by
  have hdigits := decimal_toString n.toNat
  rw [toString_toList] at hdigits
  have hplus : dropPlus (Nat.toDigits 10 n.toNat) = Nat.toDigits 10 n.toNat := by
    unfold dropPlus
    split
    · rename_i cs hcs
      have hplus := hdigits '+' (by rw [hcs]; exact List.mem_cons_self)
      exact absurd hplus (by decide)
    · rfl
  have hvalue : digitsValue 10 decimalDigit (Nat.toDigits 10 n.toNat) = n.toNat := by
    rw [digitsValue_decimal _ hdigits]
    exact IpAddr.digitsValue_toDigits (by decide) (by decide) _
  have hguard : ¬ (Nat.toDigits 10 n.toNat = [] ∨ ¬ (Nat.toDigits 10 n.toNat).all Char.isDigit = true) := by
    rintro (hnil | hall)
    · exact Nat.toDigits_ne_nil hnil
    · exact hall (List.all_eq_true.mpr hdigits)
  have hlt : n.toNat < 65536 := n.toNat_lt
  unfold parseU16 parseUnsigned
  dsimp only
  rw [toString_toList, hplus, if_neg hguard, hvalue, if_pos hlt, Option.map_some, UInt16.ofNat_toNat]

theorem colon_not_mem_toString (n : ℕ) : ':' ∉ (toString n).toList := by
  intro h
  exact absurd (decimal_toString n ':' h) (by decide)

end Text

open Text

variable {text h p : String}

theorem hostBeforeColon_eq (ht : text.toList = h.toList ++ ':' :: p.toList) (hp : ':' ∉ p.toList) :
    hostBeforeColon text = h := by
  unfold hostBeforeColon
  rw [split_append_cons ht, split_of_not_mem hp, List.dropLast_concat, join_split]

theorem portAfterColon_eq (path : String) {n : UInt16} (ht : text.toList = h.toList ++ ':' :: (toString n.toNat).toList) :
    portAfterColon path text = .ok n := by
  have hcolon : contains ':' text = true := contains_iff.mpr (by simp [ht])
  have hparts := two_le_length_split hcolon
  have hlast : (rsplit ':' text).getD 0 "" = toString n.toNat := by
    unfold rsplit
    rw [split_append_cons ht, split_of_not_mem (colon_not_mem_toString _), List.reverse_concat]
    rfl
  unfold portAfterColon
  dsimp only
  rw [if_pos hcolon, if_neg (by rw [rsplit, List.length_reverse]; omega), hlast, parsePort, parseU16_toString]

theorem ProxySection.getRemoteHost_eq {q : ProxySection} (ht : q.remote.toList = h.toList ++ ':' :: p.toList)
    (hp : ':' ∉ p.toList) : q.getRemoteHost = .ok h := by
  have hcolon : contains ':' q.remote = true := contains_iff.mpr (by simp [ht])
  have hparts := two_le_length_split hcolon
  unfold getRemoteHost
  rw [if_pos hcolon, if_neg (by omega), hostBeforeColon_eq ht hp]

theorem ProxySection.getRemoteHost_total (q : ProxySection) : ∃ host, q.getRemoteHost = .ok host := by
  unfold getRemoteHost
  split
  · rename_i hcolon
    have hparts := two_le_length_split hcolon
    exact ⟨_, if_neg (by omega)⟩
  · exact ⟨_, rfl⟩

def hostPort (host : String) (port : UInt16) : String := host ++ ":" ++ toString port.toNat

theorem hostPort_toList (host : String) (port : UInt16) :
    (hostPort host port).toList = host.toList ++ ':' :: (toString port.toNat).toList := by
  simp [hostPort]

theorem hostPort_contains (host : String) (port : UInt16) : contains ':' (hostPort host port) = true :=
  contains_iff.mpr (by simp [hostPort_toList])

theorem split_hostPort (host : String) (port : UInt16) :
    split ':' (hostPort host port) = split ':' host ++ [toString port.toNat] := by
  rw [split_append_cons (hostPort_toList host port), split_of_not_mem (colon_not_mem_toString _)]

theorem hostBeforeColon_hostPort (host : String) (port : UInt16) : hostBeforeColon (hostPort host port) = host :=
  hostBeforeColon_eq (hostPort_toList host port) (colon_not_mem_toString _)

theorem ProxySection.localAddr_hostPort (p : ProxySection) {host : String} (port : UInt16) (h : ':' ∉ host.toList) :
    { p with localAddr := hostPort host port }.getLocalIp = some host ∧
      { p with localAddr := hostPort host port }.getLocalPort = .ok port := by
  have hparts : split ':' (hostPort host port) = [host, toString port.toNat] := by
    rw [split_hostPort, split_of_not_mem h, List.singleton_append]
  constructor
  · unfold getLocalIp
    dsimp only
    rw [if_pos (hostPort_contains host port), hparts]
    rfl
  · unfold getLocalPort
    dsimp only
    rw [if_pos (hostPort_contains host port), hparts, if_neg (by simp), parsePort, List.getD_cons_succ,
      List.getD_cons_zero, parseU16_toString]

theorem ProxySection.localAddr_refused (p : ProxySection) {host : String} (port : UInt16) (h : ':' ∈ host.toList) :
    { p with localAddr := hostPort host port }.getLocalIp = none ∧
      ∃ e, { p with localAddr := hostPort host port }.getLocalPort = .error e := by
  have hparts : (split ':' (hostPort host port)).length ≠ 2 := by
    rw [split_hostPort, List.length_append, List.length_singleton]
    have htwo := two_le_length_split (contains_iff.mpr h)
    omega
  constructor
  · unfold getLocalIp
    dsimp only
    rw [if_pos (hostPort_contains host port), if_neg hparts]
  · unfold getLocalPort
    dsimp only
    rw [if_pos (hostPort_contains host port), if_pos hparts]
    exact ⟨_, rfl⟩

theorem host_port_split (host : String) (port : UInt16) :
    (∀ p : ProxySection, { p with remote := hostPort host port }.getRemoteHost = .ok host ∧
      { p with remote := hostPort host port }.getRemotePort = .ok port) ∧
    (∀ r : ReverseProxySection, { r with server := hostPort host port }.getServerIp = some host ∧
      { r with server := hostPort host port }.getServerPort = .ok port ∧
      { r with localAddr := hostPort host port }.getLocalHost = some host ∧
      { r with localAddr := hostPort host port }.getLocalPort = .ok port) ∧
    (∀ p : ProxySection,
      ({ p with localAddr := hostPort host port }.getLocalIp = some host ∧
        { p with localAddr := hostPort host port }.getLocalPort = .ok port ↔ ':' ∉ host.toList) ∧
      (':' ∈ host.toList → ∃ e, { p with localAddr := hostPort host port }.getLocalPort = .error e)) ∧
    ∀ text, contains ':' text = true → ¬ (split ':' text).length < 2 ∧ ¬ (rsplit ':' text).length < 2 := by
  have htext := hostPort_toList host port
  have hcolon := hostPort_contains host port
  have hparts := two_le_length_split hcolon
  have hhost := hostBeforeColon_hostPort host port
  refine ⟨?_, ?_, ?_, ?_⟩
  · intro p
    exact ⟨ProxySection.getRemoteHost_eq htext (colon_not_mem_toString _), portAfterColon_eq "remote" htext⟩
  · intro r
    refine ⟨?_, portAfterColon_eq "server" htext, ?_, portAfterColon_eq "local" htext⟩
    · unfold ReverseProxySection.getServerIp
      dsimp only
      rw [if_pos hcolon, if_pos hparts, hhost]
    · unfold ReverseProxySection.getLocalHost
      dsimp only
      rw [if_pos hcolon, if_pos hparts, hhost]
  · intro p
    refine ⟨⟨?_, p.localAddr_hostPort port⟩, fun h => (p.localAddr_refused port h).2⟩
    rintro ⟨hip, -⟩ hmem
    rw [(p.localAddr_refused port hmem).1] at hip
    cases hip
  · intro text h
    have htwo := two_le_length_split h
    rw [rsplit, List.length_reverse]
    omega

end GscFq
