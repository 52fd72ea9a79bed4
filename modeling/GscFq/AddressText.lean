import GscFq.IpAddr

namespace GscFq.IpAddr

open Text

theorem digitChar_spec {d : ℕ} (h : d < 16) :
    digitValue (Nat.digitChar d) = d ∧ isDigitIn 16 (Nat.digitChar d) = true ∧
      (d < 10 → isDigitIn 10 (Nat.digitChar d) = true) ∧ (Nat.digitChar d = '0' → d = 0) ∧ Nat.digitChar d ≠ '.' := by
  interval_cases d <;> decide

theorem mem_toDigits {b n : ℕ} (hb : 1 < b) {c : Char} (h : c ∈ Nat.toDigits b n) : ∃ d < b, c = Nat.digitChar d := by
  induction n using Nat.strongRecOn with
  | _ n ih =>
    rw [Nat.toDigits_eq_if hb] at h
    split at h
    · rename_i hn
      exact ⟨n, hn, List.mem_singleton.mp h⟩
    · rename_i hn
      rcases List.mem_append.mp h with h | h
      · exact ih (n / b) (Nat.div_lt_self (by omega) hb) h
      · exact ⟨n % b, Nat.mod_lt n (by omega), List.mem_singleton.mp h⟩

theorem digitsValue_toDigits {b : ℕ} (hb : 1 < b) (hb' : b ≤ 16) (n : ℕ) :
    digitsValue b digitValue (Nat.toDigits b n) = n := by
  induction n using Nat.strongRecOn with
  | _ n ih =>
    rw [Nat.toDigits_eq_if hb]
    split
    · rename_i hn
      have hone := digitsValue_snoc b digitValue [] (Nat.digitChar n)
      rw [List.nil_append] at hone
      rw [hone, (digitChar_spec (hn.trans_le hb')).1]
      simp [digitsValue]
    · rename_i hn
      have hmod : n % b < 16 := (Nat.mod_lt n (by omega)).trans_le hb'
      rw [digitsValue_snoc, ih (n / b) (Nat.div_lt_self (by omega) hb), (digitChar_spec hmod).1, Nat.mul_comm]
      exact Nat.div_add_mod n b

theorem toDigits_head {b : ℕ} (hb : 1 < b) (hb' : b ≤ 16) {n : ℕ} (hn : n ≠ 0) :
    (Nat.toDigits b n).head? ≠ some '0' := by
  induction n using Nat.strongRecOn with
  | _ n ih =>
    rw [Nat.toDigits_eq_if hb]
    split
    · rename_i hlt
      intro hzero
      exact hn ((digitChar_spec (hlt.trans_le hb')).2.2.2.1 (Option.some.inj hzero))
    · rename_i hle
      have hpos : n / b ≠ 0 := (Nat.div_pos (by omega) (by omega)).ne'
      rw [List.head?_append_of_ne_nil _ Nat.toDigits_ne_nil]
      exact ih (n / b) (Nat.div_lt_self (by omega) hb) hpos

theorem readNumber_append {radix bound n : ℕ} {maxDigits : Option ℕ} {allowZeroPrefix : Bool} {ds rest : List Char}
    (hne : ds ≠ []) (hall : ∀ c ∈ ds, isDigitIn radix c = true) (hrest : rest.takeWhile (isDigitIn radix) = [])
    (hvalue : digitsValue radix digitValue ds = n) (hn : n < bound) (hlen : ∀ m ∈ maxDigits, ds.length ≤ m)
    (hzero : allowZeroPrefix = true ∨ ds.head? ≠ some '0' ∨ ds.length = 1) :
    readNumber radix maxDigits allowZeroPrefix bound (ds ++ rest) = some (n, rest) := by
  have htake : (ds ++ rest).takeWhile (isDigitIn radix) = ds := by
    rw [List.takeWhile_append_of_pos hall, hrest, List.append_nil]
  have hdrop : (ds ++ rest).dropWhile (isDigitIn radix) = rest := by
    have hcut := List.takeWhile_append_dropWhile (p := isDigitIn radix) (l := rest)
    rw [List.dropWhile_append_of_pos hall]
    rw [hrest, List.nil_append] at hcut
    exact hcut
  have hshort : ¬ maxDigits.any (· < ds.length) = true := by
    cases maxDigits with
    | none => simp
    | some m => simpa using hlen m rfl
  have hlead : ¬ ((!allowZeroPrefix) = true ∧ ds.head? = some '0' ∧ 1 < ds.length) := by
    rintro ⟨hallow, hhead, hlong⟩
    rcases hzero with hzero | hzero | hzero
    · simp [hzero] at hallow
    · exact hzero hhead
    · omega
  unfold readNumber
  dsimp only
  rw [htake, hdrop, hvalue, if_neg]
  rintro (h | h | h | h)
  · exact hne h
  · exact hshort h
  · exact hlead h
  · omega

theorem isDigitIn_toDigits {radix : ℕ} (hr : radix = 10 ∨ radix = 16) {n : ℕ} :
    ∀ c ∈ Nat.toDigits radix n, isDigitIn radix c = true := by
  intro c hc
  rcases hr with rfl | rfl
  · obtain ⟨d, hd, rfl⟩ := mem_toDigits (by decide) hc
    exact (digitChar_spec (by omega)).2.2.1 hd
  · obtain ⟨d, hd, rfl⟩ := mem_toDigits (by decide) hc
    exact (digitChar_spec hd).2.1

theorem readNumber_toDigits {n bound : ℕ} (hn : n < bound) {rest : List Char}
    (hrest : rest.takeWhile (isDigitIn 10) = []) :
    readNumber 10 none true bound (Nat.toDigits 10 n ++ rest) = some (n, rest) :=
  readNumber_append Nat.toDigits_ne_nil (isDigitIn_toDigits (.inl rfl)) hrest
    (digitsValue_toDigits (by decide) (by decide) n) hn (by simp) (.inl rfl)

theorem readPort_toDigits (port : UInt16) :
    readPort (':' :: Nat.toDigits 10 port.toNat) = some (port, []) := by
  have hread := @readNumber_toDigits port.toNat 65536 port.toNat_lt [] rfl
  rw [List.append_nil] at hread
  simp [readPort, readGivenChar, hread]

end GscFq.IpAddr
