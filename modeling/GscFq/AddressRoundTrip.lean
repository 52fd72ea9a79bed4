import GscFq.AddressText

namespace GscFq.IpAddr

open ByteStream Text

theorem readGivenChar_not_mem {c : Char} {cs : List Char} (h : c ∉ cs) : readGivenChar c cs = none := by
  cases cs with
  | nil => rfl
  | cons d cs =>
    have hne : d ≠ c := by
      rintro rfl
      exact h List.mem_cons_self
    simp [readGivenChar, hne]

theorem readNumber_rest {radix bound n : ℕ} {maxDigits : Option ℕ} {allowZeroPrefix : Bool} {cs rest : List Char}
    (h : readNumber radix maxDigits allowZeroPrefix bound cs = some (n, rest)) : rest ⊆ cs := by
  unfold readNumber at h
  dsimp only at h
  split at h
  · cases h
  · cases h
    exact (List.dropWhile_suffix _).subset

theorem readIpv4Addr_no_dot {cs : List Char} (h : '.' ∉ cs) : readIpv4Addr cs = none := by
  cases ho : readOctet true cs with
  | none => simp [readIpv4Addr, ho]
  | some p =>
    have hrest : '.' ∉ p.2 := fun hdot => h (readNumber_rest ho hdot)
    have hnext : readOctet false p.2 = none := by simp [readOctet, readSeparator, readGivenChar_not_mem hrest]
    simp [readIpv4Addr, ho, hnext]

theorem readSeparator_no_dot {first : Bool} {cs : List Char} (h : '.' ∉ cs) :
    readSeparator ':' first readIpv4Addr cs = none := by
  unfold readSeparator
  split
  · exact readIpv4Addr_no_dot h
  · cases cs with
    | nil => rfl
    | cons c cs =>
      have hrest : '.' ∉ cs := fun hdot => h (List.mem_cons_of_mem c hdot)
      by_cases hc : c = ':'
      · simp [readGivenChar, hc, readIpv4Addr_no_dot hrest]
      · simp [readGivenChar, hc]

theorem readOctet_toDigits (n : UInt8) {rest : List Char} (hrest : rest.takeWhile (isDigitIn 10) = []) :
    readOctet true (Nat.toDigits 10 n.toNat ++ rest) = some (n.toNat, rest) := by
  have hn := n.toNat_lt
  apply readNumber_append Nat.toDigits_ne_nil (isDigitIn_toDigits (.inl rfl)) hrest
    (digitsValue_toDigits (by decide) (by decide) n.toNat) hn
  · intro m hm
    cases hm
    rw [Nat.length_toDigits_le_iff (by decide) (by decide)]
    omega
  · by_cases hzero : n.toNat = 0
    · simp [hzero]
    · exact .inr (.inl (toDigits_head (by decide) (by decide) hzero))

def dotted (a b c d : UInt8) : List Char :=
  Nat.toDigits 10 a.toNat ++ '.' :: (Nat.toDigits 10 b.toNat ++ '.' ::
    (Nat.toDigits 10 c.toNat ++ '.' :: Nat.toDigits 10 d.toNat))

theorem dot_stops (cs : List Char) : ('.' :: cs).takeWhile (isDigitIn 10) = [] :=
  List.takeWhile_cons_of_neg (by decide)

theorem readIpv4Addr_dotted (a b c d : UInt8) : readIpv4Addr (dotted a b c d) = some ((a, b, c, d), []) := by
  have hdot (n : UInt8) {rest : List Char} (hrest : rest.takeWhile (isDigitIn 10) = []) :
      readOctet false ('.' :: (Nat.toDigits 10 n.toNat ++ rest)) = some (n.toNat, rest) :=
    readOctet_toDigits n hrest
  have hlast := @hdot d [] rfl
  rw [List.append_nil] at hlast
  simp only [readIpv4Addr, dotted, readOctet_toDigits a (dot_stops _), hdot b (dot_stops _), hdot c (dot_stops _), hlast,
    Option.bind_eq_bind, Option.bind_some, UInt8.ofNat_toNat]
  rfl

theorem join_dotted (a b c d : UInt8) : (join '.' ([a, b, c, d].map (fun n => toString n.toNat))).toList = dotted a b c d := by
  simp [join, dotted, List.intercalate]

/-- The text between two colons, and that of the groups that follow one. -/
def hex (g : UInt16) : List Char := Nat.toDigits 16 g.toNat

def tailText (gs : List UInt16) : List Char := gs.flatMap (fun g => ':' :: hex g)

theorem fmtSubslice_cons (g : UInt16) (gs : List UInt16) : (fmtSubslice (g :: gs)).toList = hex g ++ tailText gs := by
  induction gs generalizing g with
  | nil => simp [fmtSubslice, join, hexGroup, hex, tailText, List.intercalate]
  | cons g' gs ih =>
    have hrest := ih g'
    simp only [fmtSubslice, join, hexGroup, String.toList_ofList, List.map_cons] at hrest
    simp only [fmtSubslice, join, hexGroup, String.toList_ofList, List.map_cons, List.intercalate_cons_cons, hrest, tailText,
      List.flatMap_cons, hex, List.cons_append, List.nil_append, List.append_assoc]

def groupsText : List UInt16 → List Char
  | [] => []
  | g :: gs => hex g ++ tailText gs

theorem fmtSubslice_toList (gs : List UInt16) : (fmtSubslice gs).toList = groupsText gs := by
  cases gs with
  | nil => rfl
  | cons g gs => exact fmtSubslice_cons g gs

theorem dot_not_mem_hex (g : UInt16) : '.' ∉ hex g := by
  intro h
  obtain ⟨d, hd, hdot⟩ := mem_toDigits (by decide) h
  exact (digitChar_spec hd).2.2.2.2 hdot.symm

theorem dot_not_mem_tailText (gs : List UInt16) : '.' ∉ tailText gs := by
  intro h
  obtain ⟨g, -, hg⟩ := List.mem_flatMap.mp h
  rcases List.mem_cons.mp hg with hc | hg
  · cases hc
  · exact dot_not_mem_hex g hg

theorem groupsText_no_dot (gs : List UInt16) : '.' ∉ groupsText gs := by
  cases gs with
  | nil => exact List.not_mem_nil
  | cons g gs =>
    rw [groupsText, List.mem_append, not_or]
    exact ⟨dot_not_mem_hex g, dot_not_mem_tailText gs⟩

/-- Where a list of groups ends: at the end of the text or before two colons. -/
def Ends (rest : List Char) : Prop := rest = [] ∨ ∃ cs, rest = ':' :: ':' :: cs

theorem Ends.no_digit {rest : List Char} (h : Ends rest) : rest.takeWhile (isDigitIn 16) = [] := by
  rcases h with rfl | ⟨cs, rfl⟩
  · rfl
  · exact List.takeWhile_cons_of_neg (by decide)

theorem readNumber_stuck {rest : List Char} (h : rest.takeWhile (isDigitIn 16) = []) :
    readNumber 16 (some 4) true 65536 rest = none := by
  simp [readNumber, h]

theorem Ends.readSeparator {rest : List Char} (h : Ends rest) (first : Bool) :
    readSeparator ':' first (readNumber 16 (some 4) true 65536) rest = none := by
  cases first with
  | true => exact readNumber_stuck h.no_digit
  | false =>
    rcases h with rfl | ⟨cs, rfl⟩
    · rfl
    · have hstuck : readNumber 16 (some 4) true 65536 (':' :: cs) = none :=
        readNumber_stuck (List.takeWhile_cons_of_neg (by decide))
      simp [IpAddr.readSeparator, readGivenChar, hstuck]

theorem tailText_stops {gs : List UInt16} {rest : List Char} (h : Ends rest) :
    (tailText gs ++ rest).takeWhile (isDigitIn 16) = [] := by
  cases gs with
  | nil => exact h.no_digit
  | cons g gs => exact List.takeWhile_cons_of_neg (by decide)

theorem readNumber_hex (g : UInt16) {rest : List Char} (h : rest.takeWhile (isDigitIn 16) = []) :
    readNumber 16 (some 4) true 65536 (hex g ++ rest) = some (g.toNat, rest) := by
  have hg := g.toNat_lt
  refine readNumber_append Nat.toDigits_ne_nil (isDigitIn_toDigits (.inr rfl)) h
    (digitsValue_toDigits (by decide) (by decide) g.toNat) hg ?_ (.inl rfl)
  intro m hm
  cases hm
  rw [hex, Nat.length_toDigits_le_iff (by decide) (by decide)]
  omega

theorem readGroups_ends {rest : List Char} (h : Ends rest) (first : Bool) (n : ℕ)
    (hipv4 : readSeparator ':' first readIpv4Addr rest = none) : readGroups n first rest = ([], false, rest) := by
  cases n with
  | zero => rfl
  | succ n => simp [readGroups, hipv4, h.readSeparator first]

theorem readGroups_group {first : Bool} {cs rest : List Char} {g : UInt16} {gs : List UInt16} {end' : Bool × List Char}
    (left : ℕ) (hipv4 : readSeparator ':' first readIpv4Addr cs = none)
    (hg : readSeparator ':' first (readNumber 16 (some 4) true 65536) cs = some (g.toNat, rest))
    (hrest : readGroups left false rest = (gs, end')) : readGroups (left + 1) first cs = (g :: gs, end') := by
  simp only [readGroups, hipv4, ite_self, hg, hrest, UInt16.ofNat_toNat]

theorem readGroups_embedded {first : Bool} {cs rest : List Char} {a b c d : UInt8} {left : ℕ} (hleft : 0 < left)
    (h : readSeparator ':' first readIpv4Addr cs = some ((a, b, c, d), rest)) :
    readGroups (left + 1) first cs = ([ofBe16 a b, ofBe16 c d], true, rest) := by
  simp only [readGroups, hleft, ↓reduceIte, h]

theorem readGroups_tailText {gs : List UInt16} {rest : List Char} (h : Ends rest) (hdot : '.' ∉ rest) {n : ℕ}
    (hn : gs.length ≤ n) : readGroups n false (tailText gs ++ rest) = (gs, false, rest) := by
  induction gs generalizing n with
  | nil => exact readGroups_ends h false n (readSeparator_no_dot hdot)
  | cons g gs ih =>
    obtain ⟨m, rfl⟩ : ∃ m, n = m + 1 := ⟨n - 1, by simp only [List.length_cons] at hn; omega⟩
    have hno : '.' ∉ tailText (g :: gs) ++ rest := by
      rw [List.mem_append, not_or]
      exact ⟨dot_not_mem_tailText _, hdot⟩
    have hcons : tailText (g :: gs) ++ rest = ':' :: (hex g ++ (tailText gs ++ rest)) := by simp [tailText]
    have hgroup : readSeparator ':' false (readNumber 16 (some 4) true 65536) (tailText (g :: gs) ++ rest) =
        some (g.toNat, tailText gs ++ rest) := by
      rw [hcons]
      simp only [readSeparator, Bool.false_eq_true, ↓reduceIte, readGivenChar, Option.bind_some]
      exact readNumber_hex g (tailText_stops h)
    exact readGroups_group m (readSeparator_no_dot hno) hgroup (ih (Nat.le_of_succ_le_succ hn))

theorem readGroups_groupsText {gs : List UInt16} {rest : List Char} (h : Ends rest) (hdot : '.' ∉ rest) {n : ℕ}
    (hn : gs.length ≤ n) : readGroups n true (groupsText gs ++ rest) = (gs, false, rest) := by
  cases gs with
  | nil => exact readGroups_ends h true n (readSeparator_no_dot hdot)
  | cons g gs =>
    obtain ⟨m, rfl⟩ : ∃ m, n = m + 1 := ⟨n - 1, by simp only [List.length_cons] at hn; omega⟩
    have hno : '.' ∉ groupsText (g :: gs) ++ rest := by
      rw [List.mem_append, not_or]
      exact ⟨groupsText_no_dot _, hdot⟩
    have hgroup : readSeparator ':' true (readNumber 16 (some 4) true 65536) (groupsText (g :: gs) ++ rest) =
        some (g.toNat, tailText gs ++ rest) := by
      simp only [readSeparator, ↓reduceIte, groupsText, List.append_assoc]
      exact readNumber_hex g (tailText_stops h)
    exact readGroups_group m (readSeparator_no_dot hno) hgroup (readGroups_tailText h hdot (Nat.le_of_succ_le_succ hn))

theorem ofGroups_eq {head tail : List UInt16} {segments : Vector UInt16 8}
    (h : head ++ List.replicate (8 - head.length - tail.length) 0 ++ tail = segments.toList) :
    ofGroups head tail = .v6 segments := by
  unfold ofGroups
  rw [h]
  refine congrArg IpAddr.v6 ?_
  ext i hi
  simp

theorem readIpv6Addr_full {segments : Vector UInt16 8} :
    readIpv6Addr (groupsText segments.toList) = some (.v6 segments, []) := by
  have hlen : segments.toList.length = 8 := segments.length_toList
  have hread := @readGroups_groupsText segments.toList [] (.inl rfl) List.not_mem_nil 8 hlen.le
  rw [List.append_nil] at hread
  have hgroups : ofGroups segments.toList [] = .v6 segments := ofGroups_eq (by simp)
  simp only [readIpv6Addr, hread, hlen, ↓reduceIte, hgroups]

theorem readIpv6Addr_compressed {head tail : List UInt16} (hlen : head.length + tail.length < 8) :
    readIpv6Addr (groupsText head ++ ':' :: ':' :: groupsText tail) = some (ofGroups head tail, []) := by
  have hdot : '.' ∉ ':' :: ':' :: groupsText tail := by simp [groupsText_no_dot]
  have hhead := @readGroups_groupsText head _ (.inr ⟨_, rfl⟩) hdot 8 (by omega)
  have htail := @readGroups_groupsText tail [] (.inl rfl) List.not_mem_nil (8 - (head.length + 1)) (by omega)
  rw [List.append_nil] at htail
  have hshort : head.length ≠ 8 := by omega
  simp only [readIpv6Addr, hhead, hshort, ↓reduceIte, Bool.false_eq_true, readGivenChar, Option.bind_eq_bind,
    Option.bind_some, htail]
  rfl

/-- A run `(start, len)` of zeros among the first `i` groups. -/
structure ZeroRun (gs : List UInt16) (i : ℕ) (run : ℕ × ℕ) : Prop where
  le : run.1 + run.2 ≤ i
  zero : ∀ k, run.1 ≤ k → k < run.1 + run.2 → gs[k]? = some 0

theorem ZeroRun.mono {gs : List UInt16} {i j : ℕ} {run : ℕ × ℕ} (h : ZeroRun gs i run) (hij : i ≤ j) :
    ZeroRun gs j run := ⟨h.le.trans hij, h.zero⟩

theorem ZeroRun.extend {gs : List UInt16} {i : ℕ} {current : ℕ × ℕ} (hg : gs[i]? = some 0)
    (hcurrent : ZeroRun gs i current) (hadjacent : current.2 = 0 ∨ current.1 + current.2 = i) {next : ℕ × ℕ}
    (hnext : (if current.2 = 0 then (i, 1) else (current.1, current.2 + 1)) = next) :
    ZeroRun gs (i + 1) next ∧ next.1 + next.2 = i + 1 := by
  split at hnext
  · subst hnext
    refine ⟨⟨le_rfl, ?_⟩, rfl⟩
    intro k hk hk'
    obtain rfl : k = i := by
      simp only at hk hk'
      omega
    exact hg
  · rename_i hne
    subst hnext
    have hend : current.1 + current.2 = i := hadjacent.resolve_left hne
    refine ⟨⟨by simp only; omega, ?_⟩, by simp only; omega⟩
    intro k hk hk'
    simp only at hk hk'
    by_cases hki : k = i
    · exact hki ▸ hg
    · exact hcurrent.zero k hk (by omega)

theorem longestZeros_zeroRun {gs : List UInt16} {i : ℕ} {rest : List UInt16} {current longest : ℕ × ℕ}
    (hrest : gs.drop i = rest) (hi : i ≤ gs.length) (hcurrent : ZeroRun gs i current)
    (hadjacent : current.2 = 0 ∨ current.1 + current.2 = i) (hlongest : ZeroRun gs i longest) :
    ZeroRun gs gs.length (longestZeros i rest current longest) := by
  induction rest generalizing i current longest with
  | nil => exact hlongest.mono hi
  | cons g rest ih =>
    have hg : gs[i]? = some g := by
      rw [← Nat.add_zero i, ← List.getElem?_drop, hrest]
      rfl
    have hdrop : gs.drop (i + 1) = rest := by
      rw [← List.tail_drop, hrest]
      rfl
    have hlt : i < gs.length := (List.getElem?_eq_some_iff.mp hg).1
    unfold longestZeros
    by_cases hzero : g = 0
    · subst hzero
      rw [if_pos rfl]
      dsimp only
      generalize hnext : (if current.2 = 0 then (i, 1) else (current.1, current.2 + 1)) = next
      obtain ⟨hrun, hend⟩ := hcurrent.extend hg hadjacent hnext
      apply ih hdrop hlt hrun (.inr hend)
      split
      · exact hrun
      · exact hlongest.mono (Nat.le_succ i)
    · rw [if_neg hzero]
      exact ih hdrop hlt ⟨Nat.zero_le _, fun k _ hk => absurd hk (Nat.not_lt_zero k)⟩ (.inl rfl)
        (hlongest.mono (Nat.le_succ i))

theorem ZeroRun.split {gs : List UInt16} {run : ℕ × ℕ} (h : ZeroRun gs gs.length run) :
    gs.take run.1 ++ List.replicate run.2 0 ++ gs.drop (run.1 + run.2) = gs := by
  have hle := h.le
  have hmiddle : (gs.drop run.1).take run.2 = List.replicate run.2 0 := by
    apply List.eq_replicate_iff.mpr
    refine ⟨by simp only [List.length_take, List.length_drop]; omega, ?_⟩
    intro g hg
    obtain ⟨k, hk⟩ := List.mem_iff_getElem?.mp hg
    rw [List.getElem?_take] at hk
    split at hk
    · rename_i hlt
      rw [List.getElem?_drop, h.zero _ (Nat.le_add_right _ _) (Nat.add_lt_add_left hlt _)] at hk
      exact (Option.some.inj hk).symm
    · cases hk
  rw [← hmiddle, List.append_assoc, ← List.drop_drop, List.take_append_drop, List.take_append_drop]

theorem readIpv4Addr_colon (cs : List Char) : readIpv4Addr (':' :: cs) = none := rfl

theorem readIpAddr_v6 {cs : List Char} (h : readIpv4Addr cs = none) : readIpAddr cs = readIpv6Addr cs := by
  rw [readIpAddr, h]

theorem colon_stops (cs : List Char) : (':' :: cs).takeWhile (isDigitIn 16) = [] :=
  List.takeWhile_cons_of_neg (by decide)

theorem readIpv6Addr_mapped (a b c d : UInt8) :
    readIpv6Addr ("::ffff:".toList ++ dotted a b c d) = some (ofGroups [] [0xffff, ofBe16 a b, ofBe16 c d], []) := by
  have hembedded : readSeparator ':' false readIpv4Addr (':' :: dotted a b c d) = some ((a, b, c, d), []) :=
    readIpv4Addr_dotted a b c d
  have hgroup : readSeparator ':' true (readNumber 16 (some 4) true 65536) (hex 0xffff ++ ':' :: dotted a b c d) =
      some ((0xffff : UInt16).toNat, ':' :: dotted a b c d) := readNumber_hex 0xffff (colon_stops _)
  have htail : readGroups 7 true (hex 0xffff ++ ':' :: dotted a b c d) =
      ([0xffff, ofBe16 a b, ofBe16 c d], true, []) :=
    readGroups_group 6 rfl hgroup (readGroups_embedded (by decide) hembedded)
  have htext : "::ffff:".toList ++ dotted a b c d = ':' :: ':' :: (hex 0xffff ++ ':' :: dotted a b c d) := rfl
  have hhead (cs : List Char) : readGroups 8 true (':' :: ':' :: cs) = ([], false, ':' :: ':' :: cs) :=
    readGroups_ends (.inr ⟨cs, rfl⟩) true 8 rfl
  rw [htext]
  simp only [readIpv6Addr, hhead, ↓reduceIte, Bool.false_eq_true, readGivenChar, Option.bind_eq_bind,
    Option.bind_some, List.length_nil, Nat.zero_add, Nat.reduceSub, htail]
  rfl

theorem display_v4_toList (a b c d : UInt8) : (IpAddr.v4 a b c d).display.toList = dotted a b c d := join_dotted a b c d

theorem display_mapped_toList {segments : Vector UInt16 8} {x y : UInt16}
    (h : segments.toList = [0, 0, 0, 0, 0, 0xffff, x, y]) :
    (IpAddr.v6 segments).display.toList =
      "::ffff:".toList ++ dotted (x >>> 8).toUInt8 x.toUInt8 (y >>> 8).toUInt8 y.toUInt8 := by
  simp only [display, h, String.toList_append, be16, List.cons_append, List.nil_append]
  rw [join_dotted]

theorem readIpv6Addr_mapped_display {segments : Vector UInt16 8} {x y : UInt16}
    (h : segments.toList = [0, 0, 0, 0, 0, 0xffff, x, y]) :
    readIpAddr (IpAddr.v6 segments).display.toList = some (.v6 segments, []) := by
  have hgroups : ofGroups [] [0xffff, x, y] = .v6 segments := ofGroups_eq (by rw [h]; rfl)
  have hipv4 (cs : List Char) : readIpv4Addr ("::ffff:".toList ++ cs) = none := readIpv4Addr_colon _
  rw [display_mapped_toList h, readIpAddr_v6 (hipv4 _), readIpv6Addr_mapped, ofBe16_be16, ofBe16_be16, hgroups]

theorem readIpAddr_groups {segments : Vector UInt16 8} {run : ℕ × ℕ}
    (hrun : longestZeros 0 segments.toList (0, 0) (0, 0) = run) :
    readIpAddr (if 1 < run.2 then fmtSubslice (segments.toList.take run.1) ++ "::" ++
        fmtSubslice (segments.toList.drop (run.1 + run.2)) else fmtSubslice segments.toList).toList =
      some (.v6 segments, []) := by
  have hlen : segments.toList.length = 8 := segments.length_toList
  have hzeros : ZeroRun segments.toList segments.toList.length run := by
    have hempty : ZeroRun segments.toList 0 (0, 0) := ⟨le_rfl, fun k _ hk => absurd hk (Nat.not_lt_zero k)⟩
    rw [← hrun]
    exact longestZeros_zeroRun rfl (Nat.zero_le _) hempty (.inl rfl) hempty
  split
  · rename_i hlong
    have hle := hzeros.le
    have htext : (fmtSubslice (segments.toList.take run.1) ++ "::" ++
        fmtSubslice (segments.toList.drop (run.1 + run.2))).toList =
          groupsText (segments.toList.take run.1) ++ ':' :: ':' :: groupsText (segments.toList.drop (run.1 + run.2)) := by
      simp [fmtSubslice_toList]
    have hno : '.' ∉ groupsText (segments.toList.take run.1) ++
        ':' :: ':' :: groupsText (segments.toList.drop (run.1 + run.2)) := by
      simp [groupsText_no_dot]
    have hgroups : ofGroups (segments.toList.take run.1) (segments.toList.drop (run.1 + run.2)) = .v6 segments := by
      apply ofGroups_eq
      have hcount : 8 - (segments.toList.take run.1).length - (segments.toList.drop (run.1 + run.2)).length = run.2 := by
        rw [List.length_take, List.length_drop, hlen]
        omega
      rw [hcount]
      exact hzeros.split
    rw [htext, readIpAddr_v6 (readIpv4Addr_no_dot hno), readIpv6Addr_compressed, hgroups]
    rw [List.length_take, List.length_drop, hlen]
    omega
  · rw [fmtSubslice_toList, readIpAddr_v6 (readIpv4Addr_no_dot (groupsText_no_dot _)), readIpv6Addr_full]

theorem readIpAddr_display (ip : IpAddr) : readIpAddr ip.display.toList = some (ip, []) := by
  cases ip with
  | v4 a b c d => rw [display_v4_toList, readIpAddr, readIpv4Addr_dotted]
  | v6 segments =>
    by_cases hmapped : ∃ x y, segments.toList = [0, 0, 0, 0, 0, 0xffff, x, y]
    · obtain ⟨x, y, h⟩ := hmapped
      exact readIpv6Addr_mapped_display h
    · have hdisplay : (IpAddr.v6 segments).display =
          if 1 < (longestZeros 0 segments.toList (0, 0) (0, 0)).2 then
            fmtSubslice (segments.toList.take (longestZeros 0 segments.toList (0, 0) (0, 0)).1) ++ "::" ++
              fmtSubslice (segments.toList.drop ((longestZeros 0 segments.toList (0, 0) (0, 0)).1 +
                (longestZeros 0 segments.toList (0, 0) (0, 0)).2))
          else fmtSubslice segments.toList := by
        unfold display
        dsimp only
        split
        · rename_i x y h
          exact absurd ⟨x, y, h⟩ hmapped
        · rfl
      rw [hdisplay]
      exact readIpAddr_groups rfl

theorem parse_display (ip : IpAddr) : parse ip.display = some ip := by
  rw [parse, parseWith, readIpAddr_display]

end GscFq.IpAddr
